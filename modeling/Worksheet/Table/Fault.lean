import Worksheet.Formula.Eval
import Worksheet.Table.Dataset

/-!
# Faults of table operations

An operation is refused as a whole, or fails at a row; rows are counted from one, and a fault that
belongs to no row is placed at `-1`.
-/

namespace Worksheet.Table

/-- Why an operation on datasets has no result. -/
inductive TableFault where
  | emptyFormula
  | unknownWord (word : String)
  | noColumnName
  | badFormula (fault : Formula.SyntaxFault)
  | badRow (row : Nat) (fault : Formula.EvalFault)
  | badResult (row : Nat)
  | noSource
  | emptyMain
  | emptyLookup
  | noJoinKeys
  | noTargets
  | missingSource (index : Nat)
  deriving DecidableEq, Repr

/-- The start of the wording of a fault at a row. -/
def atRow (row : Nat) : String := "Error at row " ++ toString row ++ ": "

/-- The wording of a fault. -/
def TableFault.message : TableFault → String
  | emptyFormula => "Formula is empty"
  | unknownWord word =>
    "Invalid term \"" ++ word ++ "\" - column/scalar references must be in brackets like [" ++
      word ++ "]. If this is a function, check spelling."
  | noColumnName => "New column name is required"
  | badFormula fault => atRow 1 ++ fault.message
  | badRow row fault => atRow row ++ fault.message
  | badResult row => "Calculation resulted in invalid value at row " ++ toString row
  | noSource => "No source data connected"
  | emptyMain => "Main data is empty"
  | emptyLookup => "Lookup data is empty"
  | noJoinKeys => "Join keys are required"
  | noTargets => "Target columns are required"
  | missingSource index => "Combine source " ++ toString index ++ " is not connected"

/-- The row of a fault. -/
def TableFault.row : TableFault → Int
  | badFormula _ => 1
  | badRow row _ => row
  | badResult row => row
  | _ => -1

/-- The outcome of an operation on datasets. -/
abbrev Outcome := Except TableFault Success

/-- The outcome of an operation that only changes the dataset. -/
def changed (d : Dataset) : Outcome := .ok { dataset := d }

end Worksheet.Table
