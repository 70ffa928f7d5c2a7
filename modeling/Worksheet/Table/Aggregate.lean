import Worksheet.Double.Sum
import Worksheet.Table.Dataset
import Worksheet.Text.Scan
import Worksheet.Value.Reading

/-!
# Aggregates

`$SUM_[Fuel]` stands for one number for the whole table: an aggregate of all numeric cells of a
column.  Cells that are no numbers are left out; an unknown function, or a column without a
numeric cell, gives nothing.
-/

namespace Worksheet.Table

open Worksheet.Text

/-- A reference to an aggregate of a column. -/
structure Aggregate where
  function : String
  column : String
  deriving DecidableEq, Repr

/-- A name in brackets, as it stands in a formula. -/
def bracket (name : String) : String := "[" ++ name ++ "]"

/-- The text of a reference in a formula. -/
def Aggregate.text (a : Aggregate) : String := "$" ++ a.function ++ "_" ++ bracket a.column

/-- The reference at the head of a text: a dollar sign, capitals, an underscore and a bracketed
column. -/
def aggregate? : List Char → Option Aggregate
  | '$' :: s =>
    let function := s.takeWhile Char.isUpper
    match s.dropWhile Char.isUpper with
    | '_' :: rest =>
      if function.isEmpty then none
      else (bracketed? rest).map fun column => ⟨String.ofList function, String.ofList column⟩
    | _ => none
  | _ => none

/-- The references as a pattern. -/
def aggregatePattern : Pattern Aggregate := fun _ s =>
  (aggregate? s).map fun a => (a, a.text.length)

/-- The references in a formula, each once, in order of first occurrence. -/
def aggregates (formula : String) : List Aggregate :=
  (matches? aggregatePattern formula.toList).foldl
    (fun seen a => if a ∈ seen then seen else seen ++ [a]) []

/-- The aggregate functions on the numbers of a column. -/
def aggregateOf (function : String) (xs : List Float) : Except ArithmeticFault (Option Number) :=
  match function with
  | "SUM" => do return some (.float (← Double.sum xs))
  | "AVG" => do return some (.float ((← Double.sum xs) / Float.ofNat xs.length))
  | "MIN" => .ok ((Double.least? xs).map .float)
  | "MAX" => .ok ((Double.greatest? xs).map .float)
  | "COUNT" => .ok (some (.int xs.length))
  | _ => .ok none

/-- The names of the aggregate functions. -/
def aggregateFunctions : List String := ["SUM", "AVG", "MIN", "MAX", "COUNT"]

/-- The numbers of a column, without the cells that are none. -/
def numbersOf (column : String) (rows : List Row) : Except ArithmeticFault (List Float) := do
  return (← rows.mapM fun row => ((row.lookup column).getD .null).numericReading).filterMap id

/-- The value of an aggregate over rows. -/
def Aggregate.compute (a : Aggregate) (rows : List Row) :
    Except ArithmeticFault (Option Number) := do
  if aggregateFunctions.contains a.function then
    let xs ← numbersOf a.column rows
    if xs.isEmpty then return none else aggregateOf a.function xs
  else return none

end Worksheet.Table
