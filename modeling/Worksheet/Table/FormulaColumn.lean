import Worksheet.Table.Fault
import Worksheet.Table.Lookup
import Worksheet.Table.UnitDerivation

/-!
# Formula columns

A formula column evaluates one formula in every row.  The formula is compiled once: aggregates,
column references and references to single values are replaced by identifiers, in this order, and
the result is read as an expression.  A row then binds the identifiers of columns to its cells; what
belongs to the whole table, the aggregates, single values and whole columns, is bound in every row
and wins over a column of the same identifier.  The first row without a valid result fails the
operation.
-/

namespace Worksheet.Table

open Worksheet.Text

/-- A table formula made ready for the rows. -/
structure Compiled where
  expression : String
  expr : Formula.Expr
  constants : List (String × Value)
  columns : List (String × String)

/-- An expression with the identifier of a name in the place of its references. -/
def replaceReference (expression : List Char) (name : String) : List Char :=
  replaceAll (bracket name).toList (referenceName name).toList expression

/-- The value that an aggregate is bound to: zero if it has none. -/
def aggregateValue (a : Aggregate) (rows : List Row) : Except ArithmeticFault Value := do
  return .number ((← a.compute rows).getD (.int 0))

/-- The values of the aggregates of a formula, by identifier. -/
def aggregateBindings (formula : String) (rows : List Row) :
    Except ArithmeticFault (List (String × Value)) :=
  (aggregates formula).mapM fun a => do return (identifier a.text, ← aggregateValue a rows)

/-- A formula with the identifiers of aggregates in their place. -/
def replaceAggregates (formula : String) : List Char :=
  (aggregates formula).foldl
    (fun s a => replaceAll a.text.toList (identifier a.text).toList s) formula.toList

/-- The identifiers of the columns of a dataset. -/
def columnReferences (d : Dataset) : List (String × String) :=
  (Keyed.distinct d.columnIds).map fun id => (id, referenceName id)

/-- All cells of a column, as they enter a scope. -/
def cellsOf (d : Dataset) (id : String) : Value :=
  .list (d.rows.map fun row => ((row.lookup id).getD .null).ofCell)

/-- Whether a formula has lookups. -/
def hasLookup (formula : String) : Bool := occursIn "XLOOKUP".toList formula.toList

/-- The whole columns that a formula can look up in. -/
def arrayBindings (formula : String) (d : Dataset) : List (String × Value) :=
  if hasLookup formula then
    (columnReferences d).map fun (id, reference) => (arrayName reference, cellsOf d id)
  else []

/-- A formula with identifiers in the place of all references. -/
def substituteReferences (formula : String) (d : Dataset) (scalars : List (String × ScalarInput)) :
    String :=
  let names := (columnReferences d).map (·.1) ++ scalars.map (·.1)
  let expression := names.foldl replaceReference (replaceAggregates formula)
  String.ofList (if hasLookup formula then
    withWholeColumns ((columnReferences d).map (·.2)) expression else expression)

/-- What a compiled formula sees in every row. -/
def tableBindings (formula : String) (d : Dataset) (scalars : List (String × ScalarInput)) :
    Except ArithmeticFault (List (String × Value)) := do
  let aggregates ← aggregateBindings formula d.rows
  let scalars := scalars.map fun (name, scalar) => (referenceName name, Value.float scalar.value)
  return Keyed.ofPairs (aggregates ++ scalars ++ arrayBindings formula d)

/-- Compiles a formula for a dataset. -/
def compile (formula : String) (d : Dataset) (scalars : List (String × ScalarInput)) :
    Except ArithmeticFault (Except Formula.SyntaxFault Compiled) := do
  let constants ← tableBindings formula d scalars
  let expression := substituteReferences formula d scalars
  return (Formula.parse expression).map fun expr =>
    ⟨expression, expr, constants, columnReferences d⟩

/-- The value that a row binds to a column: not a number for a missing cell, zero for an empty
one. -/
def cellOf (row : Row) (id : String) : Value :=
  match row.lookup id with
  | none => .float Double.nan
  | some .null => .int 0
  | some v => v.ofCell

/-- The scope of a row. -/
def Compiled.scope (c : Compiled) (row : Row) : Scope := fun name =>
  match c.constants.lookup name with
  | some v => some v
  | none =>
    let named := c.columns.reverse.find? fun column => column.2 == name
    named.map fun column => cellOf row column.1

/-- Whether a value may stand in a formula column. -/
def isValidResult : Value → Bool
  | .number (.float x) => !x.isNaN
  | .number (.nan _) => false
  | .list _ => false
  | .record _ => false
  | _ => true

/-- The value of a compiled formula in a row, counted from one. -/
def Compiled.evalRow (c : Compiled) (index : Nat) (row : Row) : Except TableFault Value :=
  match c.expr.eval (c.scope row) with
  | .error fault => .error (.badRow index fault)
  | .ok v => if isValidResult v then .ok v else .error (.badResult index)

/-- The values of a compiled formula in all rows, the first of which has the number `index`. -/
def Compiled.evalRows (c : Compiled) : Nat → List Row → Except TableFault (List Value)
  | _, [] => .ok []
  | index, row :: rows => do
    let v ← c.evalRow index row
    let vs ← c.evalRows (index + 1) rows
    return v :: vs

/-- Why a formula column cannot be computed whatever the rows are. -/
def validate (formula newColumn : String) : Option TableFault :=
  if isBlankText formula then some .emptyFormula
  else
    match unknownWord? formula with
    | some word => some (.unknownWord word)
    | none => if isBlankText newColumn then some .noColumnName else none

/-- What a formula column is asked to be. -/
structure ColumnRequest where
  name : String
  formula : String
  columnUnits : Option (List (String × String)) := none
  scalars : List (String × ScalarInput) := []
  unitOverride : Option String := none

/-- The type of a column with the given cells. -/
def typeOf (cells : List Value) : ColumnType :=
  let isText : Value → Bool
    | .text _ => true
    | _ => false
  if cells.any isText then .string else .number

/-- The unit that the request asks for, or else the derived one. -/
def ColumnRequest.unit (request : ColumnRequest) (derived : DerivedUnit) : String :=
  match request.unitOverride with
  | some unit => if unit.isEmpty then derived.unit else unit
  | none => derived.unit

/-- A dataset with a new column, which replaces one of the same name. -/
def withColumn (d : Dataset) (column : Column) (cells : List Value) : Dataset :=
  ⟨List.zipWith (fun row cell => Keyed.put row column.id cell) d.rows cells,
   (d.columns.filter fun old => old.id != column.id) ++ [column]⟩

/-- The result of a request whose cells have been computed. -/
def ColumnRequest.finish (request : ColumnRequest) (d : Dataset) (derived : DerivedUnit)
    (cells : List Value) : Success :=
  let unit := request.unit derived
  { dataset := withColumn d ⟨request.name, request.name, typeOf cells, some unit⟩ cells
    newColumn := some request.name
    derivedUnit := some unit
    unitWarning := derived.warning }

/-- The derived unit of a request. -/
def ColumnRequest.derive (request : ColumnRequest) (d : Dataset) : DerivedUnit :=
  deriveUnit request.formula (request.columnUnits.getD d.units)
    (request.scalars.map fun (name, scalar) => (name, scalar.unit))

/-- Adds a formula column to a dataset.  Without rows nothing is evaluated, so a formula that
cannot be read does no harm. -/
def addColumn (d : Dataset) (request : ColumnRequest) : Except ArithmeticFault Outcome :=
  match validate request.formula request.name with
  | some fault => .ok (.error fault)
  | none => do
    let derived := request.derive d
    match ← compile request.formula d request.scalars with
    | .ok compiled => return (compiled.evalRows 1 d.rows).map (request.finish d derived)
    | .error fault =>
      if d.rows.isEmpty then return .ok (request.finish d derived [])
      else return .error (.badFormula fault)

end Worksheet.Table
