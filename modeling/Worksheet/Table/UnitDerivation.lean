import Worksheet.CompoundUnit.Parser
import Worksheet.CompoundUnit.Printer
import Worksheet.Table.Aggregate
import Worksheet.Text.Numeral

/-!
# Units of formula columns

The unit of a formula column follows from the units of the columns and single values it refers
to.  A product, quotient, sum or difference of two references and a reference times a plain number
are recognised exactly.  Everything else is walked through from left to right: references multiply
or divide the unit as the last operator before them says, without regard to precedence and
parentheses, and an addition or subtraction keeps the unit and earns a warning.
-/

namespace Worksheet.Table

open Worksheet.Text

/-- A derived unit, and what the user should know about it. -/
structure DerivedUnit where
  unit : String
  warning : Option String := none
  deriving DecidableEq, Repr

/-- The warning of a sum that the walk cannot check. -/
def complexSumWarning : String := "Complex formula with +/- - verify units manually"

/-- The references to counts as a pattern. -/
def countPattern : Pattern Unit := fun _ s =>
  match aggregate? s with
  | some a => if a.function == "COUNT" then some ((), a.text.length) else none
  | none => none

/-- A formula with counts as a plain one, and then other aggregates as their columns. -/
def withoutAggregates (formula : String) : List Char :=
  substitute aggregatePattern (fun a => (bracket a.column).toList)
    (substitute countPattern (fun _ => ['1']) formula.toList)

/-- The unit of a reference: the column's, or else the single value's. -/
def unitOf (columnUnits scalarUnits : List (String × String)) (name : List Char) : CompoundUnit :=
  let name := String.ofList name
  let given := fun (units : List (String × String)) =>
    (units.lookup name).filter fun unit => !unit.isEmpty
  match given columnUnits, given scalarUnits with
  | some unit, _ => CompoundUnit.parse unit
  | none, some unit => CompoundUnit.parse unit
  | none, none => .unitless

/-- An operand that is recognised exactly. -/
inductive Operand where
  | reference (name : List Char)
  | constant
  deriving DecidableEq, Repr

/-- The operand at the head of a text, and what follows it and the blanks behind it. -/
def operand? (s : List Char) : Option (Operand × List Char) :=
  match bracketed? s, leadingDecimalWidth s with
  | some name, _ => some (.reference name, trimStart (s.drop (name.length + 2)))
  | none, n + 1 => some (.constant, trimStart (s.drop (n + 1)))
  | none, 0 => none

/-- A text that is nothing but two operands with a character between them. -/
def pair? (s : List Char) : Option (Operand × Char × Operand) := do
  let (left, rest) ← operand? (trimStart s)
  match rest with
  | op :: rest =>
    let (right, rest) ← operand? (trimStart rest)
    if rest.isEmpty then some (left, op, right) else none
  | [] => none

/-- The unit of a sum or difference of two references. -/
def sumUnit (a b : CompoundUnit) : DerivedUnit :=
  if a.compatible b then ⟨a.text, none⟩
  else ⟨a.text, some ("Unit mismatch: " ++ a.text ++ " vs " ++ b.text)⟩

/-- The unit of a formula of one of the exact shapes. -/
def exactUnit? (unitOf : List Char → CompoundUnit) (s : List Char) : Option DerivedUnit :=
  match pair? s with
  | some (.reference a, '*', .reference b) => some ⟨(unitOf a * unitOf b).text, none⟩
  | some (.reference a, '/', .reference b) => some ⟨(unitOf a / unitOf b).text, none⟩
  | some (.reference a, '+', .reference b) => some (sumUnit (unitOf a) (unitOf b))
  | some (.reference a, '-', .reference b) => some (sumUnit (unitOf a) (unitOf b))
  | some (.constant, '*', .reference a) => some ⟨(unitOf a).text, none⟩
  | some (.reference a, '*', .constant) => some ⟨(unitOf a).text, none⟩
  | _ => none

/-- What the walk stops at. -/
inductive Stop where
  | reference (name : List Char)
  | operator (c : Char)
  deriving DecidableEq, Repr

/-- The stops as a pattern. -/
def stopPattern : Pattern Stop := fun _ s =>
  match bracketed? s with
  | some name => some (.reference name, name.length + 2)
  | none =>
    match s with
    | c :: _ =>
      if c == '*' || c == '/' || c == '+' || c == '-' then some (.operator c, 1) else none
    | [] => none

/-- The state of the walk: the unit so far, the last operator, and whether it was a sum for some
reference. -/
structure Walk where
  unit : CompoundUnit := .unitless
  operator : Char := '*'
  summed : Bool := false

/-- The walk past one stop. -/
def Walk.step (unitOf : List Char → CompoundUnit) (walk : Walk) : Stop → Walk
  | .operator c => { walk with operator := c }
  | .reference name =>
    if walk.operator == '*' then { walk with unit := walk.unit * unitOf name }
    else if walk.operator == '/' then { walk with unit := walk.unit / unitOf name }
    else { walk with summed := true }

/-- The unit of a formula by the walk from left to right. -/
def walkedUnit (unitOf : List Char → CompoundUnit) (s : List Char) : DerivedUnit :=
  let walk := (matches? stopPattern s).foldl (Walk.step unitOf) {}
  ⟨walk.unit.text, if walk.summed then some complexSumWarning else none⟩

/-- The unit of a formula column. -/
def deriveUnit (formula : String) (columnUnits scalarUnits : List (String × String)) :
    DerivedUnit :=
  let s := withoutAggregates formula
  let unitOf := unitOf columnUnits scalarUnits
  if (matches? bracketPattern s).isEmpty then ⟨"unitless", none⟩
  else (exactUnit? unitOf s).getD (walkedUnit unitOf s)

end Worksheet.Table
