import Worksheet.Table.Fault
import Worksheet.Text.Case
import Worksheet.Text.Scan
import Worksheet.Value.Reading

/-!
# Filters

A filter keeps the rows whose cell in a column compares with a value, or with the cell in another
column, as an operator says.  Two sides that both read as numbers compare as numbers; two texts
compare as texts; for anything else no order holds and equality is by content.  A missing cell
equals an empty one but has no reading as a number.  An operator that is not known keeps every row.
-/

namespace Worksheet.Table

/-- What a cell is compared with. -/
inductive FilterMode where
  | value | column
  deriving DecidableEq, Repr

/-- The name of a mode. -/
def FilterMode.name : FilterMode → String
  | value => "value"
  | column => "column"

/-- All modes. -/
def FilterMode.all : List FilterMode := [value, column]

/-- A condition on rows. -/
structure Criteria where
  column : String
  operator : String
  value : Value := .null
  mode : FilterMode := .value

/-- The reading of a cell as a number: an empty cell is zero, a missing cell is no number. -/
def readingOf : Option Value → Except ArithmeticFault (Option Float)
  | none => .ok none
  | some .null => .ok (some 0.0)
  | some v => v.numericReading

/-- Two sides of a comparison, as they compare. -/
inductive Sides where
  | numbers (x y : Float)
  | texts (s t : String)
  | other (a b : Value)

/-- How two cells compare. -/
def sidesOf (a b : Option Value) : Except ArithmeticFault Sides := do
  let x? ← readingOf a
  let y? ← readingOf b
  match x?, y?, a.getD .null, b.getD .null with
  | some x, some y, _, _ => return .numbers x y
  | _, _, .text s, .text t => return .texts s t
  | _, _, a, b => return .other a b

/-- An order on two sides. -/
def Sides.ordered (onNumbers : Float → Float → Bool) (onTexts : String → String → Bool) :
    Sides → Bool
  | numbers x y => onNumbers x y
  | texts s t => onTexts s t
  | other _ _ => false

/-- Equality of two sides. -/
def Sides.equal : Sides → Bool
  | numbers x y => x == y
  | texts s t => s == t
  | other a b => a.same b

/-- The texts of two sides. -/
def Sides.toTexts : Sides → String × String
  | numbers x y => (Value.toText (.float x), Value.toText (.float y))
  | texts s t => (s, t)
  | other a b => (a.toText, b.toText)

/-- Whether the text of the left side contains that of the right one, in any case. -/
def Sides.contain (sides : Sides) : Bool :=
  let (text, part) := sides.toTexts
  Text.occursIn (Text.lower part).toList (Text.lower text).toList

/-- Whether an operator holds between two sides. -/
def Sides.hold (sides : Sides) (operator : String) : Bool :=
  match operator with
  | ">" => sides.ordered (fun x y => y < x) (fun s t => t < s)
  | "<" => sides.ordered (· < ·) (· < ·)
  | ">=" => sides.ordered (fun x y => y ≤ x) (fun s t => !(s < t))
  | "<=" => sides.ordered (· ≤ ·) (fun s t => !(t < s))
  | "==" => sides.equal
  | "!=" => !sides.equal
  | "contains" => sides.contain
  | _ => true

/-- The value or cell that a criterion compares with. -/
def Criteria.right (criteria : Criteria) (row : Row) : Option Value :=
  match criteria.mode with
  | .value => some criteria.value
  | .column => row.lookup criteria.value.plainText

/-- Whether a row satisfies a criterion. -/
def Criteria.matches? (criteria : Criteria) (row : Row) : Except ArithmeticFault Bool := do
  return (← sidesOf (row.lookup criteria.column) (criteria.right row)).hold criteria.operator

/-- The rows that satisfy a criterion. -/
def filterRows (criteria : Criteria) : List Row → Except ArithmeticFault (List Row)
  | [] => .ok []
  | row :: rows => do
    let keep ← criteria.matches? row
    let kept ← filterRows criteria rows
    return if keep then row :: kept else kept

/-- Keeps the rows of a dataset that satisfy a criterion. -/
def filter (d : Dataset) (criteria : Criteria) : Except ArithmeticFault Outcome :=
  if d.rows.isEmpty then .ok (.error .noSource)
  else do return changed { d with rows := ← filterRows criteria d.rows }

end Worksheet.Table
