import Worksheet.CompoundUnit.Parser
import Worksheet.Double.Reading
import Worksheet.Quantity.Basic
import Worksheet.Text.Numeral
import Worksheet.Value.Basic

/-!
# Quantity literals

A literal is a number followed by a unit.  The number may hold thousands commas anywhere before
its point and an exponent; the unit is all that follows, on one line.  A text that does not start
with a number, or that runs over several lines, denotes the unitless zero.
-/

namespace Worksheet.Quantity

open Worksheet.Text

/-- Whether a character may stand before the point of a number: a digit or a comma. -/
def isGrouped (c : Char) : Bool := c == ',' || isDecimalDigit c

/-- The length of a run of digits and commas up to its last digit. -/
def groupedWidth (run : List Char) : Nat := (run.reverse.dropWhile (· == ',')).length

/-- The length of the unsigned number at the head of a text without its exponent, zero if there is
none: digits and commas, then a point with digits, or else up to the last digit. -/
def mantissaWidth (s : List Char) : Nat :=
  let run := s.takeWhile isGrouped
  let fraction := fractionWidth (s.dropWhile isGrouped)
  if fraction ≤ 1 then groupedWidth run else run.length + fraction

/-- The length of the number at the head of a text, zero if there is none. -/
def numberWidth (s : List Char) : Nat :=
  let sign := match s with
    | '-' :: _ => 1
    | _ => 0
  match mantissaWidth (s.drop sign) with
  | 0 => 0
  | n + 1 => sign + (n + 1) + exponentWidth (s.drop (sign + (n + 1)))

/-- The quantity that a literal denotes. -/
def ofLiteral (s : String) : Quantity :=
  let s := trimChars s.toList
  let width := numberWidth s
  let unit := trimStart (s.drop width)
  if width == 0 || unit.contains '\n' then zero
  else
    match Double.read? ((s.take width).filter (· != ',')) with
    | some x => ⟨x, CompoundUnit.parse (String.ofList unit)⟩
    | none => zero

end Worksheet.Quantity

namespace Worksheet

/-- The value field of a source: a number, or the text of a literal. -/
inductive Entry where
  | number (x : Float)
  | literal (s : String)

namespace Entry

/-- The entry that a value stands for; lists, records and nothing are no entries. -/
def ofValue? : Value → Except ArithmeticFault (Option Entry)
  | .bool b => .ok (some (.number (if b then 1.0 else 0.0)))
  | .number x => do return some (.number (← x.toFloat))
  | .text s => .ok (some (.literal s))
  | _ => .ok none

/-- The quantity of a value field with its unit field; the unit field follows what unit the
literal has of its own. -/
def toQuantity (entry : Entry) (unit : Option String) : Quantity :=
  let unit := Text.trim (unit.getD "")
  match entry with
  | number x => ⟨x, CompoundUnit.parse unit⟩
  | literal s => Quantity.ofLiteral (s ++ " " ++ unit)

end Entry

/-- The reading of any value as a literal: only numbers and texts can denote something else than
the unitless zero. -/
def Quantity.ofValue : Value → Except ArithmeticFault Quantity
  | .bool b => .ok ⟨if b then 1.0 else 0.0, .unitless⟩
  | .number x => do return ⟨← x.toFloat, .unitless⟩
  | .text s => .ok (ofLiteral s)
  | _ => .ok zero

end Worksheet
