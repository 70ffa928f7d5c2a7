import Worksheet.Text.Blank
import Worksheet.Text.Case
import Worksheet.Text.Digit
import Worksheet.Text.Scan
import Worksheet.CompoundUnit.Basic

/-!
# Reading a compound unit

A unit text is cut at its slashes; the first part is the numerator and all others belong to the
denominator.  A part is a sequence of tokens separated by middle dots, asterisks and blanks.  A
token may carry an exponent after a caret, as a raised digit or as plain digits, unless it names a
molecule such as `CO2`; a negative exponent moves the token to the other side.  A token is repeated
as often as its exponent says: the length that an interpreter allows a list is left out.
-/

namespace Worksheet.CompoundUnit

open Worksheet.Text

/-- Molecules whose final digit belongs to the name. -/
def molecules : List String := ["CO2", "H2O", "SO2", "NO2", "CH4", "N2O", "O2", "N2", "H2"]

/-- The value of a raised digit that may serve as an exponent. -/
def raisedDigit? : Char → Option Nat
  | '²' => some 2
  | '³' => some 3
  | '⁴' => some 4
  | '⁵' => some 5
  | _ => none

/-- Whether a character may stand in the base of a token with a caret or a raised digit. -/
def isSymbolChar (c : Char) : Bool := c.isAlpha || c == '%' || c == '°'

/-- The value of a nonempty text of digits. -/
def exponentDigits? (cs : List Char) : Option Nat :=
  if cs.isEmpty || !cs.all isDecimalDigit then none else some (digitsValue cs)

/-- An exponent after a caret: digits with an optional minus. -/
def caretExponent? : List Char → Option Int
  | '^' :: '-' :: cs => (exponentDigits? cs).map fun n => -(n : Int)
  | '^' :: cs => (exponentDigits? cs).map fun n => (n : Int)
  | _ => none

/-- A raised digit that ends a token. -/
def raisedExponent? : List Char → Option Int
  | [c] => (raisedDigit? c).map fun n => (n : Int)
  | _ => none

/-- The base and the exponent of one token. -/
def splitToken (token : List Char) : String × Int :=
  let whole := String.ofList token
  let symbol := token.takeWhile isSymbolChar
  let tail := token.dropWhile isSymbolChar
  let letters := token.takeWhile Char.isAlpha
  let digits := token.dropWhile Char.isAlpha
  if molecules.contains (upper whole) then (whole, 1)
  else if symbol.isEmpty then (whole, 1)
  else
    match caretExponent? tail, raisedExponent? tail, exponentDigits? digits with
    | some e, _, _ => (String.ofList symbol, e)
    | none, some e, _ => (String.ofList symbol, e)
    | none, none, some n => if letters.isEmpty then (whole, 1) else (String.ofList letters, (n : Int))
    | none, none, none => (whole, 1)

/-- Whether a character separates tokens. -/
def isSeparator (c : Char) : Bool := c == '·' || c == '*' || isBlank c

/-- The tokens of one part of a unit text; a lone `1` stands for no token. -/
def partTokens (part : List Char) : List (List Char) :=
  (splitWhere isSeparator part).filter fun token => !token.isEmpty && token != ['1']

/-- The tokens that stay on the side of their part, and those that a negative exponent moves to the
other side. -/
def partSides (part : List Char) : List String × List String :=
  let powers := (partTokens part).map splitToken
  (powers.flatMap fun (base, e) => List.replicate e.toNat base,
   powers.flatMap fun (base, e) => List.replicate (-e).toNat base)

/-- The unit of parts of which the first is the numerator, before cancelling. -/
def ofParts : List (List Char) → CompoundUnit
  | [] => unitless
  | first :: rest =>
    let (above, below) := partSides first
    let sides := rest.map partSides
    ⟨above ++ sides.flatMap (·.2), below ++ sides.flatMap (·.1)⟩

/-- The unit that a text denotes; empty text and the word `unitless` denote the unit of plain
numbers. -/
def parse (s : String) : CompoundUnit :=
  let s := trim s
  if s.isEmpty || lower s == "unitless" then unitless
  else (ofParts (splitWhere (· == '/') s.toList)).simplify

/-- The unit of an optional text. -/
def parse? : Option String → CompoundUnit
  | none => unitless
  | some s => parse s

end Worksheet.CompoundUnit
