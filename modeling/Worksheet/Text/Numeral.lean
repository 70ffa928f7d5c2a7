import Worksheet.Text.Digit

/-!
# Numerals at the head of a text

How many characters of a text an unsigned numeral takes up: a plain decimal has digits with an
optional point, or a point with digits; an exponent is the letter `e`, an optional sign and digits.
Digits may be those of any script.
-/

namespace Worksheet.Text

/-- The number of digits at the head of a text. -/
def digitsWidth (s : List Char) : Nat := (s.takeWhile isDecimalDigit).length

/-- The length of a point and the digits behind it, at the head of a text; the digits may be
missing, the point may not. -/
def fractionWidth : List Char → Nat
  | '.' :: rest => 1 + digitsWidth rest
  | _ => 0

/-- The length of digits with an optional point and further digits, zero if no digit comes
first. -/
def leadingDecimalWidth (s : List Char) : Nat :=
  match digitsWidth s with
  | 0 => 0
  | n + 1 => (n + 1) + fractionWidth (s.drop (n + 1))

/-- The length of a decimal without exponent: digits come first, or a point with digits. -/
def decimalWidth (s : List Char) : Nat :=
  match leadingDecimalWidth s with
  | 0 => if fractionWidth s ≤ 1 then 0 else fractionWidth s
  | n + 1 => n + 1

/-- The length of the sign at the head of a text. -/
def signWidth : List Char → Nat
  | '+' :: _ => 1
  | '-' :: _ => 1
  | _ => 0

/-- The length of the exponent at the head of a text, zero if there is none. -/
def exponentWidth : List Char → Nat
  | c :: rest =>
    if c == 'e' || c == 'E' then
      match digitsWidth (rest.drop (signWidth rest)) with
      | 0 => 0
      | n + 1 => 1 + signWidth rest + (n + 1)
    else 0
  | [] => 0

/-- The length of a decimal with an optional exponent. -/
def numeralWidth (s : List Char) : Nat :=
  match decimalWidth s with
  | 0 => 0
  | n + 1 => (n + 1) + exponentWidth (s.drop (n + 1))

end Worksheet.Text
