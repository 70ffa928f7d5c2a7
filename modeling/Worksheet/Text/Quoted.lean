import Worksheet.Text.Printable

/-!
# Quoted text

A quoted text stands between single quotes, or between double quotes when it holds a single quote
and no double quote.  The backslash, the enclosing quote, the layout characters and everything
that is not printable are escaped.
-/

namespace Worksheet.Text

/-- The lower case hexadecimal digits of a number, padded with zeros to `width`. -/
def hexadecimal (width n : Nat) : List Char :=
  let digits := Nat.toDigits 16 n
  List.replicate (width - digits.length) '0' ++ digits

/-- A character written by its code. -/
def byCode (c : Char) : List Char :=
  if c.toNat < 0x100 then '\\' :: 'x' :: hexadecimal 2 c.toNat
  else if c.toNat < 0x10000 then '\\' :: 'u' :: hexadecimal 4 c.toNat
  else '\\' :: 'U' :: hexadecimal 8 c.toNat

/-- A text with every character that is not ASCII written by its code. -/
def asciiOnly (s : List Char) : List Char :=
  s.flatMap fun c => if c.toNat < 128 then [c] else byCode c

/-- The form of one character between the quotes `quote`. -/
def quoteChar (quote c : Char) : List Char :=
  if c == quote || c == '\\' then ['\\', c]
  else if c == '\n' then ['\\', 'n']
  else if c == '\r' then ['\\', 'r']
  else if c == '\t' then ['\\', 't']
  else if isPrintable c then [c]
  else byCode c

/-- The quote mark that encloses a text. -/
def quoteMark (s : List Char) : Char :=
  if s.contains '\'' && !s.contains '"' then '"' else '\''

/-- The text between quotes, with escapes. -/
def quoted (s : String) : String :=
  let quote := quoteMark s.toList
  String.ofList (quote :: s.toList.flatMap (quoteChar quote) ++ [quote])

end Worksheet.Text
