import Worksheet.Text.Numeral
import Worksheet.Text.Scan
import Worksheet.Text.Word

/-!
# Tokens of dimensional formulas

A formula over quantities is read more coarsely than a formula over values: names, decimals and
the signs `+ - * / ( ) ^` are tokens, and every other character is dropped.
-/

namespace Worksheet.Dimensional

open Worksheet.Text

/-- The operators and parentheses of dimensional formulas. -/
inductive Sign where
  | plus | minus | star | slash | openParen | closeParen | caret
  deriving DecidableEq, Repr

/-- A token. -/
inductive Token where
  | name (text : List Char)
  | number (text : List Char)
  | sign (s : Sign)
  deriving DecidableEq, Repr

/-- The sign that a character is. -/
def sign? : Char → Option Sign
  | '+' => some .plus
  | '-' => some .minus
  | '*' => some .star
  | '/' => some .slash
  | '(' => some .openParen
  | ')' => some .closeParen
  | '^' => some .caret
  | _ => none

/-- The character of a sign. -/
def Sign.char : Sign → Char
  | plus => '+'
  | minus => '-'
  | star => '*'
  | slash => '/'
  | openParen => '('
  | closeParen => ')'
  | caret => '^'

/-- The text of a token. -/
def Token.text : Token → List Char
  | name text => text
  | number text => text
  | sign s => [s.char]

/-- The name at the head of a text: an ASCII letter, then letters, digits and underscores. -/
def name? : List Char → Option (List Char)
  | c :: s => if c.isAlpha then some (c :: s.takeWhile isNameChar) else none
  | [] => none

/-- The token at the head of a text. -/
def token? (s : List Char) : Option Token :=
  match name? s, decimalWidth s with
  | some text, _ => some (.name text)
  | none, n + 1 => some (.number (s.take (n + 1)))
  | none, 0 => (s.head?.bind sign?).map .sign

/-- The tokens as a pattern. -/
def tokenPattern : Pattern Token := fun _ s => (token? s).map fun t => (t, t.text.length)

/-- The tokens of a formula. -/
def tokenize (formula : String) : List Token := matches? tokenPattern formula.toList

end Worksheet.Dimensional
