import Worksheet.Text.Numeral
import Worksheet.Text.Word

/-!
# Lexemes

A lexeme is a piece of a formula that belongs to one terminal of the grammar.  Which terminal a
word belongs to depends on where it stands.  Where an operand is expected the words `or`, `and`
and `xor` are plain names; where an operator is expected they are recognised even at the head of
a longer word, so that `1or2` reads as `1 or 2`.
-/

namespace Worksheet.Formula

open Worksheet.Text

/-- The terminals of the grammar. -/
inductive Terminal where
  | number | string | name
  | or | xor | and | not | true | false | null
  | plus | minus | star | slash | percent | caret
  | equal | notEqual | less | greater | atMost | atLeast
  | question | colon | comma | openParen | closeParen
  deriving DecidableEq, Repr

/-- The name of a terminal in the wording of a syntax fault. -/
def Terminal.label : Terminal → String
  | number => "NUMBER"
  | string => "STRING"
  | name => "NAME"
  | or => "OR"
  | xor => "XOR"
  | and => "AND"
  | not => "NOT"
  | true => "TRUE"
  | false => "FALSE"
  | null => "NULL"
  | plus => "PLUS"
  | minus => "MINUS"
  | star => "STAR"
  | slash => "SLASH"
  | percent => "PERCENT"
  | caret => "CIRCUMFLEX"
  | equal => "__ANON_0"
  | notEqual => "__ANON_1"
  | less => "LESSTHAN"
  | greater => "MORETHAN"
  | atMost => "__ANON_2"
  | atLeast => "__ANON_3"
  | question => "QMARK"
  | colon => "COLON"
  | comma => "COMMA"
  | openParen => "LPAR"
  | closeParen => "RPAR"

/-- A piece of a formula with its terminal. -/
structure Lexeme where
  terminal : Terminal
  text : List Char
  deriving DecidableEq, Repr

/-- Whether a character stands between lexemes without meaning anything. -/
def isLayout (c : Char) : Bool :=
  c == ' ' || c == '\t' || c == '\n' || c == '\r' || c == '\x0c'

/-- The terminals of the words that are literals. -/
def literalWords : List (String × Terminal) := [("true", .true), ("false", .false), ("null", .null)]

/-- The terminals of the words that are operators between two operands. -/
def logicalWords : List (String × Terminal) := [("or", .or), ("xor", .xor), ("and", .and)]

/-- The terminals of the words that may start an operand; `not` only where a negation may. -/
def operandWords (negation : Bool) : List (String × Terminal) :=
  if negation then ("not", .not) :: literalWords else literalWords

/-- All words that are more than names. -/
def allWords : List (String × Terminal) := ("not", .not) :: literalWords ++ logicalWords

/-- The terminals of the signs, those of two characters first. -/
def signs : List (List Char × Terminal) :=
  [(['=', '='], .equal), (['!', '='], .notEqual), (['<', '='], .atMost), (['>', '='], .atLeast),
   (['<'], .less), (['>'], .greater), (['+'], .plus), (['-'], .minus), (['*'], .star),
   (['/'], .slash), (['%'], .percent), (['^'], .caret), (['?'], .question), ([':'], .colon),
   ([','], .comma), (['('], .openParen), ([')'], .closeParen)]

/-- The word at the head of a text. -/
def word? : List Char → Option (List Char)
  | c :: s => if isNameStart c then some (c :: s.takeWhile isNameChar) else none
  | [] => none

/-- The string literal at the head of a text, with its quotes. -/
def string? : List Char → Option (List Char)
  | c :: s =>
    if c == '"' || c == '\'' then
      let body := s.takeWhile (· != c)
      if body.length == s.length then none else some (c :: body ++ [c])
    else none
  | [] => none

/-- The number at the head of a text. -/
def number? (s : List Char) : Option (List Char) :=
  match numeralWidth s with
  | 0 => none
  | n + 1 => some (s.take (n + 1))

/-- The sign at the head of a text. -/
def sign? (s : List Char) : Option Lexeme :=
  (signs.find? fun sign => sign.1.isPrefixOf s).map fun sign => ⟨sign.2, sign.1⟩

/-- The lexeme at the head of a text, where the listed words are more than names. -/
def lexeme? (words : List (String × Terminal)) (s : List Char) : Option Lexeme :=
  match word? s, number? s, string? s with
  | some w, _, _ => some ⟨(words.lookup (String.ofList w)).getD .name, w⟩
  | none, some n, _ => some ⟨.number, n⟩
  | none, none, some t => some ⟨.string, t⟩
  | none, none, none => sign? s

/-- The lexeme where an operand is expected. -/
def operandLexeme? (negation : Bool) (s : List Char) : Option Lexeme :=
  lexeme? (operandWords negation) s

/-- The lexeme where an operator is expected. -/
def operatorLexeme? (s : List Char) : Option Lexeme :=
  match logicalWords.find? fun word => word.1.toList.isPrefixOf s with
  | some word => some ⟨word.2, word.1.toList⟩
  | none => lexeme? allWords s

end Worksheet.Formula
