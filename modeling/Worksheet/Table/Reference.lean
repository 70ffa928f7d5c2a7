import Worksheet.Formula.Function
import Worksheet.Formula.Lexeme
import Worksheet.Table.Aggregate

/-!
# References in table formulas

A table formula names columns and single values in brackets, so that names may hold any character
but a closing bracket.  Before it is read as a formula, every reference is replaced by an
identifier made from the name.  A word outside brackets and string literals has to be a word of
the language.
-/

namespace Worksheet.Table

open Worksheet.Text

/-- A name with every character that no identifier may hold replaced by an underscore, and one
more in front of a digit. -/
def identifier (name : String) : String :=
  let safe := name.toList.map fun c => if isNameChar c then c else '_'
  match safe with
  | c :: _ => String.ofList (if c.isDigit then '_' :: safe else safe)
  | [] => ""

/-- The identifier of a reference; what stands in front keeps it from being a word of the
language. -/
def referenceName (name : String) : String := "_c_" ++ identifier name

/-- The identifier of the list of all cells of a column. -/
def arrayName (reference : String) : String := "__col_" ++ reference

/-- The pattern of string literals. -/
def stringPattern : Pattern Unit := fun _ s =>
  (Formula.string? s).map fun literal => ((), literal.length)

/-- Whether a character is part of a word; the edge of a text is not. -/
def isInWord (c : Option Char) : Bool := (c.map isWordChar).getD false

/-- The pattern of bare words: identifiers that touch no word character of any script. -/
def wordPattern : Pattern (List Char) := fun before s =>
  match Formula.word? s with
  | some word =>
    if isInWord before || isInWord (s.drop word.length).head? then none
    else some (word, word.length)
  | none => none

/-- A formula without the matches of a pattern. -/
def without {α : Type} (pattern : Pattern α) (s : List Char) : List Char :=
  substitute pattern (fun _ => []) s

/-- What is left of a formula without string literals, aggregates and references. -/
def bareText (formula : String) : List Char :=
  without bracketPattern (without aggregatePattern (without stringPattern formula.toList))

/-- The first bare word of a formula that means nothing by itself. -/
def unknownWord? (formula : String) : Option String :=
  ((matches? wordPattern (bareText formula)).map String.ofList).find? fun word =>
    !Formula.isKnownWord word

end Worksheet.Table
