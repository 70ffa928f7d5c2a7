import Worksheet.Formula.Lexeme
import Worksheet.Text.Quoted

/-!
# Syntax faults

A formula is refused at the first lexeme that cannot continue it, at the first character that
starts no lexeme, or at its end.  A fault tells the line and the column, counted from one; only
the line feed starts a new line.
-/

namespace Worksheet.Formula

/-- A place in a formula. -/
structure Position where
  line : Nat := 1
  column : Nat := 1
  deriving DecidableEq, Repr

/-- The place behind a character. -/
def Position.after (p : Position) (c : Char) : Position :=
  if c == '\n' then ⟨p.line + 1, 1⟩ else ⟨p.line, p.column + 1⟩

/-- Why a text is not a formula. -/
inductive SyntaxFault where
  /-- A lexeme that cannot stand where it stands. -/
  | unexpected (lexeme : Lexeme) (position : Position)
  /-- The formula ends too early; the place is where its last lexeme starts. -/
  | unexpectedEnd (position : Position)
  /-- A character that starts no lexeme. -/
  | noLexeme (c : Char) (position : Position)
  deriving DecidableEq, Repr

/-- The place of a refused lexeme. -/
def unexpectedText (label text : String) (p : Position) : String :=
  "Unexpected token Token('" ++ label ++ "', " ++ Text.quoted text ++ ") at line " ++
    toString p.line ++ ", column " ++ toString p.column ++ "."

/-- The wording of a syntax fault. -/
def SyntaxFault.message (fault : SyntaxFault) : String :=
  "Invalid formula syntax: " ++ match fault with
    | unexpected lexeme p => unexpectedText lexeme.terminal.label (String.ofList lexeme.text) p
    | unexpectedEnd p => unexpectedText "$END" "" p
    | noLexeme c p =>
      "No terminal matches '" ++ c.toString ++ "' in the current parser context, at line " ++
        toString p.line ++ " col " ++ toString p.column

end Worksheet.Formula
