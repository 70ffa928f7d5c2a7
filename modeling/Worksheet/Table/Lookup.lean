import Worksheet.Table.Reference
import Worksheet.Text.Blank

/-!
# Whole columns in lookups

The second and third argument of a lookup call stand for whole columns rather than cells.  In the
text of a formula the arguments of a call are what lies between the commas; the first argument ends
at the first comma, the others also may not hold a closing parenthesis.  Every reference to a column
in the two column arguments is replaced by the identifier of its list of cells.
-/

namespace Worksheet.Table

open Worksheet.Text

/-- The arguments of a lookup call. -/
structure LookupCall where
  subject : List Char
  keys : List Char
  results : List Char
  default : Option (List Char)
  deriving DecidableEq, Repr

/-- The nonempty text up to the first of `stops`, and the rest from there on. -/
def argument? (stops : List Char) (s : List Char) : Option (List Char × List Char) :=
  let text := s.takeWhile fun c => !stops.contains c
  if text.isEmpty then none else some (text, s.drop text.length)

/-- The default of a lookup call at its last comma, and what follows it: the text up to the closing
parenthesis. -/
def default? : List Char → Option (List Char × List Char)
  | ',' :: s => argument? [')'] s
  | _ => none

/-- The call at the head of a text, and its length. -/
def lookupCall? (s : List Char) : Option (LookupCall × Nat) := do
  if !"XLOOKUP".toList.isPrefixOf s then none
  match trimStart (s.drop "XLOOKUP".length) with
  | '(' :: rest =>
    let (subject, rest) ← argument? [','] rest
    let (keys, rest) ← argument? [','] (rest.drop 1)
    let (results, rest) ← argument? [',', ')'] (rest.drop 1)
    let (default, rest) := match default? rest with
      | some (default, rest) => (some default, rest)
      | none => (none, rest)
    match rest with
    | ')' :: rest => some (⟨subject, keys, results, default⟩, s.length - rest.length)
    | _ => none
  | _ => none

/-- The calls as a pattern. -/
def lookupPattern : Pattern LookupCall := fun _ s => lookupCall? s

/-- A column argument with references to the given columns as whole columns. -/
def wholeColumns (references : List String) (s : List Char) : List Char :=
  substitute wordPattern
    (fun word => if references.contains (String.ofList word) then
      (arrayName (String.ofList word)).toList else word)
    (trimChars s)

/-- A call with whole columns in its column arguments. -/
def LookupCall.text (references : List String) (call : LookupCall) : List Char :=
  let arguments := [trimChars call.subject, wholeColumns references call.keys,
    wholeColumns references call.results] ++ (call.default.map trimChars).toList
  "XLOOKUP(".toList ++ [',', ' '].intercalate arguments ++ [')']

/-- An expression with whole columns in the column arguments of its lookup calls. -/
def withWholeColumns (references : List String) (expression : List Char) : List Char :=
  substitute lookupPattern (LookupCall.text references) expression

end Worksheet.Table
