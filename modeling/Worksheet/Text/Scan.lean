/-!
# Scanning a text for patterns

A pattern is a function that looks at the text from one position on, and at the character before
that position, and answers what it has found there and how many characters that takes.  `scan`
walks a text from left to right and cuts it into the matches, none overlapping, and the single
characters between them.  Finding all matches, replacing them and dropping everything else are
then `filterMap` and `flatMap` over the pieces.
-/

namespace Worksheet.Text

/-- A piece of a scanned text. -/
inductive Piece (α : Type) where
  /-- A character outside every match. -/
  | plain (c : Char)
  /-- A match. -/
  | found (a : α)
  deriving DecidableEq, Repr

/-- A pattern: what starts here, given the character before, and its length. -/
abbrev Pattern (α : Type) := Option Char → List Char → Option (α × Nat)

/-- The pieces of a text after `skip` characters that belong to an earlier match; `before` is the
character in front of the text. -/
def scanFrom {α : Type} (pattern : Pattern α) (before : Option Char) :
    Nat → List Char → List (Piece α)
  | _, [] => []
  | skip + 1, c :: cs => scanFrom pattern (some c) skip cs
  | 0, c :: cs =>
    match pattern before (c :: cs) with
    | some (a, width) => .found a :: scanFrom pattern (some c) (width - 1) cs
    | none => .plain c :: scanFrom pattern (some c) 0 cs

/-- The pieces of a whole text. -/
def scan {α : Type} (pattern : Pattern α) (s : List Char) : List (Piece α) :=
  scanFrom pattern none 0 s

/-- The matches of a pattern in a text, from left to right. -/
def matches? {α : Type} (pattern : Pattern α) (s : List Char) : List α :=
  (scan pattern s).filterMap fun
    | .found a => some a
    | .plain _ => none

/-- The text with every match of a pattern replaced. -/
def substitute {α : Type} (pattern : Pattern α) (image : α → List Char) (s : List Char) :
    List Char :=
  (scan pattern s).flatMap fun
    | .found a => image a
    | .plain c => [c]

/-- The pattern that finds one fixed text. -/
def literalPattern (word : List Char) : Pattern Unit := fun _ s =>
  if word.isPrefixOf s then some ((), word.length) else none

/-- The text with every occurrence of `word` replaced by `image`, from left to right. -/
def replaceAll (word image : List Char) (s : List Char) : List Char :=
  substitute (literalPattern word) (fun _ => image) s

/-- Whether `word` occurs in a text. -/
def occursIn (word : List Char) : List Char → Bool
  | [] => word.isEmpty
  | c :: cs => word.isPrefixOf (c :: cs) || occursIn word cs

/-- A bracketed name at the head of a text: the characters between `[` and the next `]`, at least
one of them. -/
def bracketed? : List Char → Option (List Char)
  | '[' :: s =>
    let name := s.takeWhile (· != ']')
    if name.isEmpty || name.length == s.length then none else some name
  | _ => none

/-- The pattern of bracketed names. -/
def bracketPattern : Pattern (List Char) := fun _ s =>
  (bracketed? s).map fun name => (name, name.length + 2)

/-- Splits a text at every character that satisfies `p`; the parts are never fewer than one. -/
def splitWhere (p : Char → Bool) (s : List Char) : List (List Char) :=
  s.foldr
    (fun c parts => if p c then [] :: parts else
      match parts with
      | part :: rest => (c :: part) :: rest
      | [] => [[c]])
    [[]]

end Worksheet.Text
