import Worksheet.Proofs.Formula.Texts
import Worksheet.Proofs.Table.Bracketed
import Worksheet.Proofs.Text.Scan
import Worksheet.Table.Reference

/-!
# The parts of a table formula

From left to right a formula is made of string literals, aggregates, names in brackets, numbers and
words, and of other characters between them.  Each kind of part starts with characters of its own,
so what stands at a place of the text is one part at most.
-/

namespace Worksheet.Table

open Worksheet.Text
open Worksheet.Formula (string? word? number? isQuote IsWord exists_of_string? exists_of_word?
  exists_of_number?)
open Worksheet.Formula.Phrase (IsQuote)

/-- A part of a formula. -/
inductive Part where
  /-- A string literal, with its quotes. -/
  | literal (text : List Char)
  /-- An aggregate of a column. -/
  | aggregate (a : Aggregate)
  /-- A name in brackets. -/
  | reference (name : List Char)
  /-- A number. -/
  | number (text : List Char)
  /-- A word. -/
  | word (text : List Char)
  deriving DecidableEq

namespace Part

/-- A part as it stands in a formula. -/
def text : Part → List Char
  | literal text => text
  | aggregate a => a.text.toList
  | reference name => '[' :: (name ++ [']'])
  | number text => text
  | word text => text

/-- The word that a part is. -/
def word? : Part → Option (List Char)
  | word text => some text
  | _ => none

end Part

/-- The part at the head of a text. -/
def part? (s : List Char) : Option Part :=
  ((string? s).map .literal).or <| ((aggregate? s).map .aggregate).or <|
    ((bracketed? s).map .reference).or <| ((number? s).map .number).or ((word? s).map .word)

/-- The parts as a pattern. -/
def partPattern : Pattern Part := fun _ s => (part? s).map fun part => (part, part.text.length)

/-- A formula read from left to right. -/
def parts (formula : String) : List (Piece Part) := scan partPattern formula.toList

/-- The text of pieces, of each part as `f` shows it. -/
def textOf (f : Part → List Char) (pieces : List (Piece Part)) : List Char :=
  pieces.flatMap fun
    | .plain c => [c]
    | .found part => f part

/-- The words of a formula. -/
def words (formula : String) : List String :=
  (((parts formula).filterMap Piece.found?).filterMap Part.word?).map String.ofList

/-- Every quote and every bracket of a formula is closed: none stands between the parts. -/
def Closed (formula : String) : Prop :=
  ∀ c ∈ without partPattern formula.toList, isQuote c = false ∧ isBracket c = false

instance : DecidablePred Closed := fun _ => List.decidableBAll _ _

/-! ### What a part is like -/

/-- What every part of a formula is like. -/
def Part.Proper : Part → Prop
  | literal text => ∃ quote content, IsQuote quote ∧ quote ∉ content ∧
      text = quote :: content ++ [quote]
  | aggregate a => a.Proper ∧ a.column ≠ "" ∧ ']' ∉ a.column.toList
  | reference name => name ≠ [] ∧ ']' ∉ name
  | number text => IsNumeral text
  | word text => IsWord text

namespace Part

variable {part : Part} {s : List Char}

lemma Proper.ne_nil (h : part.Proper) : part.text ≠ [] := by
  cases part with
  | literal text =>
    obtain ⟨_, _, -, -, rfl⟩ := h
    exact List.cons_ne_nil _ _
  | aggregate a =>
    rw [text, toList_text]
    exact List.cons_ne_nil _ _
  | reference name => exact List.cons_ne_nil _ _
  | number text =>
    obtain ⟨_, _, rfl, -⟩ := h.exists_cons
    exact List.cons_ne_nil _ _
  | word text =>
    obtain ⟨_, _, rfl, -⟩ := h
    exact List.cons_ne_nil _ _

end Part

/-- What is read at the head of a text is a part and stands there. -/
lemma proper_of_part? {s : List Char} {part : Part} (h : part? s = some part) :
    part.Proper ∧ part.text <+: s := by
  rcases Option.or_eq_some_iff.1 h with hstring | ⟨-, h⟩
  · obtain ⟨text, htext, rfl⟩ := Option.map_eq_some_iff.1 hstring
    obtain ⟨quote, content, hquote, hcontent, heq, hhead⟩ := exists_of_string? htext
    exact ⟨⟨quote, content, hquote, hcontent, heq⟩, hhead⟩
  rcases Option.or_eq_some_iff.1 h with haggregate | ⟨-, h⟩
  · obtain ⟨a, ha, rfl⟩ := Option.map_eq_some_iff.1 haggregate
    obtain ⟨hproper, hne, hclosed, hhead⟩ := aggregate?_eq_some_iff.1 ha
    exact ⟨⟨hproper, hne, hclosed⟩, hhead⟩
  rcases Option.or_eq_some_iff.1 h with hreference | ⟨-, h⟩
  · obtain ⟨name, hname, rfl⟩ := Option.map_eq_some_iff.1 hreference
    obtain ⟨hne, hclosed, hhead⟩ := bracketed?_eq_some_iff.1 hname
    exact ⟨⟨hne, hclosed⟩, hhead⟩
  rcases Option.or_eq_some_iff.1 h with hnumber | ⟨-, hword⟩
  · obtain ⟨text, htext, rfl⟩ := Option.map_eq_some_iff.1 hnumber
    exact exists_of_number? htext
  · obtain ⟨text, htext, rfl⟩ := Option.map_eq_some_iff.1 hword
    exact exists_of_word? htext

lemma forward_partPattern : Forward partPattern := fun _ _ _ => rfl

/-- A formula is read piece by piece. -/
theorem part_induction {motive : List Char → Prop} (nil : motive [])
    (plain : ∀ c s, part? (c :: s) = none → motive s → motive (c :: s))
    (found : ∀ part s, part? (Part.text part ++ s) = some part → motive s →
      motive (part.text ++ s))
    (s : List Char) : motive s := by
  refine head_induction (fun s part h => ?_) nil plain found s
  obtain ⟨hproper, hhead⟩ := proper_of_part? h
  exact ⟨hproper.ne_nil, hhead⟩

lemma scan_plain {c : Char} {s : List Char} (h : part? (c :: s) = none) :
    scan partPattern (c :: s) = .plain c :: scan partPattern s :=
  scan_cons forward_partPattern (by rw [partPattern, h, Option.map_none])

lemma scan_part {part : Part} {s : List Char} (h : part? (part.text ++ s) = some part) :
    scan partPattern (part.text ++ s) = .found part :: scan partPattern s :=
  scan_append forward_partPattern (proper_of_part? h).1.ne_nil
    (by rw [partPattern, h, Option.map_some])

@[simp] lemma textOf_nil (f : Part → List Char) : textOf f [] = [] := rfl

@[simp] lemma textOf_plain (f : Part → List Char) (c : Char) (pieces : List (Piece Part)) :
    textOf f (.plain c :: pieces) = c :: textOf f pieces := rfl

@[simp] lemma textOf_found (f : Part → List Char) (part : Part) (pieces : List (Piece Part)) :
    textOf f (.found part :: pieces) = f part ++ textOf f pieces := rfl

@[simp] lemma textOf_append (f : Part → List Char) (pieces more : List (Piece Part)) :
    textOf f (pieces ++ more) = textOf f pieces ++ textOf f more :=
  List.flatMap_append

/-- The pieces of a formula make up its text. -/
lemma textOf_scan (s : List Char) : textOf Part.text (scan partPattern s) = s := by
  induction s using part_induction with
  | nil => rfl
  | plain c s hnone ih => rw [scan_plain hnone, textOf_plain, ih]
  | found part s hfound ih => rw [scan_part hfound, textOf_found, ih]

lemma textOf_parts (formula : String) : textOf Part.text (parts formula) = formula.toList :=
  textOf_scan _

section Pieces

variable {s : List Char}

lemma Closed.of_mem {formula : String} (h : Closed formula) {c : Char}
    (hc : .plain c ∈ parts formula) : isQuote c = false ∧ isBracket c = false :=
  h c (List.mem_flatMap.2 ⟨_, hc, List.mem_singleton_self c⟩)

lemma proper_of_mem_scan {part : Part} (h : .found part ∈ scan partPattern s) : part.Proper := by
  induction s using part_induction with
  | nil => exact absurd h List.not_mem_nil
  | plain c s hnone ih =>
    rw [scan_plain hnone] at h
    exact ih (by simpa using h)
  | found part' s hfound ih =>
    rw [scan_part hfound, List.mem_cons] at h
    rcases h with heq | hmem
    · obtain rfl : part = part' := by simpa using heq
      exact (proper_of_part? hfound).1
    · exact ih hmem

/-- No word starts at a character between the parts. -/
lemma not_isNameStart_of_mem_scan {c : Char} (h : .plain c ∈ scan partPattern s) :
    isNameStart c = false := by
  induction s using part_induction with
  | nil => exact absurd h List.not_mem_nil
  | plain c' s hnone ih =>
    rw [scan_plain hnone, List.mem_cons] at h
    rcases h with heq | hmem
    · obtain rfl : c = c' := by simpa using heq
      have hword : word? (c :: s) = none := by
        have hall := hnone
        simp only [part?, Option.or_eq_none_iff, Option.map_eq_none_iff] at hall
        exact hall.2.2.2.2
      cases hstart : isNameStart c with
      | false => rfl
      | true =>
        rw [word?, if_pos hstart] at hword
        exact absurd hword (by simp)
    · exact ih hmem
  | found part s hfound ih =>
    rw [scan_part hfound] at h
    exact ih (by simpa using h)

end Pieces

end Worksheet.Table
