import Worksheet.Proofs.Table.Parts
import Worksheet.Proofs.Table.Words

/-!
# The unknown words of a formula

Unknown words are looked for in what is left of a formula when first all string literals, then all
aggregates and then all names in brackets have been deleted.  The deletions do not read the formula
from left to right: a quote in a name can open a literal, and what stood around a deleted piece is
joined.  Where neither happens the words that are left are the words of the formula.
-/

namespace Worksheet.Table

open Worksheet.Text
open Worksheet.Formula (string? word? string?_append string?_eq_none word?_append word?_eq_none
  isKnownWord isQuote isMark isQuote_of_isMark isMark_of_class isMark_of_mem_numeral IsWord
  exists_of_string? QuotesClosed unquotedText unquotedText_append unquotedText_string
  quoted_induction scan_quotedPattern_cons)
open Worksheet.Formula.Phrase (IsQuote)

/-! ### What the deletions leave -/

namespace Part

/-- A part once string literals have been deleted. -/
def unquoted : Part → List Char
  | literal _ => []
  | aggregate a => (Aggregate.mk a.function
      (String.ofList (unquotedText a.column.toList))).text.toList
  | reference name => '[' :: (unquotedText name ++ [']'])
  | number text => text
  | word text => text

/-- A part once aggregates have been deleted as well. -/
def unaggregated : Part → List Char
  | literal _ => []
  | aggregate _ => []
  | reference name => '[' :: (unquotedText name ++ [']'])
  | number text => text
  | word text => text

/-- What all deletions leave of a part. -/
def kept : Part → List Char
  | literal _ => []
  | aggregate _ => []
  | reference _ => []
  | number text => text
  | word text => text

/-- The deletions take a part as a whole or leave it as a whole: quotes in a name close in it and
are not all of it, no aggregate can be read in a name in brackets, and no word in a number. -/
def Steady : Part → Prop
  | literal _ => True
  | aggregate a => QuotesClosed a.column.toList ∧ unquotedText a.column.toList ≠ []
  | reference name => QuotesClosed name ∧ unquotedText name ≠ [] ∧
      ∀ t ∈ (unquotedText name ++ [']']).tails, aggregate? t = none
  | number text => matches? wordPattern text = []
  | word _ => True

instance : DecidablePred Steady := fun part => by
  cases part <;> unfold Steady <;> infer_instance

end Part

/-- The deletions join nothing at a piece: a part is taken or left as a whole, no aggregate arises
behind a single dollar sign, and a word touches no word character when all the rest is deleted. -/
def UnjoinedAt (before after : List (Piece Part)) : Piece Part → Prop
  | .plain c => c = '$' → aggregate? ('$' :: textOf Part.unquoted after) = none
  | .found part => part.Steady ∧ (part.word?.isSome →
      isInWord (textOf Part.kept before).getLast? = false ∧
        isInWord (textOf Part.kept after).head? = false)

instance (before after : List (Piece Part)) : DecidablePred (UnjoinedAt before after) :=
  fun piece => by cases piece <;> unfold UnjoinedAt <;> infer_instance

/-- The deletions join nothing. -/
def Unjoined (pieces : List (Piece Part)) : Prop := Everywhere UnjoinedAt pieces

instance : DecidablePred Unjoined := fun pieces => by
  unfold Unjoined
  infer_instance

lemma Unjoined.steady {pieces : List (Piece Part)} (h : Unjoined pieces) {part : Part}
    (hpart : .found part ∈ pieces) : part.Steady := by
  obtain ⟨before, after, hsplit⟩ := List.append_of_mem hpart
  exact (h _ _ _ hsplit).1

section Deletion

variable {α : Type} {pattern : Pattern α}

lemma mem_of_mem_without {s : List Char} {c : Char} (h : c ∈ without pattern s) : c ∈ s := by
  obtain ⟨piece, hmem, hc⟩ := List.mem_flatMap.1 h
  cases piece with
  | found a => exact absurd hc List.not_mem_nil
  | plain d =>
    obtain rfl := List.mem_singleton.1 hc
    exact mem_of_plain_mem_scanFrom hmem

/-- A deletion that takes every part for itself, and begins at no character between them, goes from
part to part. -/
lemma without_textOf (hforward : Forward pattern) {f g : Part → List Char}
    {pieces : List (Piece Part)}
    (hplain : ∀ before c after, pieces = before ++ .plain c :: after →
      pattern none (c :: textOf f after) = none)
    (hpart : ∀ part, .found part ∈ pieces → ∀ s,
      without pattern (f part ++ s) = g part ++ without pattern s) :
    without pattern (textOf f pieces) = textOf g pieces := by
  induction pieces with
  | nil => rfl
  | cons piece pieces ih =>
    have hrest := ih (fun before c after h => hplain (piece :: before) c after (by rw [h]; rfl))
      (fun part hmem => hpart part (List.mem_cons_of_mem piece hmem))
    cases piece with
    | plain c =>
      rw [textOf_plain, textOf_plain, without, substitute_cons hforward (hplain [] c pieces rfl),
        ← hrest]
      rfl
    | found part =>
      rw [textOf_found, textOf_found, hpart part List.mem_cons_self, hrest]

/-- Where nothing can begin, nothing is deleted. -/
lemma without_append_of_apart (hforward : Forward pattern) {cs : List Char}
    (hnone : ∀ t s, t <:+ cs → t ≠ [] → pattern none (t ++ s) = none) (s : List Char) :
    without pattern (cs ++ s) = cs ++ without pattern s :=
  substitute_append_of_apart hforward (fun t hsuffix hne => hnone t s hsuffix hne) _

/-- A deletion that begins at a mark keeps a text without marks. -/
lemma without_append_of_unmarked (hforward : Forward pattern)
    (hmark : ∀ c s, isMark c = false → pattern none (c :: s) = none) {cs : List Char}
    (hcs : ∀ c ∈ cs, isMark c = false) (s : List Char) :
    without pattern (cs ++ s) = cs ++ without pattern s := by
  refine without_append_of_apart hforward (fun t s hsuffix hne => ?_) s
  obtain ⟨c, t, rfl⟩ := List.exists_cons_of_ne_nil hne
  exact hmark c _ (hcs c (hsuffix.subset List.mem_cons_self))

end Deletion

/-! ### Deleting string literals -/

lemma forward_stringPattern : Forward stringPattern := fun _ _ _ => rfl

/-- String literals are deleted where the reader finds them. -/
lemma without_stringPattern (s : List Char) : without stringPattern s = unquotedText s := by
  induction s using quoted_induction with
  | nil => rfl
  | plain c s hnone ih =>
    have hpattern : stringPattern none (c :: s) = none := by
      rw [stringPattern, hnone, Option.map_none]
    rw [unquotedText, substitute, scan_quotedPattern_cons hnone, without,
      substitute_cons forward_stringPattern hpattern]
    exact congrArg (c :: ·) ih
  | found text s hfound ih =>
    have hne : text ≠ [] := by
      obtain ⟨_, _, -, -, rfl, -⟩ := exists_of_string? (hfound s)
      exact List.cons_ne_nil _ _
    have hpattern : stringPattern none (text ++ s) = some ((), text.length) := by
      rw [stringPattern, hfound, Option.map_some]
    rw [unquotedText_string (hfound s), ← ih]
    exact substitute_append forward_stringPattern hne hpattern _

lemma stringPattern_eq_none {c : Char} (hc : isQuote c = false) (s : List Char) :
    stringPattern none (c :: s) = none := by
  rw [stringPattern, string?_eq_none hc, Option.map_none]

/-! ### The characters of parts -/

/-- No deletion begins in a number or in a word. -/
lemma isMark_of_mem_kept {part : Part} (h : part.Proper) {c : Char} (hc : c ∈ part.kept) :
    isMark c = false := by
  cases part with
  | number text => exact isMark_of_mem_numeral h hc
  | word text => exact h.isMark_of_mem hc
  | literal => exact absurd hc List.not_mem_nil
  | aggregate => exact absurd hc List.not_mem_nil
  | reference => exact absurd hc List.not_mem_nil

section Openings

variable {c : Char}

lemma bracketPattern_eq_none (h : c ≠ '[') (s : List Char) :
    bracketPattern none (c :: s) = none := by
  rw [bracketPattern, bracketed?_eq_none h, Option.map_none]

lemma ne_of_isMark {d : Char} (hd : isMark d = true) (hc : isMark c = false) : c ≠ d := by
  rintro rfl
  exact absurd hd (by rw [hc]; decide)

end Openings

/-! ### The three deletions -/

section Deletions

variable {pieces : List (Piece Part)} {part : Part}

lemma unquotedText_text (hproper : part.Proper) (h : part.Steady) (s : List Char) :
    unquotedText (part.text ++ s) = part.unquoted ++ unquotedText s := by
  have hsigns : ∀ cs : List Char, (cs.all fun c => !isQuote c) = true → ∀ s,
      unquotedText (cs ++ s) = cs ++ unquotedText s := fun cs hcs =>
    unquotedText_append fun c hc => by simpa using List.all_eq_true.1 hcs c hc
  have hkept : ∀ cs : List Char, (∀ c ∈ cs, isMark c = false) →
      unquotedText (cs ++ s) = cs ++ unquotedText s := fun cs hcs =>
    unquotedText_append (fun c hc => isQuote_of_isMark (hcs c hc)) s
  cases part with
  | literal text =>
    obtain ⟨quote, content, hquote, hcontent, rfl⟩ := hproper
    exact unquotedText_string (string?_append hquote hcontent s)
  | aggregate a =>
    have hfunction : ∀ s, unquotedText (a.function.toList ++ s) =
        a.function.toList ++ unquotedText s :=
      unquotedText_append fun c hc =>
        isQuote_of_isMark (isMark_of_class (hproper.1.2 c hc) rfl)
    have hopen := hsigns ['$'] rfl
    have hmiddle := hsigns ['_', '['] rfl
    have hclose := hsigns [']'] rfl
    simp only [Part.text, Part.unquoted, toList_text, String.toList_ofList]
    have hsplit : '$' :: (a.function.toList ++ '_' :: '[' :: (a.column.toList ++ [']'])) ++ s =
        ['$'] ++ (a.function.toList ++ (['_', '['] ++ (a.column.toList ++ ([']'] ++ s)))) := by
      simp
    rw [hsplit, hopen, hfunction, hmiddle, h.1.unquotedText_append, hclose]
    simp
  | reference name =>
    have hopen := hsigns ['['] rfl
    have hclose := hsigns [']'] rfl
    have hsplit : Part.text (.reference name) ++ s = ['['] ++ (name ++ ([']'] ++ s)) := by
      simp [Part.text]
    rw [hsplit, hopen, h.1.unquotedText_append, hclose]
    simp [Part.unquoted]
  | number text => exact hkept text fun c hc => isMark_of_mem_kept hproper hc
  | word text => exact hkept text fun c hc => isMark_of_mem_kept hproper hc

lemma not_mem_unquotedText {s : List Char} {c : Char} (h : c ∉ s) : c ∉ unquotedText s := by
  rw [← without_stringPattern]
  exact fun hc => h (mem_of_mem_without hc)

lemma without_aggregatePattern_unquoted (hproper : part.Proper) (h : part.Steady) (s : List Char) :
    without aggregatePattern (part.unquoted ++ s) =
      part.unaggregated ++ without aggregatePattern s := by
  have hkept : ∀ cs : List Char, (∀ c ∈ cs, isMark c = false) →
      without aggregatePattern (cs ++ s) = cs ++ without aggregatePattern s := fun cs hcs =>
    without_append_of_unmarked forward_aggregatePattern
      (fun c s hc => aggregatePattern_eq_none (ne_of_isMark rfl hc) s) hcs s
  cases part with
  | literal text => rfl
  | aggregate a =>
    have hfound : aggregate? ((Part.aggregate a).unquoted ++ s) =
        some ⟨a.function, String.ofList (unquotedText a.column.toList)⟩ := by
      refine aggregate?_eq_some_iff.2 ⟨hproper.1, ?_, ?_, List.prefix_append _ _⟩
      · exact mt String.ofList_eq_empty_iff.1 h.2
      · rw [String.toList_ofList]
        exact not_mem_unquotedText hproper.2.2
    have hne : (Part.aggregate a).unquoted ≠ [] := by
      rw [Part.unquoted, toList_text]
      exact List.cons_ne_nil _ _
    have hmatch : aggregatePattern none ((Part.aggregate a).unquoted ++ s) =
        some (⟨a.function, String.ofList (unquotedText a.column.toList)⟩,
          (Part.aggregate a).unquoted.length) := by
      rw [aggregatePattern, hfound]
      rfl
    exact substitute_append forward_aggregatePattern hne hmatch _
  | reference name =>
    refine without_append_of_apart forward_aggregatePattern (fun t s hsuffix hne => ?_) s
    obtain ⟨c, t, rfl⟩ := List.exists_cons_of_ne_nil hne
    rcases List.suffix_cons_iff.1 hsuffix with heq | htail
    · obtain ⟨rfl, -⟩ := List.cons.inj heq
      exact aggregatePattern_eq_none (by decide) _
    · have hnone := h.2.2 _ ((List.mem_tails _ _).2 htail)
      obtain hnil | ⟨v, hv, hsub⟩ := List.suffix_concat_iff.1 htail
      · exact absurd hnil hne
      · have hclosed : ']' ∉ v := fun hc => not_mem_unquotedText hproper.2 (hsub.subset hc)
        rw [hv] at hnone ⊢
        rw [List.append_assoc, List.singleton_append, aggregatePattern,
          aggregate?_append_of_closed hclosed hnone, Option.map_none]
  | number text => exact hkept text fun c hc => isMark_of_mem_kept hproper hc
  | word text => exact hkept text fun c hc => isMark_of_mem_kept hproper hc

lemma without_bracketPattern_unaggregated (hproper : part.Proper) (h : part.Steady)
    (s : List Char) :
    without bracketPattern (part.unaggregated ++ s) = part.kept ++ without bracketPattern s := by
  have hkept : ∀ cs : List Char, (∀ c ∈ cs, isMark c = false) →
      without bracketPattern (cs ++ s) = cs ++ without bracketPattern s := fun cs hcs =>
    without_append_of_unmarked forward_bracketPattern
      (fun c s hc => bracketPattern_eq_none (ne_of_isMark rfl hc) s) hcs s
  cases part with
  | literal text => rfl
  | aggregate a => rfl
  | reference name =>
    have hfound : bracketed? ((Part.reference name).unaggregated ++ s) =
        some (unquotedText name) :=
      bracketed?_eq_some_iff.2 ⟨h.2.1, not_mem_unquotedText hproper.2, List.prefix_append _ _⟩
    have hmatch : bracketPattern none ((Part.reference name).unaggregated ++ s) =
        some (unquotedText name, (Part.reference name).unaggregated.length) := by
      rw [bracketPattern, hfound]
      simp [Part.unaggregated]
    exact substitute_append forward_bracketPattern (List.cons_ne_nil _ _) hmatch _
  | number text => exact hkept text fun c hc => isMark_of_mem_kept hproper hc
  | word text => exact hkept text fun c hc => isMark_of_mem_kept hproper hc

end Deletions

/-- **What is left of a formula is what the deletions leave of its parts.** -/
lemma bareText_eq {formula : String} (hclosed : Closed formula)
    (h : Unjoined (parts formula)) : bareText formula = textOf Part.kept (parts formula) := by
  have hproper : ∀ part, .found part ∈ parts formula → part.Proper :=
    fun part hmem => proper_of_mem_scan hmem
  have hmem : ∀ {before after : List (Piece Part)} {c : Char},
      parts formula = before ++ .plain c :: after → isQuote c = false ∧ isBracket c = false :=
    fun hsplit => hclosed.of_mem (hsplit ▸ List.mem_append_right _ List.mem_cons_self)
  have hstrings : without stringPattern formula.toList =
      textOf Part.unquoted (parts formula) := by
    conv_lhs => rw [← textOf_parts formula]
    refine without_textOf forward_stringPattern (fun before c after hsplit => ?_)
      fun part hpart s => ?_
    · exact stringPattern_eq_none (hmem hsplit).1 _
    · rw [without_stringPattern, without_stringPattern]
      exact unquotedText_text (hproper part hpart) (h.steady hpart) s
  have haggregates : without aggregatePattern (textOf Part.unquoted (parts formula)) =
      textOf Part.unaggregated (parts formula) := by
    refine without_textOf forward_aggregatePattern (fun before c after hsplit => ?_)
      fun part hpart => without_aggregatePattern_unquoted (hproper part hpart) (h.steady hpart)
    by_cases hc : c = '$'
    · subst hc
      rw [aggregatePattern, h before _ after hsplit rfl, Option.map_none]
    · exact aggregatePattern_eq_none hc _
  have hbrackets : without bracketPattern (textOf Part.unaggregated (parts formula)) =
      textOf Part.kept (parts formula) := by
    refine without_textOf forward_bracketPattern (fun before c after hsplit => ?_)
      fun part hpart => without_bracketPattern_unaggregated (hproper part hpart) (h.steady hpart)
    have hc := (isBracket_eq_false_iff.1 (hmem hsplit).2).1
    exact bracketPattern_eq_none hc _
  rw [bareText, hstrings, haggregates, hbrackets]

/-! ### The words that are left -/

/-- No word is found in a number that holds none. -/
lemma found?_scanFrom_number {text : List Char} (hproper : (Part.number text).Proper)
    (hsteady : (Part.number text).Steady) (previous : Option Char) (s : List Char) :
    (scanFrom wordPattern previous 0 (text ++ s)).filterMap Piece.found? =
      (scanFrom wordPattern (text.getLast?.or previous) 0 s).filterMap Piece.found? := by
  have hapart : ∀ u c v, text = u ++ c :: v →
      wordPattern (u.getLast?.or previous) (c :: v ++ s) = none := by
    intro u c v htext
    cases u with
    | nil =>
      -- a number does not start like a word
      obtain ⟨d, cs, htext', hd⟩ := hproper.exists_cons
      obtain rfl : c = d := (List.cons.inj (htext.symm.trans htext')).1
      rw [wordPattern, List.cons_append, word?_eq_none (not_isNameStart_of_digitOrPoint hd)]
    | cons b u =>
      have hsome : (b :: u).getLast?.or previous = (b :: u).getLast? := by
        rw [List.getLast?_eq_some_getLast (List.cons_ne_nil b u), Option.some_or]
      rw [hsome]
      exact wordPattern_append_eq_none (eq_none_of_matches?_eq_nil hsteady htext) _
  have hnone : (text.map Piece.plain).filterMap Piece.found? = ([] : List (List Char)) := by
    rw [List.filterMap_map, List.filterMap_eq_nil_iff]
    exact fun _ _ => rfl
  rw [scanFrom_append_of_apart hapart, List.filterMap_append, hnone, List.nil_append]

/-- A word that touches no word character is found. -/
lemma found?_scanFrom_word {text : List Char} (hproper : IsWord text) {previous : Option Char}
    (hbefore : isInWord previous = false) {s : List Char} (hafter : isInWord s.head? = false) :
    (scanFrom wordPattern previous 0 (text ++ s)).filterMap Piece.found? =
      text :: (scanFrom wordPattern (text.getLast?.or previous) 0 s).filterMap Piece.found? := by
  obtain ⟨c, cs, htext, -⟩ := id hproper
  have hne : text ≠ [] := by
    rw [htext]
    exact List.cons_ne_nil c cs
  have hlast : text.getLast?.or previous = text.getLast? := by
    rw [List.getLast?_eq_some_getLast hne, Option.some_or]
  rw [scanFrom_found hne (wordPattern_append hproper hbefore hafter), hlast]
  rfl

/-- The words are found in what is left of a formula, from every place between two pieces on. -/
lemma found?_scanFrom_kept {formula : String} (h : Unjoined (parts formula))
    {pieces before : List (Piece Part)} (hsplit : parts formula = before ++ pieces) :
    (scanFrom wordPattern (textOf Part.kept before).getLast? 0
      (textOf Part.kept pieces)).filterMap Piece.found? =
        (pieces.filterMap Piece.found?).filterMap Part.word? := by
  -- the induction is on the pieces; what has been kept in front tells where a word can begin
  induction pieces generalizing before with
  | nil => rfl
  | cons piece pieces ih =>
    have hsplit' : parts formula = before ++ [piece] ++ pieces := by rw [hsplit]; simp
    have hrest := ih hsplit'
    have hmem : piece ∈ parts formula := by
      rw [hsplit]
      exact List.mem_append_right _ List.mem_cons_self
    cases piece with
    | plain c =>
      have hword : word? (c :: textOf Part.kept pieces) = none :=
        word?_eq_none (not_isNameStart_of_mem_scan hmem) _
      have hnone : wordPattern (textOf Part.kept before).getLast?
          (c :: textOf Part.kept pieces) = none := by
        rw [wordPattern, hword]
      rw [textOf_append, textOf_plain, textOf_nil, List.getLast?_concat] at hrest
      rw [textOf_plain, scanFrom_plain hnone]
      exact hrest
    | found part =>
      have hproper := proper_of_mem_scan hmem
      obtain ⟨hsteady, happart⟩ := h before _ pieces hsplit
      rw [textOf_append, textOf_found, textOf_nil, List.append_nil] at hrest
      rw [textOf_found]
      cases part with
      | literal | aggregate | reference =>
        rw [Part.kept, List.append_nil] at hrest
        exact hrest
      | number text =>
        rw [Part.kept, List.getLast?_append] at hrest
        rw [Part.kept, found?_scanFrom_number hproper hsteady, hrest]
        rfl
      | word text =>
        obtain ⟨hbefore, hafter⟩ := happart rfl
        rw [Part.kept, List.getLast?_append] at hrest
        rw [Part.kept, found?_scanFrom_word hproper hbefore hafter, hrest]
        rfl

/-- **Validation finds the unknown words of a formula.**  Let every quote and bracket of a formula
be closed, and let the deletions of its literals, aggregates and names join nothing.  Then no
unknown word is found exactly if all words of the formula are known, and the one that is found is
the first that is not. -/
theorem unknownWord?_eq_find? (formula : String) (hclosed : Closed formula)
    (hunjoined : Unjoined (parts formula)) :
    unknownWord? formula = (words formula).find? (fun word => !isKnownWord word) ∧
    (unknownWord? formula = none ↔ ∀ word ∈ words formula, isKnownWord word = true) := by
  have hwords : (matches? wordPattern (bareText formula)).map String.ofList = words formula := by
    rw [bareText_eq hclosed hunjoined, matches?_eq_filterMap]
    have hsplit : parts formula = [] ++ parts formula := rfl
    exact congrArg (List.map String.ofList) (found?_scanFrom_kept hunjoined hsplit)
  have hfind : unknownWord? formula = (words formula).find? fun word => !isKnownWord word := by
    rw [unknownWord?, hwords]
  refine ⟨hfind, ?_⟩
  rw [hfind, List.find?_eq_none]
  simp

/-- A quoted word in a name, a name in a literal, an aggregate and an exponent are in nobody's way;
the word that is found is the one that stands for itself. -/
theorem unknownWord?_eq_find?_rate :
    Closed "IF([Fuel \"B7\"] > $AVG_[Fuel], 1.5e3 * rate, 'none of [it]')" ∧
    Unjoined (parts "IF([Fuel \"B7\"] > $AVG_[Fuel], 1.5e3 * rate, 'none of [it]')") ∧
    words "IF([Fuel \"B7\"] > $AVG_[Fuel], 1.5e3 * rate, 'none of [it]')" = ["IF", "rate"] ∧
    unknownWord? "IF([Fuel \"B7\"] > $AVG_[Fuel], 1.5e3 * rate, 'none of [it]')" =
      some "rate" := by
  have hclosed : Closed "IF([Fuel \"B7\"] > $AVG_[Fuel], 1.5e3 * rate, 'none of [it]')" := by
    decide +kernel
  have hunjoined :
      Unjoined (parts "IF([Fuel \"B7\"] > $AVG_[Fuel], 1.5e3 * rate, 'none of [it]')") := by
    decide +kernel
  have hwords : words "IF([Fuel \"B7\"] > $AVG_[Fuel], 1.5e3 * rate, 'none of [it]')" =
      ["IF", "rate"] := by
    decide +kernel
  refine ⟨hclosed, hunjoined, hwords, ?_⟩
  rw [(unknownWord?_eq_find? _ hclosed hunjoined).1, hwords]
  decide +kernel

end Worksheet.Table
