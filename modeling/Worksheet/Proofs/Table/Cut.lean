import Worksheet.Proofs.Table.Parts
import Worksheet.Proofs.Table.Rewriting

/-!
# A formula cut at its string literals

Between the literals of a formula stands code.  A replacement that touches no literal replaces in
each stretch of code by itself, and one of a text without quotes replaces in each literal by itself
as well.

A quote in the code of a formula stands in brackets.  No replacement takes the opening bracket away
and leaves the quote, for what is replaced goes on to a closing bracket.
-/

namespace Worksheet.Table

open Worksheet.Text
open Worksheet.Formula (isQuote isMark isQuote_of_isMark isMark_of_class isMark_of_mem_numeral
  quotedTexts unquotedText content string?_append quotedTexts_append quotedTexts_string
  unquotedText_append unquotedText_string)
open Worksheet.Formula.Phrase (IsQuote)

/-- A text cut at its string literals. -/
inductive Cut where
  /-- Code to the end. -/
  | last (code : List Char)
  /-- Code, a literal with its quotes, and the rest. -/
  | quoted (code literal : List Char) (rest : Cut)

namespace Cut

/-- The text that has been cut. -/
def text : Cut → List Char
  | last code => code
  | quoted code literal rest => code ++ (literal ++ rest.text)

/-- The literals, with their quotes. -/
def literals : Cut → List (List Char)
  | last _ => []
  | quoted _ literal rest => literal :: rest.literals

/-- The text with `f` of each stretch of code and `g` of each literal. -/
def map (f g : List Char → List Char) : Cut → Cut
  | last code => last (f code)
  | quoted code literal rest => quoted (f code) (g literal) (rest.map f g)

/-- Code in front of a text that has been cut. -/
def push (cs : List Char) : Cut → Cut
  | last code => last (cs ++ code)
  | quoted code literal rest => quoted (cs ++ code) literal rest

@[simp] lemma text_push (cs : List Char) (cut : Cut) : (cut.push cs).text = cs ++ cut.text := by
  cases cut <;> simp [push, text]

@[simp] lemma literals_push (cs : List Char) (cut : Cut) :
    (cut.push cs).literals = cut.literals := by
  cases cut <;> rfl

@[simp] lemma literals_map (f g : List Char → List Char) (cut : Cut) :
    (cut.map f g).literals = cut.literals.map g := by
  induction cut with
  | last => rfl
  | quoted code literal rest ih => rw [map, literals, ih, literals, List.map_cons]

lemma map_id (cut : Cut) : cut.map id id = cut := by
  induction cut with
  | last => rfl
  | quoted code literal rest ih => rw [map, ih, id, id]

lemma map_map (f g f' g' : List Char → List Char) (cut : Cut) :
    (cut.map f g).map f' g' = cut.map (f' ∘ f) (g' ∘ g) := by
  induction cut with
  | last => rfl
  | quoted code literal rest ih => simp [map, ih]

end Cut

/-- Pieces cut at the string literals. -/
def cut : List (Piece Part) → Cut
  | [] => .last []
  | .plain c :: pieces => (cut pieces).push [c]
  | .found (.literal text) :: pieces => .quoted [] text (cut pieces)
  | .found part :: pieces => (cut pieces).push part.text

/-- The content of a string literal. -/
def Part.literal? : Part → Option String
  | literal text => some (content text)
  | _ => none

/-- The contents of the string literals of a formula. -/
def literals (formula : String) : List String :=
  ((parts formula).filterMap Piece.found?).filterMap Part.literal?

lemma text_cut (pieces : List (Piece Part)) : (cut pieces).text = textOf Part.text pieces := by
  fun_induction cut pieces with
  | case1 => rfl
  | case2 c pieces ih => rw [Cut.text_push, ih, textOf_plain, List.singleton_append]
  | case3 text pieces ih => rw [Cut.text, ih, textOf_found, List.nil_append, Part.text]
  | case4 part pieces hne ih => rw [Cut.text_push, ih, textOf_found]

lemma literals_cut (pieces : List (Piece Part)) : (cut pieces).literals.map content =
    (pieces.filterMap Piece.found?).filterMap Part.literal? := by
  fun_induction cut pieces with
  | case1 => rfl
  | case2 c pieces ih => rw [Cut.literals_push, ih]; rfl
  | case3 text pieces ih => rw [Cut.literals, List.map_cons, ih]; rfl
  | case4 part pieces hne ih =>
    have hnone : part.literal? = none := by
      cases part with
      | literal text => exact absurd rfl (hne text)
      | _ => rfl
    have hfound : Piece.found? (.found part) = some part := rfl
    rw [Cut.literals_push, ih, List.filterMap_cons_some hfound, List.filterMap_cons_none hnone]

/-! ### Replacing in a cut text -/

section Replacing

variable {word image : List Char} {c : Char} {s : List Char}

/-- The word begins in no literal, and runs into none from the code in front. -/
def Cut.Avoids (word : List Char) : Cut → Prop
  | last _ => True
  | quoted code literal rest =>
    (∀ t ∈ code.tails, t ≠ [] → word <+: t ++ (literal ++ rest.text) → word <+: t) ∧
    (∀ t ∈ literal.tails, t ≠ [] → ¬ word <+: t ++ rest.text) ∧ rest.Avoids word

/-- Whether a word avoids the literals can be found out. -/
def Cut.decidableAvoids (word : List Char) : (cut : Cut) → Decidable (cut.Avoids word)
  | last _ => isTrue trivial
  | quoted _ _ rest =>
    have := rest.decidableAvoids word
    inferInstanceAs (Decidable (_ ∧ _ ∧ _))

instance (word : List Char) : DecidablePred (Cut.Avoids word) := Cut.decidableAvoids word

/-- A word that avoids the literals is replaced in each stretch of code. -/
lemma replaceAll_text (hne : word ≠ []) {cut : Cut} (h : cut.Avoids word) (image : List Char) :
    replaceAll word image cut.text = (cut.map (replaceAll word image) id).text := by
  induction cut with
  | last => rfl
  | quoted code literal rest ih =>
    obtain ⟨hcode, hliteral, hrest⟩ := h
    have hover : ∀ t, t <:+ code → t ≠ [] → word <+: t ++ (literal ++ rest.text) → word <+: t :=
      fun t ht => hcode t ((List.mem_tails _ _).2 ht)
    have hkept : ∀ t, t <:+ literal → t ≠ [] → ¬ word <+: t ++ rest.text :=
      fun t ht => hliteral t ((List.mem_tails _ _).2 ht)
    rw [Cut.text, replaceAll_append_of_boundary hne hover, replaceAll_append_of_apart hkept, ih hrest]
    rfl

/-- A word without quotes ends in front of a quote. -/
lemma prefix_of_prefix_append_quote (hword : ∀ c ∈ word, isQuote c = false) (hc : isQuote c = true)
    {t : List Char} (h : word <+: t ++ c :: s) : word <+: t := by
  obtain ⟨r, hr⟩ := h
  rcases List.append_eq_append_iff.1 hr with ⟨u, rfl, -⟩ | ⟨u, rfl, hu⟩
  · exact List.prefix_append _ _
  · cases u with
    | nil => rw [List.append_nil]
    | cons d u =>
      obtain ⟨rfl, -⟩ := List.cons.inj hu
      rw [hword c (by simp)] at hc
      exact absurd hc (by decide)

/-- A word without quotes is replaced in a literal by itself. -/
lemma replaceAll_literal (hne : word ≠ []) (hword : ∀ c ∈ word, isQuote c = false)
    (hc : isQuote c = true) (image s t : List Char) :
    replaceAll word image (c :: s ++ [c] ++ t) =
      c :: replaceAll word image s ++ [c] ++ replaceAll word image t := by
  have hquote : ∀ t, ¬ word <+: c :: t := fun t h =>
    hne (List.prefix_nil.1 (prefix_of_prefix_append_quote hword hc (t := []) h))
  have hsplit : c :: s ++ [c] ++ t = c :: (s ++ c :: t) := by simp
  rw [hsplit, replaceAll_cons (hquote _), replaceAll_append_of_boundary hne
    (fun t _ _ h => prefix_of_prefix_append_quote hword hc h), replaceAll_cons (hquote _)]
  simp

/-- A word without quotes is replaced in each stretch of code and in each literal. -/
lemma replaceAll_text_of_unquoted (hne : word ≠ []) (hword : ∀ c ∈ word, isQuote c = false)
    {cut : Cut} (h : ∀ literal ∈ cut.literals, (Part.literal literal).Proper)
    (image : List Char) :
    replaceAll word image cut.text =
      (cut.map (replaceAll word image) (replaceAll word image)).text := by
  induction cut with
  | last => rfl
  | quoted code literal rest ih =>
    obtain ⟨⟨quote, inner, hquote, -, rfl⟩, hrest⟩ := List.forall_mem_cons.1 h
    have hc := Formula.isQuote_iff.2 hquote
    have hover : ∀ t, t <:+ code → t ≠ [] →
        word <+: t ++ (quote :: inner ++ [quote] ++ rest.text) → word <+: t := fun t _ _ h =>
      prefix_of_prefix_append_quote hword hc (s := inner ++ [quote] ++ rest.text) h
    have hliteral := replaceAll_literal hne hword hc image inner []
    have hnil : replaceAll word image [] = [] := rfl
    rw [List.append_nil, hnil, List.append_nil] at hliteral
    rw [Cut.text, replaceAll_append_of_boundary hne hover, replaceAll_literal hne hword hc, ih hrest,
      Cut.map, Cut.text, hliteral]

end Replacing

/-! ### Quotes in brackets -/

/-- Whether the last bracket is an opening one, with one more character. -/
def insideAfter (inside : Bool) (c : Char) : Bool := c == '[' || inside && c != ']'

lemma insideAfter_mono {inside inside' : Bool} (h : inside = true → inside' = true) {c : Char}
    (hc : insideAfter inside c = true) : insideAfter inside' c = true := by
  rcases Bool.or_eq_true_iff.1 hc with hopen | hstays
  · rw [insideAfter, hopen, Bool.true_or]
  · rw [Bool.and_eq_true_iff] at hstays
    rw [insideAfter, h hstays.1, hstays.2, Bool.true_and, Bool.or_true]

/-- Whether the last bracket of a text is an opening one; `inside` tells it of what stands in
front. -/
def opensBracket (inside : Bool) (s : List Char) : Bool := s.foldl insideAfter inside

/-- Every quote of a text stands behind a bracket that is not closed. -/
def Enclosed : Bool → List Char → Prop
  | _, [] => True
  | inside, c :: s =>
    (isQuote c = true → inside = true) ∧ Enclosed (insideAfter inside c) s

namespace Enclosed

variable {inside inside' : Bool} {s t : List Char}

lemma append_iff : Enclosed inside (s ++ t) ↔
    Enclosed inside s ∧ Enclosed (opensBracket inside s) t := by
  induction s generalizing inside with
  | nil => exact (and_iff_right trivial).symm
  | cons c s ih => rw [List.cons_append, Enclosed, ih, Enclosed, and_assoc]; rfl

lemma mono (hinside : inside = true → inside' = true) (h : Enclosed inside s) :
    Enclosed inside' s := by
  induction s generalizing inside inside' with
  | nil => trivial
  | cons c s ih => exact ⟨fun hc => hinside (h.1 hc), ih (insideAfter_mono hinside) h.2⟩

lemma of_forall (h : ∀ c ∈ s, isQuote c = false) : Enclosed inside s := by
  induction s generalizing inside with
  | nil => trivial
  | cons c s ih =>
    obtain ⟨hc, hs⟩ := List.forall_mem_cons.1 h
    refine ⟨fun hquote => ?_, ih hs⟩
    rw [hc] at hquote
    exact absurd hquote (by decide)

lemma of_append_false (hs : Enclosed inside s) (ht : Enclosed false t) : Enclosed inside (s ++ t) :=
  append_iff.2 ⟨hs, ht.mono fun h => absurd h Bool.false_ne_true⟩

/-- Behind an opening bracket all quotes are enclosed up to the closing one. -/
lemma of_closed (h : ']' ∉ s) : Enclosed true s := by
  induction s with
  | nil => trivial
  | cons c s ih =>
    rw [List.mem_cons, not_or] at h
    have hnext : insideAfter true c = true := by
      rw [insideAfter, Bool.true_and, bne_iff_ne.2 (Ne.symm h.1), Bool.or_true]
    refine ⟨fun _ => rfl, ?_⟩
    rw [hnext]
    exact ih h.2

lemma bracket (h : ']' ∉ s) : Enclosed inside ('[' :: (s ++ [']'])) := by
  refine ⟨fun hquote => absurd hquote (by decide), ?_⟩
  rw [insideAfter, beq_self_eq_true, Bool.true_or]
  exact (of_closed h).of_append_false (of_forall (List.forall_mem_singleton.2 (by decide)))

/-- The first quote of a text stands behind an opening bracket. -/
lemma exists_first (h : Enclosed inside s) : (∀ c ∈ s, isQuote c = false) ∨
    ∃ u c v, s = u ++ c :: v ∧ (∀ d ∈ u, isQuote d = false) ∧ (inside = true ∨ '[' ∈ u) := by
  induction s generalizing inside with
  | nil => exact Or.inl fun c hc => absurd hc List.not_mem_nil
  | cons c s ih =>
    cases hc : isQuote c with
    | true => exact Or.inr ⟨[], c, s, rfl, fun d hd => absurd hd List.not_mem_nil, Or.inl (h.1 hc)⟩
    | false =>
      rcases ih h.2 with hnone | ⟨u, d, v, rfl, hu, hopen⟩
      · exact Or.inl (List.forall_mem_cons.2 ⟨hc, hnone⟩)
      · refine Or.inr ⟨c :: u, d, v, rfl, List.forall_mem_cons.2 ⟨hc, hu⟩, ?_⟩
        rcases hopen with hnext | hmem
        · rcases Bool.or_eq_true_iff.1 hnext with hbracket | hstays
          · exact Or.inr (eq_of_beq hbracket ▸ List.mem_cons_self)
          · exact Or.inl (Bool.and_eq_true_iff.1 hstays).1
        · exact Or.inr (List.mem_cons_of_mem c hmem)

end Enclosed

lemma opensBracket_append (inside : Bool) (s t : List Char) :
    opensBracket inside (s ++ t) = opensBracket (opensBracket inside s) t :=
  List.foldl_append

lemma opensBracket_of_forall {s : List Char} (h : ∀ c ∈ s, isNameChar c = true) (inside : Bool) :
    opensBracket inside s = inside := by
  induction s with
  | nil => rfl
  | cons c s ih =>
    obtain ⟨hc, hs⟩ := List.forall_mem_cons.1 h
    have hstep : insideAfter inside c = inside := by
      rw [insideAfter, beq_false_of_ne (ne_of_class hc rfl), bne_iff_ne.2 (ne_of_class hc rfl),
        Bool.false_or, Bool.and_true]
    rw [opensBracket, List.foldl_cons, hstep]
    exact ih hs

/-- **Replacing leaves no quote behind without its bracket.** -/
lemma Enclosed.replace (m : Mention) {inside inside' : Bool} {s : List Char}
    (hinside : inside = true → inside' = true) (h : Enclosed inside s) :
    Enclosed inside' (Mention.replace s m) := by
  have himage : ∀ c ∈ m.image, isNameChar c = true := fun c hc => Mention.isNameChar_of_mem_image hc
  induction s using replace_induction m.text_ne_nil generalizing inside inside' with
  | nil => trivial
  | plain c s hnone ih =>
    rw [Mention.replace, replaceAll_cons hnone]
    exact ⟨fun hc => hinside (h.1 hc), ih (insideAfter_mono hinside) h.2⟩
  | found s ih =>
    -- behind the closing bracket no quote is enclosed by what has been replaced
    have hclosed : opensBracket inside m.text = false := by
      have hsplit : m.text = m.lead ++ '[' :: m.inner.toList ++ [']'] := by
        rw [Mention.text_eq]
        simp
      rw [hsplit, opensBracket_append]
      simp [opensBracket, insideAfter]
    rw [append_iff, hclosed] at h
    rw [Mention.replace, replaceAll_append m.text_ne_nil, append_iff,
      opensBracket_of_forall himage]
    exact ⟨of_forall fun c hc => isQuote_of_isMark (isMark_of_class (himage c hc) rfl),
      ih (fun h => absurd h Bool.false_ne_true) h.2⟩

/-! ### The literals of a cut text -/

namespace Cut

/-- The literals are literals, and the quotes of the code stand in brackets. -/
def Proper : Cut → Prop
  | last code => Enclosed false code
  | quoted code literal rest =>
    Enclosed false code ∧ (Part.literal literal).Proper ∧ rest.Proper

variable {cut : Cut}

lemma Proper.of_mem_literals (h : cut.Proper) {literal : List Char}
    (hliteral : literal ∈ cut.literals) : (Part.literal literal).Proper := by
  induction cut with
  | last => exact absurd hliteral List.not_mem_nil
  | quoted code literal' rest ih =>
    rcases List.mem_cons.1 hliteral with rfl | hrest
    · exact h.2.1
    · exact ih h.2.2 hrest

lemma Proper.push {cs : List Char} (hcs : Enclosed false cs) (h : cut.Proper) :
    (cut.push cs).Proper := by
  cases cut with
  | last code => exact hcs.of_append_false h
  | quoted code literal rest => exact ⟨hcs.of_append_false h.1, h.2⟩

lemma Proper.map {f g : List Char → List Char} (hf : ∀ s, Enclosed false s → Enclosed false (f s))
    (hg : ∀ s, (Part.literal s).Proper → (Part.literal (g s)).Proper) (h : cut.Proper) :
    (cut.map f g).Proper := by
  induction cut with
  | last code => exact hf code h
  | quoted code literal rest ih => exact ⟨hf code h.1, hg literal h.2.1, ih h.2.2⟩

/-- Without marks outside of its literals a text has the literals at which it has been cut. -/
lemma Proper.quotedTexts_text (h : cut.Proper)
    (hmarks : ∀ c ∈ unquotedText cut.text, isMark c = false) :
    quotedTexts cut.text = cut.literals.map content := by
  -- a quote in code would stand behind an opening bracket, which is a mark
  have hcode : ∀ {code rest : List Char}, Enclosed false code →
      (∀ c ∈ unquotedText (code ++ rest), isMark c = false) → ∀ c ∈ code, isQuote c = false := by
    intro code rest hcode hmarks
    rcases hcode.exists_first with hnone | ⟨u, c, v, rfl, hu, hopen⟩
    · exact hnone
    · rw [List.append_assoc, unquotedText_append hu] at hmarks
      have hbracket := hmarks '['
        (List.mem_append_left _ (hopen.resolve_left Bool.false_ne_true))
      exact absurd hbracket (by decide)
  induction cut with
  | last code =>
    rw [text, ← List.append_nil code] at hmarks
    have hquotes := hcode h hmarks
    rw [text, ← List.append_nil code, quotedTexts_append hquotes]
    rfl
  | quoted code literal rest ih =>
    rw [text] at hmarks
    have hquotes := hcode h.1 hmarks
    obtain ⟨-, ⟨quote, inner, hquote, hinner, rfl⟩, hrest⟩ := h
    have hstring := string?_append hquote hinner rest.text
    rw [unquotedText_append hquotes, unquotedText_string hstring] at hmarks
    rw [text, quotedTexts_append hquotes, quotedTexts_string hstring, literals, List.map_cons,
      ih hrest fun c hc => hmarks c (List.mem_append_right _ hc)]

end Cut

/-- A formula whose quotes close is cut at its literals. -/
lemma proper_cut {pieces : List (Piece Part)}
    (hplain : ∀ c, .plain c ∈ pieces → isQuote c = false)
    (hparts : ∀ part, .found part ∈ pieces → part.Proper) : (cut pieces).Proper := by
  have htail : ∀ {piece : Piece Part} {pieces : List (Piece Part)},
      (∀ c, .plain c ∈ piece :: pieces → isQuote c = false) →
      (∀ part, .found part ∈ piece :: pieces → Part.Proper part) →
      (∀ c, .plain c ∈ pieces → isQuote c = false) ∧ ∀ part, .found part ∈ pieces → part.Proper :=
    fun hplain hparts => ⟨fun c hc => hplain c (List.mem_cons_of_mem _ hc),
      fun part hpart => hparts part (List.mem_cons_of_mem _ hpart)⟩
  fun_induction cut pieces with
  | case1 => trivial
  | case2 c pieces ih =>
    obtain ⟨hplain', hparts'⟩ := htail hplain hparts
    exact (ih hplain' hparts').push
      (.of_forall (List.forall_mem_singleton.2 (hplain c List.mem_cons_self)))
  | case3 text pieces ih =>
    obtain ⟨hplain', hparts'⟩ := htail hplain hparts
    exact ⟨trivial, hparts _ List.mem_cons_self, ih hplain' hparts'⟩
  | case4 part pieces hne ih =>
    obtain ⟨hplain', hparts'⟩ := htail hplain hparts
    have hproper := hparts part List.mem_cons_self
    refine (ih hplain' hparts').push ?_
    cases part with
    | literal text => exact absurd rfl (hne text)
    | aggregate a =>
      have hsplit : (Part.aggregate a).text =
          ('$' :: (a.function.toList ++ ['_'])) ++ '[' :: (a.column.toList ++ [']']) := by
        rw [Part.text, toList_text]
        simp
      have hlead : ∀ c ∈ '$' :: (a.function.toList ++ ['_']), isQuote c = false := by
        intro c hc
        rcases List.mem_cons.1 hc with rfl | hc
        · rfl
        · rcases List.mem_append.1 hc with hc | hc
          · exact isQuote_of_isMark (isMark_of_class (hproper.1.2 c hc) rfl)
          · exact List.mem_singleton.1 hc ▸ rfl
      rw [hsplit, Enclosed.append_iff]
      exact ⟨.of_forall hlead, .bracket hproper.2.2⟩
    | reference name => exact .bracket hproper.2
    | number text => exact .of_forall fun c hc => isQuote_of_isMark (isMark_of_mem_numeral hproper hc)
    | word text => exact .of_forall fun c hc => isQuote_of_isMark (hproper.isMark_of_mem hc)

end Worksheet.Table
