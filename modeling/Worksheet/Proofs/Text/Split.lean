import Mathlib.Data.List.TakeWhile
import Mathlib.Tactic.Lemma
import Worksheet.Text.Blank
import Worksheet.Text.Case
import Worksheet.Text.Scan

/-!
# Splitting a text, and what leaves it alone

Parts that are joined with a separator are what splitting at it gives back, as long as no part has
a separator of its own.  Trimming leaves a text without blanks alone, and changing the case of a
text keeps the characters that have none, blanks among them.
-/

namespace Worksheet.Text

/-! ### Splitting -/

section Splitting

variable {p : Char → Bool}

lemma splitWhere_cons_of_pos {c : Char} (hc : p c = true) (s : List Char) :
    splitWhere p (c :: s) = [] :: splitWhere p s := by
  rw [splitWhere, List.foldr_cons, ← splitWhere, if_pos hc]

lemma splitWhere_cons_of_neg {c : Char} (hc : p c = false) (s : List Char) :
    ∃ part parts, splitWhere p s = part :: parts ∧
      splitWhere p (c :: s) = (c :: part) :: parts := by
  have hne : splitWhere p s ≠ [] := by
    cases s with
    | nil => simp [splitWhere]
    | cons d s =>
      rw [splitWhere, List.foldr_cons]
      split
      · exact List.cons_ne_nil _ _
      · split <;> exact List.cons_ne_nil _ _
  obtain ⟨part, parts, hparts⟩ := List.exists_cons_of_ne_nil hne
  refine ⟨part, parts, hparts, ?_⟩
  rw [splitWhere, List.foldr_cons, ← splitWhere, hparts, hc, if_neg Bool.false_ne_true]

lemma splitWhere_eq_splitOnP (s : List Char) : splitWhere p s = s.splitOnP p := by
  induction s with
  | nil => rfl
  | cons c s ih =>
    rw [List.splitOnP_cons_eq_if_modifyHead, ← ih]
    cases hc : p c with
    | true => rw [splitWhere_cons_of_pos hc, if_pos rfl]
    | false =>
      obtain ⟨part, parts, hparts, hsplit⟩ := splitWhere_cons_of_neg hc s
      rw [hsplit, hparts, if_neg Bool.false_ne_true, List.modifyHead_cons]

lemma splitWhere_of_forall {s : List Char} (h : ∀ c ∈ s, p c = false) : splitWhere p s = [s] := by
  rw [splitWhere_eq_splitOnP, List.splitOnP_eq_singleton h]

lemma splitWhere_append_cons {s : List Char} (h : ∀ c ∈ s, p c = false) {c : Char}
    (hc : p c = true) (rest : List Char) :
    splitWhere p (s ++ c :: rest) = s :: splitWhere p rest := by
  rw [splitWhere_eq_splitOnP, splitWhere_eq_splitOnP,
    List.splitOnP_append_cons_of_forall_mem h c hc]

/-- A text is split at a separator into what its two sides are split into. -/
lemma splitWhere_append {c : Char} (hc : p c = true) (s t : List Char) :
    splitWhere p (s ++ c :: t) = splitWhere p s ++ splitWhere p t := by
  rw [splitWhere_eq_splitOnP, splitWhere_eq_splitOnP, splitWhere_eq_splitOnP,
    List.splitOnP_append_cons s t hc]

/-- Splitting undoes joining. -/
lemma splitWhere_intercalate {separator : Char} (hseparator : p separator = true)
    {parts : List (List Char)} (hne : parts ≠ []) (h : ∀ part ∈ parts, ∀ c ∈ part, p c = false) :
    splitWhere p ([separator].intercalate parts) = parts := by
  induction parts with
  | nil => exact absurd rfl hne
  | cons part parts ih =>
    obtain ⟨hpart, hparts⟩ := List.forall_mem_cons.1 h
    cases parts with
    | nil =>
      rw [List.intercalate_singleton]
      exact splitWhere_of_forall hpart
    | cons next parts =>
      rw [List.intercalate_cons_cons, List.append_assoc, List.singleton_append,
        splitWhere_append_cons hpart hseparator, ih (List.cons_ne_nil _ _) hparts]

/-- A character of joined parts is the separator or comes from a part. -/
lemma of_mem_intercalate {separator c : Char} {parts : List (List Char)}
    (h : c ∈ [separator].intercalate parts) : c = separator ∨ ∃ part ∈ parts, c ∈ part := by
  induction parts with
  | nil => exact absurd h List.not_mem_nil
  | cons part parts ih =>
    cases parts with
    | nil =>
      rw [List.intercalate_singleton] at h
      exact Or.inr ⟨part, List.mem_cons_self, h⟩
    | cons next parts =>
      rw [List.intercalate_cons_cons, List.mem_append, List.mem_append, List.mem_singleton] at h
      rcases h with (h | h) | h
      · exact Or.inr ⟨part, List.mem_cons_self, h⟩
      · exact Or.inl h
      · refine (ih h).imp_right fun hpart => ?_
        obtain ⟨part', hmem, hc⟩ := hpart
        exact ⟨part', List.mem_cons_of_mem part hmem, hc⟩

/-- A part has no separator, and nothing that the text does not have. -/
lemma of_mem_splitWhere {s part : List Char} (h : part ∈ splitWhere p s) {c : Char}
    (hc : c ∈ part) : p c = false ∧ c ∈ s := by
  induction s generalizing part with
  | nil =>
    obtain rfl := List.mem_singleton.1 h
    exact absurd hc List.not_mem_nil
  | cons first s ih =>
    have htail {part : List Char} (h : part ∈ splitWhere p s) (hc : c ∈ part) :
        p c = false ∧ c ∈ first :: s :=
      (ih h hc).imp_right (List.mem_cons_of_mem first)
    cases hfirst : p first with
    | true =>
      rw [splitWhere_cons_of_pos hfirst] at h
      rcases List.mem_cons.1 h with rfl | h
      · exact absurd hc List.not_mem_nil
      · exact htail h hc
    | false =>
      obtain ⟨head, parts, hparts, hsplit⟩ := splitWhere_cons_of_neg hfirst s
      rw [hsplit] at h
      rcases List.mem_cons.1 h with rfl | h
      · rcases List.mem_cons.1 hc with rfl | hc
        · exact ⟨hfirst, List.mem_cons_self⟩
        · exact htail (hparts ▸ List.mem_cons_self) hc
      · exact htail (hparts ▸ List.mem_cons_of_mem head h) hc

end Splitting

/-! ### Pieces of a joined text -/

section Joining

variable {left piece right s joint t : List Char}

/-- A character that a piece does not have stands in front of the piece or behind it. -/
lemma append_cons_eq_around {c : Char} (hc : c ∉ piece)
    (h : left ++ piece ++ right = s ++ c :: t) :
    (∃ r, s = left ++ piece ++ r ∧ right = r ++ c :: t) ∨
      ∃ l, left = s ++ c :: l ∧ t = l ++ piece ++ right := by
  rcases List.append_eq_append_iff.1 h with ⟨r, hs, hright⟩ | ⟨r, hmiddle, hrest⟩
  · exact Or.inl ⟨r, hs, hright⟩
  · cases r with
    | nil => exact Or.inl ⟨[], by rw [hmiddle, List.append_nil, List.append_nil], hrest.symm⟩
    | cons d r =>
      obtain ⟨rfl, rfl⟩ := List.cons.inj hrest
      rcases List.append_eq_append_iff.1 hmiddle with ⟨l, -, hpiece⟩ | ⟨l, hleft, hpiece⟩
      · exact absurd (by rw [hpiece]; simp) hc
      · cases l with
        | nil =>
          have hmem : c ∈ [] ++ piece := hpiece ▸ List.mem_cons_self
          exact absurd hmem hc
        | cons d l =>
          obtain ⟨rfl, rfl⟩ := List.cons.inj hpiece
          exact Or.inr ⟨l, hleft, rfl⟩

/-- A piece without separators stands behind all that begin the text. -/
lemma append_eq_joint (hne : piece ≠ []) (hpiece : ∀ c ∈ joint, c ∉ piece)
    (h : left ++ piece ++ right = joint ++ t) :
    ∃ l, t = l ++ piece ++ right ∧ l <:+ left := by
  induction joint generalizing left with
  | nil => exact ⟨left, h.symm, List.suffix_rfl⟩
  | cons c joint ih =>
    obtain ⟨hc, hjoint⟩ := List.forall_mem_cons.1 hpiece
    rcases append_cons_eq_around (s := []) hc h with ⟨r, hr, -⟩ | ⟨l, rfl, hrest⟩
    · exact absurd hr (by simp [hne])
    · obtain ⟨l', ht, hsuffix⟩ := ih hjoint hrest.symm
      exact ⟨l', ht, hsuffix.trans (List.suffix_cons c l)⟩

/-- A piece without separators lies in one of the two parts that separators join. -/
lemma append_eq_joined (hne : piece ≠ []) (hjoint : joint ≠ []) (hpiece : ∀ c ∈ joint, c ∉ piece)
    (h : left ++ piece ++ right = s ++ joint ++ t) :
    (∃ r, s = left ++ piece ++ r ∧ r <+: right) ∨ ∃ l, t = l ++ piece ++ right ∧ l <:+ left := by
  obtain ⟨c, rest, rfl⟩ := List.exists_cons_of_ne_nil hjoint
  obtain ⟨hc, hrest⟩ := List.forall_mem_cons.1 hpiece
  rw [List.append_assoc s] at h
  rcases append_cons_eq_around hc h with ⟨r, hs, hright⟩ | ⟨l, hleft, hbehind⟩
  · exact Or.inl ⟨r, hs, hright ▸ List.prefix_append _ _⟩
  · obtain ⟨l', ht, hsuffix⟩ := append_eq_joint hne hrest hbehind.symm
    refine Or.inr ⟨l', ht, hsuffix.trans ?_⟩
    exact hleft ▸ (List.suffix_cons c l).trans (List.suffix_append _ _)

end Joining

/-! ### Trimming -/

lemma mem_dropWhile_iff {p : Char → Bool} {c : Char} (hc : p c = false) (s : List Char) :
    c ∈ s.dropWhile p ↔ c ∈ s := by
  have hsplit : c ∈ s ↔ c ∈ s.takeWhile p ∨ c ∈ s.dropWhile p := by
    rw [← List.mem_append, List.takeWhile_append_dropWhile]
  rw [hsplit]
  refine ⟨Or.inr, fun h => h.resolve_left fun hmem => ?_⟩
  rw [List.mem_takeWhile_imp hmem] at hc
  exact Bool.noConfusion hc

/-- Trimming only takes blanks away. -/
lemma mem_trim_iff {c : Char} (hc : isBlank c = false) (s : String) :
    c ∈ (trim s).toList ↔ c ∈ s.toList := by
  rw [trim, String.toList_ofList, trimChars, trimEnd, List.mem_reverse,
    mem_dropWhile_iff hc, List.mem_reverse, trimStart, mem_dropWhile_iff hc]

/-- What trimming takes away stands at the two ends. -/
lemma exists_trimChars (s : List Char) : ∃ left right, s = left ++ trimChars s ++ right ∧
    (∀ c ∈ left, isBlank c = true) ∧ ∀ c ∈ right, isBlank c = true := by
  have hblank : ∀ {t : List Char}, ∀ c ∈ t.takeWhile isBlank, isBlank c = true :=
    fun {_} => List.all_eq_true.1 List.all_takeWhile
  refine ⟨s.takeWhile isBlank, ((trimStart s).reverse.takeWhile isBlank).reverse, ?_, hblank,
    fun c hc => hblank c (List.mem_reverse.1 hc)⟩
  rw [trimChars, trimEnd, List.append_assoc, ← List.reverse_append,
    List.takeWhile_append_dropWhile, List.reverse_reverse, trimStart,
    List.takeWhile_append_dropWhile]

lemma dropWhile_isBlank_of_forall {s : List Char} (h : ∀ c ∈ s, isBlank c = false) :
    s.dropWhile isBlank = s := by
  cases s with
  | nil => rfl
  | cons c s =>
    have hc : ¬isBlank c = true := by simp [h c List.mem_cons_self]
    rw [List.dropWhile_cons_of_neg hc]

/-- Blanks around a text without blanks are what trimming takes away. -/
lemma trimChars_of_split {left s right : List Char} (hleft : ∀ c ∈ left, isBlank c = true)
    (hs : ∀ c ∈ s, isBlank c = false) (hright : ∀ c ∈ right, isBlank c = true) (hne : s ≠ []) :
    trimChars (left ++ s ++ right) = s := by
  obtain ⟨c, rest, rfl⟩ := List.exists_cons_of_ne_nil hne
  have hstart : trimStart (left ++ (c :: rest) ++ right) = c :: rest ++ right := by
    rw [trimStart, List.append_assoc, List.dropWhile_append_of_pos hleft, List.cons_append,
      List.dropWhile_cons_of_neg (by simp [hs c List.mem_cons_self])]
  have hreverse : ∀ d ∈ (c :: rest).reverse, isBlank d = false :=
    fun d hd => hs d (List.mem_reverse.1 hd)
  rw [trimChars, hstart, trimEnd, List.reverse_append,
    List.dropWhile_append_of_pos fun d hd => hright d (List.mem_reverse.1 hd),
    dropWhile_isBlank_of_forall hreverse, List.reverse_reverse]

/-- Behind a text that does not end with a blank only what follows is trimmed. -/
lemma trimEnd_append {s t : List Char} (hne : s ≠ []) (h : ∀ c ∈ s.getLast?, isBlank c = false) :
    trimEnd (s ++ t) = s ++ trimEnd t := by
  have hs : s.reverse.dropWhile isBlank = s.reverse := by
    obtain ⟨c, cs, hcons⟩ := List.exists_cons_of_ne_nil (List.reverse_ne_nil_iff.2 hne)
    rw [← List.head?_reverse, hcons] at h
    rw [hcons, List.dropWhile_cons_of_neg (by simp [h c rfl])]
  rw [trimEnd, List.reverse_append, List.dropWhile_append, hs, trimEnd]
  split
  · rename_i hblank
    rw [List.isEmpty_iff] at hblank
    rw [hblank, List.reverse_reverse, List.reverse_nil, List.append_nil]
  · rw [List.reverse_append, List.reverse_reverse]

/-- A character in front is trimmed if all that follows is, and it is a blank. -/
lemma trimEnd_cons (c : Char) (s : List Char) :
    trimEnd (c :: s) = if trimEnd s = [] ∧ isBlank c = true then [] else c :: trimEnd s := by
  rw [trimEnd, List.reverse_cons, List.dropWhile_append, trimEnd]
  cases hs : s.reverse.dropWhile isBlank with
  | nil => cases hc : isBlank c <;> simp [hc]
  | cons d t => simp

lemma trimEnd_prefix_self (s : List Char) : trimEnd s <+: s := by
  rw [trimEnd, ← List.reverse_suffix, List.reverse_reverse]
  exact List.dropWhile_suffix isBlank

lemma trim_of_forall {s : String} (h : ∀ c ∈ s.toList, isBlank c = false) : trim s = s := by
  have hreverse : ∀ c ∈ s.toList.reverse, isBlank c = false :=
    fun c hc => h c (List.mem_reverse.1 hc)
  rw [trim, trimChars, trimStart, dropWhile_isBlank_of_forall h, trimEnd,
    dropWhile_isBlank_of_forall hreverse, List.reverse_reverse, String.ofList_toList]

/-! ### Characters without case -/

/-- The character is its own lower and upper case. -/
structure Caseless (c : Char) : Prop where
  ne_sigma : (c == 'Σ') = false
  lower : (if c.toNat < 128 then [c.toLower] else caseImage lowerExpansions lowerRuns c) = [c]
  upper : (if c.toNat < 128 then [c.toUpper] else caseImage upperExpansions upperRuns c) = [c]

instance (c : Char) : Decidable (Caseless c) :=
  decidable_of_iff ((c == 'Σ') = false ∧
      (if c.toNat < 128 then [c.toLower] else caseImage lowerExpansions lowerRuns c) = [c] ∧
      (if c.toNat < 128 then [c.toUpper] else caseImage upperExpansions upperRuns c) = [c])
    ⟨fun h => ⟨h.1, h.2.1, h.2.2⟩, fun h => ⟨h.ne_sigma, h.lower, h.upper⟩⟩

namespace Caseless

variable {c : Char} {s : String}

lemma mem_upper (hc : Caseless c) (h : c ∈ s.toList) : c ∈ (Text.upper s).toList := by
  rw [Text.upper, String.toList_ofList, List.mem_flatMap]
  exact ⟨c, h, hc.upper ▸ List.mem_singleton_self c⟩

lemma mem_lower (hc : Caseless c) (h : c ∈ s.toList) : c ∈ (Text.lower s).toList := by
  suffices hafter : ∀ before t, c ∈ t → c ∈ lowerAfter before t by
    rw [Text.lower, String.toList_ofList]
    exact hafter [] _ h
  intro before t
  induction t generalizing before with
  | nil => exact fun hmem => absurd hmem List.not_mem_nil
  | cons d t ih =>
    intro hmem
    rw [lowerAfter, List.mem_append]
    rcases List.mem_cons.1 hmem with rfl | hmem
    · rw [hc.ne_sigma, if_neg Bool.false_ne_true, hc.lower]
      exact Or.inl (List.mem_singleton_self c)
    · exact Or.inr (ih _ hmem)

end Caseless

/-! ### Blanks have no case -/

/-- The runs that a list of boundaries encloses: from each opening boundary up to the closing one. -/
def enclosedRuns : List Nat → List (Nat × Nat)
  | first :: last :: bounds => (first, last) :: enclosedRuns bounds
  | _ => []

lemma exists_enclosedRun {bounds : List Nat} (heven : bounds.length % 2 = 0) {code : Nat}
    (h : withinBoundaries bounds code = true) :
    ∃ run ∈ enclosedRuns bounds, run.1 ≤ code ∧ code < run.2 := by
  fun_induction enclosedRuns bounds with
  | case1 first last bounds ih =>
    by_cases hfirst : first ≤ code
    · by_cases hlast : last ≤ code
      · have hrest : withinBoundaries bounds code = true := by
          simpa [withinBoundaries, hfirst, hlast, Nat.add_assoc] using h
        obtain ⟨run, hrun, hcode⟩ := ih (by simpa [Nat.add_assoc] using heven) hrest
        exact ⟨run, List.mem_cons_of_mem _ hrun, hcode⟩
      · exact ⟨_, List.mem_cons_self, hfirst, not_le.1 hlast⟩
    · exact absurd h (by simp [withinBoundaries, hfirst])
  | case2 bounds hbounds =>
    -- without a run there is no boundary at all
    cases bounds with
    | nil => exact absurd h (by simp [withinBoundaries])
    | cons first rest =>
      cases rest with
      | nil => exact absurd heven (by simp)
      | cons last rest => exact absurd rfl (hbounds first last rest)

lemma caseless_of_isBlank {c : Char} (h : isBlank c = true) : Caseless c := by
  have hruns : ∀ run ∈ enclosedRuns blankBoundaries, ∀ code ∈ List.range' run.1 (run.2 - run.1),
      Caseless (Char.ofNat code) := by
    decide +kernel
  obtain ⟨run, hrun, hfirst, hlast⟩ := exists_enclosedRun (by decide) h
  have hcode : c.toNat ∈ List.range' run.1 (run.2 - run.1) :=
    List.mem_range'_1.2 ⟨hfirst, by omega⟩
  exact Char.ofNat_toNat c ▸ hruns run hrun c.toNat hcode

end Worksheet.Text
