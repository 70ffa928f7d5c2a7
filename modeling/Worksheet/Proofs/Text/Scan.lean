import Mathlib.Tactic.Lemma
import Worksheet.Text.Scan

/-!
# Scanning piece by piece

What a scan does at the head of a text: a match is cut off as a whole, and a character at which
nothing matches stands alone.  A text without any match is left as it is.
-/

namespace Worksheet.Text

variable {α : Type} {pattern : Pattern α}

/-- The last character of a text, with another one in front. -/
lemma getLast?_cons_or (c : Char) (cs : List Char) (before : Option Char) :
    (c :: cs).getLast?.or before = cs.getLast?.or (some c) := by
  cases cs <;> simp [List.getLast?_cons]

/-- The characters of a match are passed over. -/
lemma scanFrom_skip (pattern : Pattern α) (before : Option Char) (cs rest : List Char) :
    scanFrom pattern before cs.length (cs ++ rest) =
      scanFrom pattern (cs.getLast?.or before) 0 rest := by
  induction cs generalizing before with
  | nil => rfl
  | cons c cs ih =>
    rw [getLast?_cons_or, ← ih]
    rfl

/-- A match at the head of a text is the first piece. -/
lemma scanFrom_found {before : Option Char} {cs rest : List Char} {a : α} (hne : cs ≠ [])
    (h : pattern before (cs ++ rest) = some (a, cs.length)) :
    scanFrom pattern before 0 (cs ++ rest) = .found a :: scanFrom pattern cs.getLast? 0 rest := by
  obtain ⟨c, cs, rfl⟩ := List.exists_cons_of_ne_nil hne
  have hlast : (c :: cs).getLast? = cs.getLast?.or (some c) := by
    rw [← getLast?_cons_or c cs none, Option.or_none]
  rw [hlast, ← scanFrom_skip, List.cons_append]
  rw [List.cons_append] at h
  rw [scanFrom, h]
  rfl

/-- A character at which nothing matches is the first piece. -/
lemma scanFrom_plain {before : Option Char} {c : Char} {rest : List Char}
    (h : pattern before (c :: rest) = none) :
    scanFrom pattern before 0 (c :: rest) = .plain c :: scanFrom pattern (some c) 0 rest := by
  rw [scanFrom, h]

/-- Characters among which nothing matches are pieces of their own. -/
lemma scanFrom_append_of_apart {before : Option Char} {cs rest : List Char}
    (h : ∀ u c v, cs = u ++ c :: v → pattern (u.getLast?.or before) (c :: v ++ rest) = none) :
    scanFrom pattern before 0 (cs ++ rest) =
      cs.map .plain ++ scanFrom pattern (cs.getLast?.or before) 0 rest := by
  induction cs generalizing before with
  | nil => rfl
  | cons c cs ih =>
    have hhead : pattern before (c :: (cs ++ rest)) = none := h [] c cs rfl
    rw [List.cons_append, scanFrom_plain hhead, ih, getLast?_cons_or, List.map_cons, List.cons_append]
    intro u d v hsplit
    rw [← getLast?_cons_or]
    exact h (c :: u) d v (by rw [hsplit, List.cons_append])

/-- Nothing matches anywhere in the text. -/
def NoMatch (pattern : Pattern α) (s : List Char) : Prop :=
  ∀ before c rest, c :: rest <:+ s → pattern before (c :: rest) = none

lemma NoMatch.tail {c : Char} {s : List Char} (h : NoMatch pattern (c :: s)) :
    NoMatch pattern s :=
  fun before c' rest hsuffix => h before c' rest (hsuffix.trans (List.suffix_cons c s))

lemma scanFrom_of_noMatch {s : List Char} (h : NoMatch pattern s) (before : Option Char) :
    scanFrom pattern before 0 s = s.map .plain := by
  induction s generalizing before with
  | nil => rfl
  | cons c s ih =>
    rw [scanFrom_plain (h before c s (List.suffix_refl _)), ih h.tail, List.map_cons]

lemma substitute_of_noMatch {s : List Char} (h : NoMatch pattern s) (image : α → List Char) :
    substitute pattern image s = s := by
  rw [substitute, scan, scanFrom_of_noMatch h, List.flatMap_map]
  exact List.flatMap_singleton' s

lemma matches?_of_noMatch {s : List Char} (h : NoMatch pattern s) : matches? pattern s = [] := by
  rw [matches?, scan, scanFrom_of_noMatch h, List.filterMap_map, List.filterMap_eq_nil_iff]
  intro c _
  rfl

/-- The match that a piece is, if it is one. -/
def Piece.found? : Piece α → Option α
  | .plain _ => none
  | .found a => some a

lemma matches?_eq_filterMap (pattern : Pattern α) (s : List Char) :
    matches? pattern s = (scanFrom pattern none 0 s).filterMap Piece.found? := by
  refine congrArg (fun f => List.filterMap f _) (funext fun piece => ?_)
  cases piece <;> rfl

/-- A piece with an image in the place of a match. -/
def Piece.shown (image : α → List Char) : Piece α → List Char
  | .plain c => [c]
  | .found a => image a

lemma substitute_eq_flatMap (pattern : Pattern α) (image : α → List Char) (s : List Char) :
    substitute pattern image s = (scanFrom pattern none 0 s).flatMap (Piece.shown image) := by
  refine congrArg (fun f => List.flatMap f _) (funext fun piece => ?_)
  cases piece <;> rfl

/-- Where nothing is found the pattern matches at no place. -/
lemma eq_none_of_matches?_eq_nil {s : List Char} (h : matches? pattern s = []) {u v : List Char}
    {c : Char} (hsplit : s = u ++ c :: v) : pattern u.getLast? (c :: v) = none := by
  have hrun : ∀ before u, (scanFrom pattern before 0 (u ++ c :: v)).filterMap Piece.found? = [] →
      pattern (u.getLast?.or before) (c :: v) = none := by
    intro before u hnone
    induction u generalizing before with
    | nil =>
      cases hfound : pattern before (c :: v) with
      | none => exact hfound
      | some found =>
        rw [List.nil_append, scanFrom, hfound] at hnone
        exact absurd hnone (by simp [Piece.found?])
    | cons d u ih =>
      cases hfound : pattern before (d :: (u ++ c :: v)) with
      | none =>
        rw [List.cons_append, scanFrom_plain hfound] at hnone
        rw [getLast?_cons_or]
        exact ih (some d) hnone
      | some found =>
        rw [List.cons_append, scanFrom, hfound] at hnone
        exact absurd hnone (by simp [Piece.found?])
  rw [matches?_eq_filterMap, hsplit] at h
  have hnone := hrun none u h
  rwa [Option.or_none] at hnone

/-- At some place of the text the pattern finds `a`. -/
def FoundIn (pattern : Pattern α) (a : α) (s : List Char) : Prop :=
  ∃ before s' width, s' <:+ s ∧ pattern before s' = some (a, width)

lemma FoundIn.cons {a : α} {s : List Char} (h : FoundIn pattern a s) (c : Char) :
    FoundIn pattern a (c :: s) := by
  obtain ⟨before, s', width, hsuffix, hmatch⟩ := h
  exact ⟨before, s', width, hsuffix.trans (List.suffix_cons c s), hmatch⟩

lemma foundIn_of_mem_scanFrom {a : α} {before : Option Char} {skip : Nat} {s : List Char}
    (h : Piece.found a ∈ scanFrom pattern before skip s) : FoundIn pattern a s := by
  fun_induction scanFrom pattern before skip s with
  | case1 => exact absurd h List.not_mem_nil
  | case2 before skip c cs ih => exact (ih h).cons c
  | case3 before c cs b width hmatch ih =>
    rcases List.mem_cons.1 h with heq | hmem
    · obtain rfl : a = b := by simpa using heq
      exact ⟨before, c :: cs, width, List.suffix_refl _, hmatch⟩
    · exact (ih hmem).cons c
  | case4 before c cs hnone ih =>
    rcases List.mem_cons.1 h with heq | hmem
    · exact absurd heq (by simp)
    · exact (ih hmem).cons c

lemma foundIn_of_mem_matches? {a : α} {s : List Char} (h : a ∈ matches? pattern s) :
    FoundIn pattern a s := by
  obtain ⟨piece, hmem, hpiece⟩ := List.mem_filterMap.1 h
  cases piece with
  | plain c => simp at hpiece
  | found b =>
    obtain rfl : b = a := by simpa using hpiece
    exact foundIn_of_mem_scanFrom hmem

lemma mem_of_plain_mem_scanFrom {before : Option Char} {skip : Nat} {s : List Char} {c : Char}
    (h : Piece.plain c ∈ scanFrom pattern before skip s) : c ∈ s := by
  fun_induction scanFrom pattern before skip s with
  | case1 => exact absurd h List.not_mem_nil
  | case2 before skip d cs ih => exact List.mem_cons_of_mem d (ih h)
  | case3 before d cs a width hmatch ih =>
    rcases List.mem_cons.1 h with heq | hmem
    · exact absurd heq (by simp)
    · exact List.mem_cons_of_mem d (ih hmem)
  | case4 before d cs hnone ih =>
    rcases List.mem_cons.1 h with heq | hmem
    · obtain rfl : c = d := by simpa using heq
      exact List.mem_cons_self
    · exact List.mem_cons_of_mem d (ih hmem)

/-! ### What holds at every piece -/

/-- `P` holds of every piece, with the pieces before and after it. -/
def Everywhere (P : List (Piece α) → List (Piece α) → Piece α → Prop) (pieces : List (Piece α)) :
    Prop :=
  ∀ before piece after, pieces = before ++ piece :: after → P before after piece

section Everywhere

variable {P : List (Piece α) → List (Piece α) → Piece α → Prop} {pieces : List (Piece α)}

lemma everywhere_iff : Everywhere P pieces ↔
    ∀ n, (h : n < pieces.length) → P (pieces.take n) (pieces.drop (n + 1)) pieces[n] := by
  constructor
  · intro hpieces n hn
    exact hpieces _ _ _ (by rw [List.getElem_cons_drop, List.take_append_drop])
  · rintro h before piece after rfl
    have hhere := h before.length (by simp)
    have hdrop : (before ++ piece :: after).drop (before.length + 1) = after := by
      rw [List.append_cons, List.drop_left' (by simp)]
    rw [List.take_left, hdrop] at hhere
    simpa using hhere

instance [∀ before after, DecidablePred (P before after)] : DecidablePred (Everywhere P) :=
  fun _ => decidable_of_iff' _ everywhere_iff

lemma everywhere_cons {piece : Piece α} : Everywhere P (piece :: pieces) ↔
    P [] pieces piece ∧ Everywhere (fun before => P (piece :: before)) pieces := by
  constructor
  · exact fun h => ⟨h [] piece pieces rfl, fun before piece' after hsplit =>
      h (piece :: before) piece' after (by rw [hsplit]; rfl)⟩
  · rintro ⟨hhead, htail⟩ before piece' after hsplit
    cases before with
    | nil =>
      obtain ⟨rfl, rfl⟩ := List.cons.inj hsplit
      exact hhead
    | cons first before =>
      obtain ⟨rfl, rfl⟩ := List.cons.inj hsplit
      exact htail before piece' after rfl

end Everywhere

/-! ### Patterns that do not look behind -/

/-- What a pattern finds does not depend on the character in front. -/
def Forward (pattern : Pattern α) : Prop :=
  ∀ before before' s, pattern before s = pattern before' s

lemma scanFrom_of_forward (h : Forward pattern) (before before' : Option Char) (skip : Nat)
    (s : List Char) : scanFrom pattern before skip s = scanFrom pattern before' skip s := by
  cases s with
  | nil => rfl
  | cons c s =>
    cases skip with
    | succ skip => rfl
    | zero => rw [scanFrom, scanFrom, h before before']

/-- A character at which nothing matches is a piece of its own. -/
lemma scan_cons (h : Forward pattern) {c : Char} {s : List Char}
    (hnone : pattern none (c :: s) = none) :
    scan pattern (c :: s) = .plain c :: scan pattern s := by
  rw [scan, scanFrom_plain hnone, scanFrom_of_forward h (some c) none]
  rfl

/-- A match at the head of a text is a piece of its own. -/
lemma scan_append (h : Forward pattern) {cs s : List Char} {a : α} (hne : cs ≠ [])
    (hfound : pattern none (cs ++ s) = some (a, cs.length)) :
    scan pattern (cs ++ s) = .found a :: scan pattern s := by
  rw [scan, scanFrom_found hne hfound, scanFrom_of_forward h cs.getLast? none]
  rfl

/-- Nothing matches where no character can begin a match. -/
lemma NoMatch.of_forward (h : Forward pattern) {s : List Char}
    (hnone : ∀ c ∈ s, ∀ rest, pattern none (c :: rest) = none) : NoMatch pattern s := by
  intro before c rest hsuffix
  rw [h before none]
  exact hnone c (hsuffix.subset List.mem_cons_self) rest

/-- A character at which nothing matches is kept. -/
lemma substitute_cons (h : Forward pattern) {c : Char} {s : List Char}
    (hnone : pattern none (c :: s) = none) (image : α → List Char) :
    substitute pattern image (c :: s) = c :: substitute pattern image s := by
  rw [substitute, scan_cons h hnone]
  rfl

/-- A match at the head of a text becomes its image. -/
lemma substitute_append (h : Forward pattern) {cs s : List Char} {a : α} (hne : cs ≠ [])
    (hfound : pattern none (cs ++ s) = some (a, cs.length)) (image : α → List Char) :
    substitute pattern image (cs ++ s) = image a ++ substitute pattern image s := by
  rw [substitute, scan_append h hne hfound]
  rfl

/-- Characters among which nothing matches are pieces of their own. -/
lemma scan_append_of_apart (h : Forward pattern) {cs s : List Char}
    (hnone : ∀ t, t <:+ cs → t ≠ [] → pattern none (t ++ s) = none) :
    scan pattern (cs ++ s) = cs.map .plain ++ scan pattern s := by
  induction cs with
  | nil => rfl
  | cons c cs ih =>
    have hhead : pattern none (c :: (cs ++ s)) = none :=
      hnone _ List.suffix_rfl (List.cons_ne_nil c cs)
    rw [List.cons_append, scan_cons h hhead, ih, List.map_cons, List.cons_append]
    exact fun t hsuffix => hnone t (hsuffix.trans (List.suffix_cons c cs))

/-- Characters among which nothing matches are kept. -/
lemma substitute_append_of_apart (h : Forward pattern) {cs s : List Char}
    (hnone : ∀ t, t <:+ cs → t ≠ [] → pattern none (t ++ s) = none) (image : α → List Char) :
    substitute pattern image (cs ++ s) = cs ++ substitute pattern image s := by
  rw [substitute, scan_append_of_apart h hnone, List.flatMap_append, List.flatMap_map]
  exact congrArg (· ++ _) (List.flatMap_singleton' cs)

lemma matches?_cons (h : Forward pattern) {c : Char} {s : List Char}
    (hnone : pattern none (c :: s) = none) :
    matches? pattern (c :: s) = matches? pattern s := by
  rw [matches?, scan_cons h hnone]
  rfl

lemma matches?_append (h : Forward pattern) {cs s : List Char} {a : α} (hne : cs ≠ [])
    (hfound : pattern none (cs ++ s) = some (a, cs.length)) :
    matches? pattern (cs ++ s) = a :: matches? pattern s := by
  rw [matches?, scan_append h hne hfound]
  rfl

/-- A text has something at its head that a reader finds, or else a character, or is empty. -/
theorem head_induction {find : List Char → Option α} {text : α → List Char}
    (hfind : ∀ s a, find s = some a → text a ≠ [] ∧ text a <+: s) {motive : List Char → Prop}
    (nil : motive []) (plain : ∀ c s, find (c :: s) = none → motive s → motive (c :: s))
    (found : ∀ a s, find (text a ++ s) = some a → motive s → motive (text a ++ s))
    (s : List Char) : motive s := by
  induction hlength : s.length using Nat.strongRecOn generalizing s with
  | ind n ih =>
    cases ha : find s with
    | some a =>
      obtain ⟨hne, t, rfl⟩ := hfind s a ha
      refine found a t ha (ih t.length ?_ t rfl)
      have hpos := List.length_pos_iff.2 hne
      rw [List.length_append] at hlength
      omega
    | none =>
      cases s with
      | nil => exact nil
      | cons c s =>
        refine plain c s ha (ih s.length ?_ s rfl)
        rw [List.length_cons] at hlength
        omega

/-! ### One fixed text -/

lemma forward_literalPattern (word : List Char) : Forward (literalPattern word) :=
  fun _ _ _ => rfl

lemma literalPattern_eq_none {word s : List Char} (h : ¬ word <+: s)
    (before : Option Char) : literalPattern word before s = none := by
  rw [literalPattern, if_neg (mt List.isPrefixOf_iff_prefix.1 h)]

lemma noMatch_literalPattern {word s : List Char} (h : ∀ t, t <:+ s → ¬ word <+: t) :
    NoMatch (literalPattern word) s :=
  fun before _ _ hsuffix => literalPattern_eq_none (h _ hsuffix) before

/-- The word at the head of a text becomes its image. -/
lemma replaceAll_append {word : List Char} (hne : word ≠ []) (image s : List Char) :
    replaceAll word image (word ++ s) = image ++ replaceAll word image s := by
  refine substitute_append (forward_literalPattern word) (a := ()) hne ?_ _
  rw [literalPattern, if_pos (List.isPrefixOf_iff_prefix.2 (List.prefix_append _ _))]

/-- A character at which the word does not start is kept. -/
lemma replaceAll_cons {word s : List Char} {c : Char} (h : ¬ word <+: c :: s)
    (image : List Char) : replaceAll word image (c :: s) = c :: replaceAll word image s :=
  substitute_cons (forward_literalPattern word) (literalPattern_eq_none h none) _

/-- Characters among which the word does not start are kept. -/
lemma replaceAll_append_of_apart {word cs s : List Char}
    (h : ∀ t, t <:+ cs → t ≠ [] → ¬ word <+: t ++ s) (image : List Char) :
    replaceAll word image (cs ++ s) = cs ++ replaceAll word image s :=
  substitute_append_of_apart (forward_literalPattern word)
    (fun t hsuffix hne => literalPattern_eq_none (h t hsuffix hne) none) _

/-- A text that is nothing but the word becomes its image. -/
lemma replaceAll_self {word : List Char} (hne : word ≠ []) (image : List Char) :
    replaceAll word image word = image := by
  have hnil : replaceAll word image [] = [] := rfl
  have happend := replaceAll_append hne image []
  rwa [hnil, List.append_nil, List.append_nil] at happend

/-- A text is the word with a text behind it, or a character with a text behind it, or empty. -/
theorem replace_induction {word : List Char} (hne : word ≠ []) {motive : List Char → Prop}
    (nil : motive []) (plain : ∀ c s, ¬ word <+: c :: s → motive s → motive (c :: s))
    (found : ∀ s, motive s → motive (word ++ s)) (s : List Char) : motive s := by
  have hfind : ∀ s t, (if word <+: s then some word else none) = some t →
      id t ≠ [] ∧ id t <+: s := by
    intro s t h
    split at h
    · obtain rfl := Option.some.inj h
      exact ⟨hne, ‹_›⟩
    · exact absurd h (by simp)
  refine head_induction hfind nil (fun c s h => plain c s fun hhead => ?_) (fun t s h hs => ?_) s
  · rw [if_pos hhead] at h
    exact absurd h (by simp)
  · split at h
    · obtain rfl := Option.some.inj h
      exact found s hs
    · exact absurd h (by simp)

/-- A text can be cut where the word does not run over the place. -/
lemma replaceAll_append_of_boundary {word : List Char} (hne : word ≠ []) {cs s : List Char}
    (h : ∀ t, t <:+ cs → t ≠ [] → word <+: t ++ s → word <+: t) (image : List Char) :
    replaceAll word image (cs ++ s) = replaceAll word image cs ++ replaceAll word image s := by
  induction cs using replace_induction hne with
  | nil => rfl
  | plain c cs hnone ih =>
    have hhead : ¬ word <+: c :: (cs ++ s) := fun hhead =>
      hnone (h _ List.suffix_rfl (List.cons_ne_nil c cs) hhead)
    rw [List.cons_append, replaceAll_cons hhead, replaceAll_cons hnone, List.cons_append,
      ih fun t ht => h t (ht.trans (List.suffix_cons c cs))]
  | found cs ih =>
    rw [List.append_assoc, replaceAll_append hne, replaceAll_append hne, List.append_assoc,
      ih fun t ht => h t (ht.trans (List.suffix_append word cs))]

/-- A character of what is left stands in the text or in the image. -/
lemma of_mem_replaceAll {word image s : List Char} {c : Char} (h : c ∈ replaceAll word image s) :
    c ∈ s ∨ c ∈ image := by
  rw [replaceAll, substitute_eq_flatMap] at h
  obtain ⟨piece, hpiece, hc⟩ := List.mem_flatMap.1 h
  cases piece with
  | plain d =>
    obtain rfl : c = d := List.mem_singleton.1 hc
    exact Or.inl (mem_of_plain_mem_scanFrom hpiece)
  | found => exact Or.inr hc

/-- Where the word does not stand nothing is replaced. -/
lemma replaceAll_of_not_infix {word s : List Char} (h : ¬ word <:+: s) (image : List Char) :
    replaceAll word image s = s :=
  substitute_of_noMatch (noMatch_literalPattern fun _ ht hhead =>
    h (hhead.isInfix.trans ht.isInfix)) _

end Worksheet.Text
