import Mathlib.Algebra.BigOperators.Group.List.Lemmas
import Mathlib.Algebra.Order.BigOperators.Group.List
import Worksheet.Proofs.CompoundUnit.Net
import Worksheet.Proofs.CompoundUnit.Token
import Worksheet.Proofs.Keyed

/-!
# Units that survive their text

A unit that has been read from a text is written and read again when a column that has it is used in
a formula.  It comes back as a compatible unit exactly when every token that is repeated on a side
is a symbol, and the unit is not a single token that looks like the word for no unit: a power of
any other token comes back as one new token, and that word as nothing.
-/

namespace Worksheet.CompoundUnit

open Worksheet.Text

/-! ### One side -/

/-- The words that a side is written with. -/
def sideWords (tokens : List String) : List (List Char) :=
  (Keyed.distinct tokens).map fun t => (powerText t (tokens.count t)).toList

lemma toList_sideText (tokens : List String) :
    (sideText tokens).toList = ['·'].intercalate (sideWords tokens) := by
  rw [sideText, String.toList_intercalate, List.map_map]
  rfl

/-- What a side is read as when it has been written. -/
def reread (tokens : List String) : List String :=
  (Keyed.distinct tokens).flatMap fun t =>
    List.replicate (rereadPower t (tokens.count t)).2 (rereadPower t (tokens.count t)).1

lemma reread_nil : reread [] = [] := rfl

section Side

variable {tokens : List String}

lemma count_pos_of_mem_distinct {t : String} (h : t ∈ Keyed.distinct tokens) :
    0 < tokens.count t := List.count_pos_iff.2 (Keyed.mem_distinct.1 h)

lemma isWord_of_mem_sideWords (h : ∀ t ∈ tokens, IsToken t) {word : List Char}
    (hword : word ∈ sideWords tokens) : IsWord word := by
  obtain ⟨t, ht, rfl⟩ := List.mem_map.1 hword
  exact isWord_powerText (h t (Keyed.mem_distinct.1 ht)) (count_pos_of_mem_distinct ht)

/-- A side that has been written is cut into its words again. -/
lemma partTokens_sideText (h : ∀ t ∈ tokens, IsToken t) :
    partTokens (sideText tokens).toList = sideWords tokens := by
  have hdot : isSeparator '·' = true := by decide
  rw [partTokens, toList_sideText]
  by_cases hnil : sideWords tokens = []
  · rw [hnil]
    rfl
  · rw [splitWhere_intercalate hdot hnil fun word hword =>
      (isWord_of_mem_sideWords h hword).not_separator, List.filter_eq_self]
    intro word hword
    have hisWord := isWord_of_mem_sideWords h hword
    simp [hisWord.ne_nil, hisWord.ne_one]

lemma partSides_sideText (h : ∀ t ∈ tokens, IsToken t) :
    partSides (sideText tokens).toList = (reread tokens, []) := by
  have hpowers : (sideWords tokens).map splitToken = (Keyed.distinct tokens).map fun t =>
      ((rereadPower t (tokens.count t)).1, ((rereadPower t (tokens.count t)).2 : Int)) := by
    rw [sideWords, List.map_map]
    refine List.map_congr_left fun t ht => ?_
    rw [Function.comp_apply]
    exact splitToken_powerText (h t (Keyed.mem_distinct.1 ht)) (count_pos_of_mem_distinct ht)
  rw [partSides, partTokens_sideText h, hpowers]
  simp [reread, List.flatMap_map]

lemma length_eq_sum_count (tokens : List String) :
    tokens.length = ((Keyed.distinct tokens).map fun t => tokens.count t).sum := by
  -- the two ways to drop repetitions keep different occurrences, but the same tokens
  have hperm : tokens.dedup.Perm (Keyed.distinct tokens) :=
    (List.perm_ext_iff_of_nodup (List.nodup_dedup tokens) (Keyed.nodup_distinct tokens)).2
      fun t => by rw [List.mem_dedup, Keyed.mem_distinct]
  rw [← (hperm.map _).sum_eq, List.sum_map_count_dedup_eq_length]

lemma length_reread (tokens : List String) : (reread tokens).length =
    ((Keyed.distinct tokens).map fun t => (rereadPower t (tokens.count t)).2).sum := by
  rw [reread, List.length_flatMap]
  simp

lemma rereadPower_le {t : String} {n : Nat} (hn : 0 < n) : (rereadPower t n).2 ≤ n := by
  rw [rereadPower]
  split
  · exact le_rfl
  · exact hn

/-- A power that is not of a symbol shortens the side. -/
lemma length_reread_lt {t : String} (hcount : 2 ≤ tokens.count t) (hsymbol : isSymbol t = false) :
    (reread tokens).length < tokens.length := by
  rw [length_reread, length_eq_sum_count tokens]
  have hmem : t ∈ Keyed.distinct tokens :=
    Keyed.mem_distinct.2 (List.count_pos_iff.1 (by omega))
  refine List.sum_lt_sum _ _ (fun t ht => rereadPower_le (count_pos_of_mem_distinct ht))
    ⟨t, hmem, ?_⟩
  have hpower : ¬(tokens.count t = 1 ∨ isSymbol t = true) := by
    rw [hsymbol, not_or]
    exact ⟨by omega, Bool.false_ne_true⟩
  rw [rereadPower, if_neg hpower]
  exact hcount

/-- Powers of symbols are read with the counts that they had. -/
lemma count_reread (h : ∀ t, 2 ≤ tokens.count t → isSymbol t = true) (t : String) :
    (reread tokens).count t = tokens.count t := by
  have hreread : reread tokens = repeated (tokens.count ·) (Keyed.distinct tokens) := by
    refine List.flatMap_congr fun t ht => ?_
    have hpos := count_pos_of_mem_distinct ht
    rw [rereadPower, if_pos]
    by_cases hone : tokens.count t = 1
    · exact Or.inl hone
    · exact Or.inr (h t (by omega))
  rw [hreread, count_repeated (Keyed.nodup_distinct tokens)]
  split
  · rfl
  · rename_i hmem
    exact (List.count_eq_zero.2 (mt Keyed.mem_distinct.2 hmem)).symm

lemma sideWords_eq_nil_iff : sideWords tokens = [] ↔ tokens = [] := by
  rw [sideWords, List.map_eq_nil_iff, List.eq_nil_iff_forall_not_mem,
    List.eq_nil_iff_forall_not_mem]
  simp only [Keyed.mem_distinct]

lemma toList_sideText_eq_nil_iff (h : ∀ t ∈ tokens, IsToken t) :
    (sideText tokens).toList = [] ↔ tokens = [] := by
  constructor
  · intro hnil
    have hwords := partTokens_sideText h
    rw [hnil] at hwords
    exact sideWords_eq_nil_iff.1 hwords.symm
  · rintro rfl
    rfl

lemma of_mem_sideText (h : ∀ t ∈ tokens, IsToken t) {c : Char}
    (hc : c ∈ (sideText tokens).toList) : isBlank c = false ∧ (c == '/') = false := by
  rw [toList_sideText] at hc
  rcases of_mem_intercalate hc with rfl | ⟨word, hword, hc⟩
  · exact ⟨by decide, by decide⟩
  · have hisWord := isWord_of_mem_sideWords h hword
    exact ⟨(Bool.or_eq_false_iff.1 (hisWord.not_separator c hc)).2, hisWord.not_slash c hc⟩

lemma toList_sideText_of_distinct_eq {t : String} (h : Keyed.distinct tokens = [t]) :
    (sideText tokens).toList = (powerText t (tokens.count t)).toList := by
  rw [toList_sideText, sideWords, h, List.map_singleton, List.intercalate_singleton]

/-- A side that is written without dots and exponents is a single token. -/
lemma eq_singleton_of_sideText (hne : tokens ≠ []) (hdot : '·' ∉ (sideText tokens).toList)
    (hmarks : ∀ c ∈ exponentMarks, c ∉ (sideText tokens).toList) : ∃ t, tokens = [t] := by
  cases hdistinct : Keyed.distinct tokens with
  | nil =>
    have hwords : sideWords tokens = [] := by rw [sideWords, hdistinct, List.map_nil]
    exact absurd (sideWords_eq_nil_iff.1 hwords) hne
  | cons t rest =>
    cases rest with
    | cons t' rest =>
      -- a dot stands between two words
      refine absurd ?_ hdot
      rw [toList_sideText, sideWords, hdistinct, List.map_cons, List.map_cons,
        List.intercalate_cons_cons]
      simp
    | nil =>
      have hpos := count_pos_of_mem_distinct (hdistinct ▸ List.mem_singleton_self t)
      -- an exponent would be written behind a repeated token
      have hlt : tokens.count t < 2 := by
        by_contra hge
        obtain ⟨mark, cs, hexponent, hmark⟩ := exists_cons_exponentText (tokens.count t)
        refine hmarks mark hmark ?_
        rw [toList_sideText_of_distinct_eq hdistinct, toList_powerText t (by omega), hexponent]
        simp
      have hlength : tokens.length = tokens.count t := by
        rw [length_eq_sum_count, hdistinct, List.map_singleton, List.sum_singleton]
      exact List.length_eq_one_iff.1 (by omega)

end Side

/-! ### Units that have been read -/

/-- A unit as reading leaves it. -/
structure IsRead (u : CompoundUnit) : Prop where
  numerator : ∀ t ∈ u.numerator, IsToken t
  denominator : ∀ t ∈ u.denominator, IsToken t
  reduced : u.Reduced

lemma isWord_of_mem_partTokens {part word : List Char} (hpart : ∀ c ∈ part, (c == '/') = false)
    (h : word ∈ partTokens part) : IsWord word := by
  obtain ⟨hmem, hkept⟩ := List.mem_filter.1 h
  rw [Bool.and_eq_true] at hkept
  exact ⟨by simpa using hkept.1, by simpa using hkept.2,
    fun c hc => (of_mem_splitWhere hmem hc).1, fun c hc => hpart c (of_mem_splitWhere hmem hc).2⟩

lemma isToken_of_mem_partSides {part : List Char} (hpart : ∀ c ∈ part, (c == '/') = false)
    {t : String} (h : t ∈ (partSides part).1 ∨ t ∈ (partSides part).2) : IsToken t := by
  obtain ⟨power, hpower, rfl⟩ : ∃ power ∈ (partTokens part).map splitToken, t = power.1 := by
    rcases h with h | h
    · obtain ⟨power, hpower, ht⟩ := List.mem_flatMap.1 h
      exact ⟨power, hpower, (List.mem_replicate.1 ht).2⟩
    · obtain ⟨power, hpower, ht⟩ := List.mem_flatMap.1 h
      exact ⟨power, hpower, (List.mem_replicate.1 ht).2⟩
  obtain ⟨word, hword, rfl⟩ := List.mem_map.1 hpower
  exact isToken_fst_splitToken (isWord_of_mem_partTokens hpart hword)

lemma isToken_of_mem_ofParts {parts : List (List Char)}
    (h : ∀ part ∈ parts, ∀ c ∈ part, (c == '/') = false) {t : String}
    (ht : t ∈ (ofParts parts).numerator ∨ t ∈ (ofParts parts).denominator) : IsToken t := by
  obtain ⟨part, hpart, hside⟩ :
      ∃ part ∈ parts, t ∈ (partSides part).1 ∨ t ∈ (partSides part).2 := by
    cases parts with
    | nil => exact absurd ht (by simp [ofParts, unitless])
    | cons first rest =>
      have hrest {side : List String × List String}
          (hside : side ∈ rest.map partSides) (ht : t ∈ side.1 ∨ t ∈ side.2) :
          ∃ part ∈ first :: rest, t ∈ (partSides part).1 ∨ t ∈ (partSides part).2 := by
        obtain ⟨part, hpart, rfl⟩ := List.mem_map.1 hside
        exact ⟨part, List.mem_cons_of_mem first hpart, ht⟩
      rcases ht with ht | ht
      · rcases List.mem_append.1 ht with ht | ht
        · exact ⟨first, List.mem_cons_self, Or.inl ht⟩
        · obtain ⟨side, hside, ht⟩ := List.mem_flatMap.1 ht
          exact hrest hside (Or.inr ht)
      · rcases List.mem_append.1 ht with ht | ht
        · exact ⟨first, List.mem_cons_self, Or.inr ht⟩
        · obtain ⟨side, hside, ht⟩ := List.mem_flatMap.1 ht
          exact hrest hside (Or.inl ht)
  exact isToken_of_mem_partSides (h part hpart) hside

lemma isRead_unitless : IsRead unitless where
  numerator _ ht := absurd ht List.not_mem_nil
  denominator _ ht := absurd ht List.not_mem_nil
  reduced := unitless_reduced

lemma isRead_simplify {parts : List (List Char)}
    (h : ∀ part ∈ parts, ∀ c ∈ part, (c == '/') = false) : IsRead (ofParts parts).simplify where
  numerator _ ht :=
    isToken_of_mem_ofParts h (Or.inl ((numerator_simplify_sublist _).subset ht))
  denominator _ ht :=
    isToken_of_mem_ofParts h (Or.inr ((denominator_simplify_sublist _).subset ht))
  reduced := simplify_reduced _

lemma isRead_parse (s : String) : IsRead (parse s) := by
  rw [parse]
  split
  · exact isRead_unitless
  · exact isRead_simplify fun part hpart c hc => (of_mem_splitWhere hpart hc).1

/-! ### The text of a unit -/

/-- The unit as it is read again, before cancelling. -/
def rereadUnit (u : CompoundUnit) : CompoundUnit := ⟨reread u.numerator, reread u.denominator⟩

/-- What is written above the line. -/
def aboveText (tokens : List String) : List Char :=
  if tokens = [] then ['1'] else (sideText tokens).toList

section Unit

variable {u : CompoundUnit}

lemma isEmpty_sideText {tokens : List String} (h : ∀ t ∈ tokens, IsToken t) :
    (sideText tokens).isEmpty = true ↔ tokens = [] := by
  rw [String.isEmpty_iff, ← String.toList_eq_nil_iff, toList_sideText_eq_nil_iff h]

/-- The denominator is written only if there is one. -/
lemma toList_text (hu : IsRead u) (hne : u ≠ unitless) : u.text.toList =
    aboveText u.numerator ++
      if u.denominator = [] then [] else '/' :: (sideText u.denominator).toList := by
  have hnumerator := isEmpty_sideText hu.numerator
  have hdenominator := isEmpty_sideText hu.denominator
  rw [text, aboveText]
  simp only [hnumerator, hdenominator]
  by_cases hnum : u.numerator = []
  · have hden : u.denominator ≠ [] := fun hden => hne (by
      rw [unitless, CompoundUnit.mk.injEq]
      exact ⟨hnum, hden⟩)
    rw [if_neg hden, if_pos hnum, if_pos hnum, if_neg hden, String.toList_append]
    rfl
  · rw [if_neg hnum, if_neg hnum, if_neg hnum]
    split
    · rw [List.append_nil]
    · rw [String.toList_append, String.toList_append, List.append_assoc]
      rfl

lemma of_mem_aboveText {tokens : List String} (h : ∀ t ∈ tokens, IsToken t) {c : Char}
    (hc : c ∈ aboveText tokens) : isBlank c = false ∧ (c == '/') = false := by
  rw [aboveText] at hc
  split at hc
  · rw [List.mem_singleton.1 hc]
    exact ⟨by decide, by decide⟩
  · exact of_mem_sideText h hc

lemma partSides_aboveText {tokens : List String} (h : ∀ t ∈ tokens, IsToken t) :
    partSides (aboveText tokens) = (reread tokens, []) := by
  rw [aboveText]
  split
  · subst tokens
    rfl
  · exact partSides_sideText h

lemma ofParts_text (hu : IsRead u) (hne : u ≠ unitless) :
    ofParts (splitWhere (· == '/') u.text.toList) = rereadUnit u := by
  have habove : ∀ c ∈ aboveText u.numerator, (c == '/') = false :=
    fun c hc => (of_mem_aboveText hu.numerator hc).2
  have hbelow : ∀ c ∈ (sideText u.denominator).toList, (c == '/') = false :=
    fun c hc => (of_mem_sideText hu.denominator hc).2
  rw [toList_text hu hne, rereadUnit]
  split
  · rename_i hden
    rw [List.append_nil, splitWhere_of_forall habove, ofParts, partSides_aboveText hu.numerator,
      hden, reread_nil]
    simp
  · rw [splitWhere_append_cons habove (by decide), splitWhere_of_forall hbelow, ofParts,
      List.map_singleton, partSides_aboveText hu.numerator, partSides_sideText hu.denominator]
    simp

lemma trim_text (hu : IsRead u) (hne : u ≠ unitless) : trim u.text = u.text := by
  refine trim_of_forall fun c hc => ?_
  rw [toList_text hu hne, List.mem_append] at hc
  rcases hc with hc | hc
  · exact (of_mem_aboveText hu.numerator hc).1
  · split at hc
    · exact absurd hc List.not_mem_nil
    · rcases List.mem_cons.1 hc with rfl | hc
      · decide
      · exact (of_mem_sideText hu.denominator hc).1

/-- A written unit is read side by side, unless its text is the word for no unit. -/
lemma parse_text (hu : IsRead u) (hne : u ≠ unitless) :
    parse u.text = if lower u.text = "unitless" then unitless else (rereadUnit u).simplify := by
  have hnonempty : u.text.isEmpty = false := by
    rw [Bool.eq_false_iff, ne_eq, String.isEmpty_iff, ← String.toList_eq_nil_iff,
      toList_text hu hne, List.append_eq_nil_iff, not_and_or, aboveText]
    left
    split
    · exact List.cons_ne_nil _ _
    · rename_i hnum
      exact mt (toList_sideText_eq_nil_iff hu.numerator).1 hnum
  rw [parse, trim_text hu hne, hnonempty, Bool.false_or, ofParts_text hu hne]
  simp only [beq_iff_eq]

lemma text_singleton {token : String} (h : IsToken token) : text ⟨[token], []⟩ = token := by
  have hread : IsRead ⟨[token], []⟩ :=
    ⟨fun t ht => List.mem_singleton.1 ht ▸ h, fun t ht => absurd ht List.not_mem_nil,
      List.disjoint_nil_right _⟩
  have hdistinct : Keyed.distinct [token] = [token] := rfl
  rw [← String.toList_inj, toList_text hread (by simp [unitless]), aboveText,
    if_neg (List.cons_ne_nil _ _), if_pos rfl, List.append_nil,
    toList_sideText_of_distinct_eq hdistinct, List.count_singleton_self]
  rfl

/-! ### What survives -/

/-- Every token that is repeated on a side is a symbol. -/
def RepeatsSymbols (u : CompoundUnit) : Prop :=
  ∀ token, 2 ≤ u.numerator.count token ∨ 2 ≤ u.denominator.count token → isSymbol token = true

/-- The unit is one token that looks like the word for no unit. -/
def IsLookalike (u : CompoundUnit) : Prop :=
  ∃ token, u = ⟨[token], []⟩ ∧ lower token = "unitless"

/-- Slashes, dots and exponents tell all other units from the word for no unit. -/
lemma lower_text_iff (hu : IsRead u) (hne : u ≠ unitless) :
    lower u.text = "unitless" ↔ u.IsLookalike := by
  constructor
  · intro hword
    have hout {c : Char} (hc : Caseless c) (hmem : c ∉ "unitless".toList) : c ∉ u.text.toList :=
      fun h => hmem (hword ▸ hc.mem_lower h)
    have hslash : '/' ∉ u.text.toList :=
      hout ⟨by decide, by decide, by decide⟩ (by decide)
    have hdot : '·' ∉ u.text.toList := hout ⟨by decide, by decide, by decide⟩ (by decide)
    have hforeign : ∀ c ∈ exponentMarks, c ∉ "unitless".toList :=
      forall_mem_exponentMarks (by decide) (by decide) (by decide)
    have hmarks : ∀ c ∈ exponentMarks, c ∉ u.text.toList := fun c hc =>
      hout (caseless_of_mem_exponentMarks c hc) (hforeign c hc)
    obtain ⟨numerator, denominator⟩ := u
    have htext := toList_text hu hne
    obtain rfl : denominator = [] := by
      by_contra hden
      refine hslash ?_
      rw [htext, if_neg hden]
      simp
    have hnum : numerator ≠ [] := fun hnum => hne (by rw [hnum, unitless])
    rw [if_pos rfl, List.append_nil, aboveText, if_neg hnum] at htext
    obtain ⟨token, rfl⟩ := eq_singleton_of_sideText hnum (htext ▸ hdot) (htext ▸ hmarks)
    refine ⟨token, rfl, ?_⟩
    rwa [text_singleton (hu.numerator token (List.mem_singleton_self token))] at hword
  · rintro ⟨token, rfl, hword⟩
    rwa [text_singleton (hu.numerator token (List.mem_singleton_self token))]

lemma compatible_rereadUnit_iff (hu : IsRead u) :
    (rereadUnit u).simplify.compatible u = true ↔ u.RepeatsSymbols := by
  constructor
  · intro hcompatible token hcount
    by_contra hsymbol
    rw [Bool.not_eq_true] at hsymbol
    -- the sides have kept their lengths, but a power of another token would shorten its side
    obtain ⟨hnum, hden⟩ := (simplify_reduced (rereadUnit u)).perm_of_net hu.reduced
      (compatible_iff_net.1 hcompatible)
    rcases hcount with hcount | hcount
    · have hle := (numerator_simplify_sublist (rereadUnit u)).length_le
      rw [hnum.length_eq] at hle
      exact absurd (length_reread_lt hcount hsymbol) (not_lt.2 hle)
    · have hle := (denominator_simplify_sublist (rereadUnit u)).length_le
      rw [hden.length_eq] at hle
      exact absurd (length_reread_lt hcount hsymbol) (not_lt.2 hle)
  · intro hsymbols
    -- each side is read with the counts that it had
    refine compatible_iff_net.2 fun token => ?_
    rw [net_simplify, net, net, rereadUnit, count_reread fun t ht => hsymbols t (Or.inl ht),
      count_reread fun t ht => hsymbols t (Or.inr ht)]

lemma compatible_parse_iff (hu : IsRead u) :
    (parse u.text).compatible u = true ↔ u.RepeatsSymbols ∧ ¬u.IsLookalike := by
  by_cases hne : u = unitless
  · subst hne
    have hsymbols : unitless.RepeatsSymbols := fun token h => absurd h (by simp [unitless])
    have hlookalike : ¬unitless.IsLookalike := by
      rintro ⟨token, h, -⟩
      exact absurd h (by simp [unitless])
    exact iff_of_true (by decide) ⟨hsymbols, hlookalike⟩
  · rw [parse_text hu hne]
    split
    · rename_i hword
      have hlookalike := (lower_text_iff hu hne).1 hword
      refine iff_of_false (fun hcompatible => ?_) fun h => h.2 hlookalike
      -- the token is lost
      obtain ⟨token, rfl, -⟩ := hlookalike
      exact absurd (compatible_iff_net.1 hcompatible token) (by simp [net, unitless])
    · rename_i hword
      rw [compatible_rereadUnit_iff hu]
      exact (and_iff_left (mt (lower_text_iff hu hne).2 hword)).symm

end Unit

/-- **When a unit survives its text.**  Whatever text a unit has been read from, writing it and
reading it again gives a compatible unit exactly when every token that is repeated on a side is a
symbol, of letters and the signs of percent and degree, and the unit is not a single token that
looks like the word for no unit. -/
theorem compatible_parse_text_iff (s : String) :
    (parse (parse s).text).compatible (parse s) = true ↔
      (parse s).RepeatsSymbols ∧ ¬(parse s).IsLookalike :=
  compatible_parse_iff (isRead_parse s)

/-- Molecules survive side by side, but not squared. -/
example : (parse (parse "kg·CO2/m^2").text).compatible (parse "kg·CO2/m^2") = true ∧
    (parse (parse "CO2·CO2").text).compatible (parse "CO2·CO2") = false := by
  decide +kernel

end Worksheet.CompoundUnit
