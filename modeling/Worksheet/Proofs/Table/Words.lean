import Worksheet.Proofs.Formula.Texts
import Worksheet.Proofs.Text.Scan
import Worksheet.Table.Reference

/-!
# Where bare words are found

A bare word touches no word character.  So every other character cuts a text in two, and the words
of the text are those of its two parts.
-/

namespace Worksheet.Table

open Worksheet.Text
open Worksheet.Formula (word? word?_append word?_eq_none IsWord exists_of_word?)

variable {before : Option Char} {c : Char} {s text : List Char}

lemma isWordChar_of_isNameChar (h : isNameChar c = true) : isWordChar c = true := by
  rw [isWordChar, if_pos (lt_128_of_isNameChar h)]
  exact h

lemma not_isNameStart_of_digitOrPoint (h : isDecimalDigit c = true ∨ c = '.') :
    isNameStart c = false := by
  rcases h with h | rfl
  · exact not_isNameStart_of_isDecimalDigit h
  · rfl

/-- Where no word is found none is found if the text goes on. -/
lemma wordPattern_append_eq_none (h : wordPattern before (c :: s) = none) (t : List Char) :
    wordPattern before (c :: s ++ t) = none := by
  cases hc : isNameStart c with
  | false => rw [wordPattern, List.cons_append, word?_eq_none hc]
  | true =>
    have hword : ∀ s, word? (c :: s) = some (c :: s.takeWhile isNameChar) := fun s => by
      rw [word?, if_pos hc]
    rw [wordPattern, hword] at h
    rw [wordPattern, List.cons_append, hword]
    simp only [List.length_cons, List.drop_succ_cons] at h ⊢
    split at h
    · rename_i hcut
      rcases Bool.or_eq_true_iff.1 hcut with hbefore | hafter
      · rw [hbefore, Bool.true_or, if_pos rfl]
      · -- the word ends inside of the text, so it ends there as well if the text goes on
        obtain ⟨w, hw⟩ : ∃ w, s.takeWhile isNameChar = w := ⟨_, rfl⟩
        have hchars : ∀ d ∈ w, isNameChar d = true := hw ▸ List.all_eq_true.1 List.all_takeWhile
        obtain ⟨rest, rfl⟩ : w <+: s := hw ▸ List.takeWhile_prefix _
        rw [hw, List.drop_left] at hafter
        cases rest with
        | nil => exact absurd hafter (by decide)
        | cons d rest =>
          rw [List.takeWhile_append_of_pos hchars, List.append_right_eq_self] at hw
          have hd : isNameChar d = false := by
            cases hd : isNameChar d with
            | false => rfl
            | true =>
              rw [List.takeWhile_cons_of_pos hd] at hw
              exact absurd hw (List.cons_ne_nil _ _)
          have hrun : (w ++ d :: rest ++ t).takeWhile isNameChar = w := by
            rw [List.append_assoc]
            refine takeWhile_append_of_stops hchars fun e he => ?_
            obtain rfl : d = e := by simpa using he
            exact hd
          rw [hrun, List.append_assoc, List.drop_left, List.cons_append, List.head?_cons,
            ← List.head?_cons, hafter, Bool.or_true, if_pos rfl]
    · exact absurd h (by simp)

/-- A word that touches no word character is found. -/
lemma wordPattern_append (h : IsWord text)
    (hbefore : isInWord before = false) (hafter : isInWord s.head? = false) :
    wordPattern before (text ++ s) = some (text, text.length) := by
  have hstops : Stops isNameChar s := by
    intro c hc
    cases hname : isNameChar c with
    | false => rfl
    | true =>
      rw [Option.mem_def.1 hc, isInWord, Option.map_some, Option.getD_some,
        isWordChar_of_isNameChar hname] at hafter
      exact absurd hafter (by decide)
  obtain ⟨c, cs, rfl, hc, hcs⟩ := h
  rw [wordPattern, word?_append hc hcs hstops]
  simp [hbefore, hafter]

lemma exists_of_wordPattern {word : List Char} {width : Nat}
    (h : wordPattern before s = some (word, width)) :
    width = word.length ∧ IsWord word ∧ isInWord before = false ∧
      ∃ rest, s = word ++ rest ∧ isInWord rest.head? = false := by
  unfold wordPattern at h
  split at h
  · rename_i w hword
    split at h
    · exact absurd h (by simp)
    · rename_i hcut
      simp only [Option.some.injEq, Prod.mk.injEq] at h
      obtain ⟨rfl, rfl⟩ := h
      obtain ⟨hw, rest, rfl⟩ := exists_of_word? hword
      rw [List.drop_left, Bool.or_eq_true_iff, not_or, Bool.not_eq_true, Bool.not_eq_true] at hcut
      exact ⟨rfl, hw, hcut.1, rest, rfl, hcut.2⟩
  · exact absurd h (by simp)

/-! ### Cutting a text -/

/-- Of the character in front it only matters whether it is part of a word. -/
lemma scanFrom_wordPattern_congr {before' : Option Char} (h : isInWord before = isInWord before')
    (s : List Char) : scanFrom wordPattern before 0 s = scanFrom wordPattern before' 0 s := by
  cases s with
  | nil => rfl
  | cons c s =>
    have hpattern : wordPattern before (c :: s) = wordPattern before' (c :: s) := by
      rw [wordPattern, wordPattern, h]
    rw [scanFrom, scanFrom, hpattern]

/-- **A character that is part of no word cuts a text.** -/
lemma scanFrom_wordPattern_append (hc : isWordChar c = false) {skip : Nat}
    (hskip : skip ≤ s.length) (t : List Char) :
    scanFrom wordPattern before skip (s ++ c :: t) =
      scanFrom wordPattern before skip s ++ .plain c :: scan wordPattern t := by
  have hin : isInWord (some c) = false := hc
  fun_induction scanFrom wordPattern before skip s with
  | case1 before skip =>
    obtain rfl : skip = 0 := Nat.le_zero.1 hskip
    have hstart : isNameStart c = false := by
      cases hstart : isNameStart c with
      | false => rfl
      | true =>
        rw [isWordChar_of_isNameChar (Formula.isNameChar_of_isNameStart hstart)] at hc
        exact absurd hc (by decide)
    have hnone : wordPattern before (c :: t) = none := by
      rw [wordPattern, word?_eq_none hstart]
    have hnext : isInWord (some c) = isInWord none := hin
    rw [List.nil_append, scanFrom_plain hnone, scanFrom_wordPattern_congr hnext]
    rfl
  | case2 before skip d s ih => exact ih (Nat.le_of_succ_le_succ hskip)
  | case3 before d s word width hfound ih =>
    obtain ⟨rfl, hword, hbefore, rest, hsplit, hrest⟩ := exists_of_wordPattern hfound
    have hafter : isInWord (rest ++ c :: t).head? = false := by
      cases rest with
      | nil => exact hin
      | cons e rest => exact hrest
    have hmatch : wordPattern before (d :: (s ++ c :: t)) = some (word, word.length) := by
      rw [← List.cons_append, hsplit, List.append_assoc]
      exact wordPattern_append hword hbefore hafter
    have hlength : word.length - 1 ≤ s.length := by
      have htotal := congrArg List.length hsplit
      rw [List.length_cons, List.length_append] at htotal
      omega
    rw [List.cons_append, scanFrom, hmatch, List.cons_append]
    exact congrArg (_ :: ·) (ih hlength)
  | case4 before d s hnone ih =>
    have hnone' := wordPattern_append_eq_none hnone (c :: t)
    rw [List.cons_append] at hnone' ⊢
    rw [scanFrom_plain hnone', ih (Nat.zero_le _), List.cons_append]

lemma substitute_wordPattern_append (hc : isWordChar c = false) (image : List Char → List Char)
    (s t : List Char) :
    substitute wordPattern image (s ++ c :: t) =
      substitute wordPattern image s ++ c :: substitute wordPattern image t := by
  rw [substitute, scan, scanFrom_wordPattern_append hc (Nat.zero_le _), List.flatMap_append]
  rfl

end Worksheet.Table
