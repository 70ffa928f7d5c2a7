import Worksheet.Number.Basic
import Worksheet.Proofs.Double.Rounding

/-!
# Which quotients have a double

Rounding to the nearest double carries a quotient out of range exactly when it is at least
`2 ^ 1024 - 2 ^ 970`, half a step above the greatest double: the tie itself goes to the even
neighbour, and that is the one out of range.  So it is with integers, and with the quotients of
integers that are divided exactly.
-/

namespace Worksheet.Double

/-- The least magnitude of an integer that has no double: `2 ^ 1024 - 2 ^ 970`, half a step above
the greatest double. -/
def integerBound : Nat := (2 ^ 54 - 1) * 2 ^ 970

lemma integerBound_pos : 0 < integerBound := by
  unfold integerBound
  positivity

lemma cast_integerBound : (integerBound : ℚ) = (2 ^ 54 - 1) * 2 ^ (970 : ℤ) := by
  rw [integerBound, Nat.cast_mul, Nat.cast_pow, zpow_ofNat, Nat.cast_ofNat]
  congr 1
  norm_num

lemma integerBound_mul_le_iff {num den : Nat} (hden : 0 < den) :
    integerBound * den ≤ num ↔ (2 ^ 54 - 1) * (2 : ℚ) ^ (970 : ℤ) ≤ num / den := by
  rw [← cast_integerBound, le_div_iff₀ (Nat.cast_pos.2 hden)]
  exact_mod_cast Iff.rfl

lemma ofRatio?_eq_none_iff_bits {num den : Nat} (hnum : num ≠ 0) (hden : 0 < den)
    (negative : Bool) : ofRatio? negative num den = none ↔
      2047 * 2 ^ 52 ≤ roundedBits num den (placeExponent num den) := by
  rw [ofRatio?_eq hnum hden, ite_eq_right_iff, ← not_lt]
  simp only [reduceCtorEq, imp_false]

/-- **Quotients out of range.** -/
lemma ofRatio?_eq_none_iff {num den : Nat} (hden : 0 < den) (negative : Bool) :
    ofRatio? negative num den = none ↔ integerBound * den ≤ num := by
  by_cases hnum : num = 0
  · subst hnum
    refine iff_of_false (by simp [ofRatio?]) fun h => ?_
    exact absurd (Nat.mul_pos integerBound_pos hden) (not_lt.2 h)
  obtain ⟨hlow, hhigh⟩ := binaryExponent_spec hnum hden.ne'
  rw [ofRatio?_eq_none_iff_bits hnum hden, integerBound_mul_le_iff hden, placeExponent]
  have hunit : (0 : ℚ) < 2 ^ (970 : ℤ) := zpow_pos two_pos _
  have htwo : (1 : ℚ) ≤ 2 := one_le_two
  generalize binaryExponent num den = b at hlow hhigh ⊢
  rcases lt_trichotomy b 1023 with hlt | rfl | hgt
  · -- the significand may be carried over, but then the exponent is still small
    obtain ⟨e, he⟩ : ∃ e, max (b - 52) (-1074) = e := ⟨_, rfl⟩
    have hround : roundedPlaces num den e ≤ 2 ^ 53 := by
      refine roundedPlaces_le (hhigh.trans_le ?_)
      refine (zpow_le_zpow_right₀ htwo (by omega : b + 1 ≤ 53 + e)).trans_eq ?_
      rw [zpow_add₀ two_ne_zero]
      norm_num
    have hsmall : (num : ℚ) / den < (2 ^ 54 - 1) * 2 ^ (970 : ℤ) := by
      refine hhigh.trans_le ((zpow_le_zpow_right₀ htwo (by omega : b + 1 ≤ 53 + 970)).trans ?_)
      rw [zpow_add₀ two_ne_zero]
      exact mul_le_mul_of_nonneg_right (by norm_num) hunit.le
    rw [he, roundedBits]
    exact iff_of_false (by omega) (not_le.2 hsmall)
  · -- the one exponent where the significand decides
    have he : max ((1023 : ℤ) - 52) (-1074) = 971 := rfl
    have hhalf : (2 : ℚ) ^ (971 : ℤ) = 2 * 2 ^ (970 : ℤ) := zpow_one_add₀ two_ne_zero 970
    have hround : 2 ^ 53 ≤ roundedPlaces num den 971 ↔
        (2 ^ 54 - 1) * (2 : ℚ) ^ (970 : ℤ) ≤ num / den := by
      rw [← not_lt, roundedPlaces_lt_iff hden rfl, not_lt, hhalf]
      generalize (2 : ℚ) ^ (970 : ℤ) = unit
      push_cast
      constructor <;> intro h <;> linarith
    rw [he, roundedBits, ← hround]
    omega
  · have he : max (b - 52) (-1074) = b - 52 := by omega
    have hround : 2 ^ 52 ≤ roundedPlaces num den (b - 52) := by
      refine le_roundedPlaces ((le_of_eq ?_).trans hlow)
      rw [zpow_sub₀ two_ne_zero]
      norm_num
      ring
    have hlarge : (2 ^ 54 - 1) * (2 : ℚ) ^ (970 : ℤ) ≤ num / den := by
      refine le_trans ?_ ((zpow_le_zpow_right₀ htwo (by omega : 54 + 970 ≤ b)).trans hlow)
      rw [zpow_add₀ two_ne_zero]
      exact mul_le_mul_of_nonneg_right (by norm_num) hunit.le
    rw [he, roundedBits]
    exact iff_of_true (by omega) hlarge

/-- **Integers out of range.** -/
lemma ofInt?_eq_none_iff (n : Int) : ofInt? n = none ↔ integerBound ≤ n.natAbs := by
  rw [ofInt?, ofRatio?_eq_none_iff Nat.one_pos, mul_one]

end Worksheet.Double
