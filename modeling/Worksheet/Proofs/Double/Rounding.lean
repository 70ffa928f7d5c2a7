import Mathlib.Algebra.Order.Field.Power
import Mathlib.Algebra.Order.Floor.Semifield
import Mathlib.Data.Rat.Cast.Order
import Mathlib.Data.Rat.Floor
import Mathlib.Tactic.Lemma
import Mathlib.Tactic.Linarith
import Mathlib.Tactic.Positivity
import Mathlib.Tactic.Ring
import Worksheet.Double.Basic

/-!
# Rounding a quotient

A quotient of naturals is rounded in two steps: its binary exponent tells which power of two it is
scaled by, and the scaled quotient is rounded to a natural, a tie to the even one.
-/

namespace Worksheet.Double

/-! ### Powers as quotients of naturals -/

lemma zpow_eq_div {b : ℚ} (hb : b ≠ 0) (e : ℤ) : b ^ e = b ^ e.toNat / b ^ (-e).toNat := by
  have hsplit : e = (e.toNat : ℤ) - ((-e).toNat : ℤ) := by omega
  conv_lhs => rw [hsplit]
  rw [zpow_sub₀ hb, zpow_natCast, zpow_natCast]

/-- Scaling by a power whose sign is shared out between numerator and denominator. -/
lemma scaled_div {b : Nat} (hb : b ≠ 0) (num den : Nat) (e : ℤ) :
    ((num * Nat.pow b (-e).toNat : Nat) : ℚ) / (den * Nat.pow b e.toNat : Nat) =
      num / den / (b : ℚ) ^ e := by
  have hb' : (b : ℚ) ≠ 0 := Nat.cast_ne_zero.2 hb
  simp only [Nat.pow_eq, Nat.cast_mul, Nat.cast_pow]
  rw [zpow_eq_div hb' e, div_div_div_eq, mul_comm (den : ℚ) ((b : ℚ) ^ e.toNat)]

lemma scaled_pos {den : Nat} (hden : 0 < den) (e : ℤ) : 0 < den * Nat.pow 2 e.toNat :=
  Nat.mul_pos hden (Nat.two_pow_pos _)

/-! ### Rounding to a natural -/

lemma floor_bounds (num den : Nat) :
    ((num / den : Nat) : ℚ) ≤ num / den ∧ (num : ℚ) / den < (num / den : Nat) + 1 := by
  rw [← Nat.floor_div_eq_div (K := ℚ) num den]
  exact ⟨Nat.floor_le (by positivity), Nat.lt_floor_add_one _⟩

lemma div_le_roundHalfEven (num den : Nat) : num / den ≤ roundHalfEven num den := by
  unfold roundHalfEven
  simp only
  split_ifs <;> omega

lemma roundHalfEven_le (num den : Nat) : roundHalfEven num den ≤ num / den + 1 := by
  unfold roundHalfEven
  simp only
  split_ifs <;> omega

/-- A quotient is rounded below an even number when it is below it by more than a half. -/
lemma roundHalfEven_lt_iff {num den k : Nat} (hden : 0 < den) (hk : k % 2 = 0) :
    roundHalfEven num den < k ↔ 2 * num + den < 2 * k * den := by
  have hsplit : den * (num / den) + num % den = num := Nat.div_add_mod num den
  have hrest : num % den < den := Nat.mod_lt num hden
  rcases Nat.lt_trichotomy (num / den + 1) k with hlt | heq | hgt
  · have hle := roundHalfEven_le num den
    have hmul : den * (num / den + 2) ≤ den * k := Nat.mul_le_mul_left den (by omega)
    constructor
    · intro _
      nlinarith
    · intro _
      omega
  · -- only here does the remainder decide, and the quotient is odd
    subst heq
    have hmul : 2 * (num / den + 1) * den = 2 * (den * (num / den)) + 2 * den := by ring
    rw [hmul]
    unfold roundHalfEven
    simp only
    split_ifs with hlow hhigh heven
    · omega
    · omega
    · rw [beq_iff_eq] at heven
      omega
    · omega
  · have hle := div_le_roundHalfEven num den
    have hmul : den * k ≤ den * (num / den) := Nat.mul_le_mul_left den (by omega)
    have hcomm : 2 * k * den = 2 * (den * k) := by ring
    constructor
    · intro _
      omega
    · intro _
      omega

lemma roundHalfEven_lt_iff_div {num den k : Nat} (hden : 0 < den) (hk : k % 2 = 0) :
    roundHalfEven num den < k ↔ (num : ℚ) / den < k - 1 / 2 := by
  have hcast : 2 * num + den < 2 * k * den ↔ (2 * num + den : ℚ) < 2 * k * den := by
    exact_mod_cast Iff.rfl
  rw [roundHalfEven_lt_iff hden hk, hcast, div_lt_iff₀ (Nat.cast_pos.2 hden)]
  constructor <;> intro h <;> linarith

lemma roundHalfEven_le_of_div_lt {num den k : Nat} (h : (num : ℚ) / den < k) :
    roundHalfEven num den ≤ k := by
  have hfloor : ((num / den : Nat) : ℚ) < k := (floor_bounds num den).1.trans_lt h
  exact (roundHalfEven_le num den).trans (Nat.cast_lt.1 hfloor)

lemma le_roundHalfEven_of_le_div {num den k : Nat} (h : (k : ℚ) ≤ num / den) :
    k ≤ roundHalfEven num den := by
  have hfloor : (k : ℚ) < (num / den + 1 : Nat) := by
    push_cast
    exact h.trans_lt (floor_bounds num den).2
  exact (Nat.lt_succ_iff.1 (Nat.cast_lt.1 hfloor)).trans (div_le_roundHalfEven num den)

/-- A natural within a half of a quotient is what it is rounded to, if it is even or no other is as
near. -/
lemma roundHalfEven_eq {num den q : Nat} (hden : 0 < den) (hlow : 2 * (q * den) ≤ 2 * num + den)
    (hhigh : 2 * num ≤ 2 * (q * den) + den)
    (htie : q % 2 = 0 ∨ 2 * (q * den) < 2 * num + den ∧ 2 * num < 2 * (q * den) + den) :
    roundHalfEven num den = q := by
  have hsplit : den * (num / den) + num % den = num := Nat.div_add_mod num den
  have hrest : num % den < den := Nat.mod_lt num hden
  -- the floor of the quotient is `q` or one below it
  have hfloor : num / den = q ∨ num / den + 1 = q := by
    have hle : num / den ≤ q := by
      by_contra h
      have := Nat.mul_le_mul_left den (show q + 1 ≤ num / den by omega)
      rw [Nat.mul_add, Nat.mul_comm den q] at this
      omega
    have hge : q ≤ num / den + 1 := by
      by_contra h
      have := Nat.mul_le_mul_left den (show num / den + 2 ≤ q by omega)
      rw [Nat.mul_add, Nat.mul_comm den q] at this
      omega
    omega
  unfold roundHalfEven
  simp only
  rcases hfloor with heq | heq
  · rw [heq] at hsplit ⊢
    rw [Nat.mul_comm den q] at hsplit
    split_ifs with hlt hgt heven
    · rfl
    · omega
    · rfl
    · rw [beq_iff_eq] at heven
      omega
  · have hmul : q * den = den * (num / den) + den := by
      rw [← heq]
      ring
    split_ifs with hlt hgt heven
    · omega
    · exact heq
    · rw [beq_iff_eq] at heven
      omega
    · exact heq

lemma roundHalfEven_eq_of_div {num den q : Nat} (hden : 0 < den)
    (hlow : (q : ℚ) - 1 / 2 ≤ num / den) (hhigh : (num : ℚ) / den ≤ q + 1 / 2)
    (htie : q % 2 = 0 ∨ (q : ℚ) - 1 / 2 < num / den ∧ (num : ℚ) / den < q + 1 / 2) :
    roundHalfEven num den = q := by
  have hden' : (0 : ℚ) < den := Nat.cast_pos.2 hden
  rw [le_div_iff₀ hden'] at hlow
  rw [div_le_iff₀ hden'] at hhigh
  rw [lt_div_iff₀ hden', div_lt_iff₀ hden'] at htie
  refine roundHalfEven_eq hden ?_ ?_ (htie.imp_right fun h => ⟨?_, ?_⟩)
  · have : ((2 * (q * den) : Nat) : ℚ) ≤ (2 * num + den : Nat) := by
      push_cast
      linarith
    exact Nat.cast_le.1 this
  · have : ((2 * num : Nat) : ℚ) ≤ (2 * (q * den) + den : Nat) := by
      push_cast
      linarith
    exact Nat.cast_le.1 this
  · have : ((2 * (q * den) : Nat) : ℚ) < (2 * num + den : Nat) := by
      push_cast
      linarith
    exact Nat.cast_lt.1 this
  · have : ((2 * num : Nat) : ℚ) < (2 * (q * den) + den : Nat) := by
      push_cast
      linarith
    exact Nat.cast_lt.1 this

/-! ### The binary exponent -/

lemma log2_bounds {n : Nat} (hn : n ≠ 0) :
    (2 : ℚ) ^ (Nat.log2 n : ℤ) ≤ n ∧ (n : ℚ) < 2 ^ ((Nat.log2 n : ℤ) + 1) := by
  have hlow : 2 ^ Nat.log2 n ≤ n := Nat.log2_self_le hn
  have hhigh : n < 2 ^ (Nat.log2 n + 1) := (Nat.log2_lt hn).1 (Nat.lt_succ_self _)
  exact ⟨by exact_mod_cast hlow, by exact_mod_cast hhigh⟩

/-- A power of two is compared with a quotient in whole numbers. -/
lemma scaled_le_iff {num den : Nat} (hden : 0 < den) (k : ℤ) :
    den * Nat.pow 2 k.toNat ≤ num * Nat.pow 2 (-k).toNat ↔ (2 : ℚ) ^ k ≤ num / den := by
  have hcast : (den * 2 ^ k.toNat : ℚ) ≤ num * 2 ^ (-k).toNat ↔
      den * Nat.pow 2 k.toNat ≤ num * Nat.pow 2 (-k).toNat := by
    exact_mod_cast Iff.rfl
  rw [zpow_eq_div two_ne_zero k, div_le_div_iff₀ (by positivity) (Nat.cast_pos.2 hden), ← hcast,
    mul_comm]

lemma binaryExponent_spec {num den : Nat} (hnum : num ≠ 0) (hden : den ≠ 0) :
    (2 : ℚ) ^ binaryExponent num den ≤ num / den ∧
      (num : ℚ) / den < 2 ^ (binaryExponent num den + 1) := by
  have hden' : (0 : ℚ) < den := Nat.cast_pos.2 (Nat.pos_of_ne_zero hden)
  obtain ⟨hnumLow, hnumHigh⟩ := log2_bounds hnum
  obtain ⟨hdenLow, hdenHigh⟩ := log2_bounds hden
  have hlow : (2 : ℚ) ^ ((Nat.log2 num : ℤ) - Nat.log2 den - 1) ≤ num / den := by
    rw [le_div_iff₀ hden']
    calc (2 : ℚ) ^ ((Nat.log2 num : ℤ) - Nat.log2 den - 1) * den
        ≤ 2 ^ ((Nat.log2 num : ℤ) - Nat.log2 den - 1) * 2 ^ ((Nat.log2 den : ℤ) + 1) := by
          gcongr
      _ = 2 ^ (Nat.log2 num : ℤ) := by
          rw [← zpow_add₀ two_ne_zero]
          congr 1
          ring
      _ ≤ num := hnumLow
  have hhigh : (num : ℚ) / den < 2 ^ ((Nat.log2 num : ℤ) - Nat.log2 den + 1) := by
    rw [div_lt_iff₀ hden']
    calc (num : ℚ) < 2 ^ ((Nat.log2 num : ℤ) + 1) := hnumHigh
      _ = 2 ^ ((Nat.log2 num : ℤ) - Nat.log2 den + 1) * 2 ^ (Nat.log2 den : ℤ) := by
          rw [← zpow_add₀ two_ne_zero]
          congr 1
          ring
      _ ≤ 2 ^ ((Nat.log2 num : ℤ) - Nat.log2 den + 1) * den := by gcongr
  unfold binaryExponent
  simp only [scaled_le_iff (Nat.pos_of_ne_zero hden)]
  split_ifs with h
  · exact ⟨h, hhigh⟩
  · rw [sub_add_cancel]
    exact ⟨hlow, not_le.1 h⟩

/-! ### The bits of a rounded quotient -/

/-- The exponent that a quotient is rounded at: no less than that of the least double. -/
def placeExponent (num den : Nat) : ℤ := max (binaryExponent num den - 52) (-1074)

/-- The significand that a quotient is rounded to with an exponent. -/
def roundedPlaces (num den : Nat) (e : ℤ) : Nat :=
  roundHalfEven (num * Nat.pow 2 (-e).toNat) (den * Nat.pow 2 e.toNat)

/-- The bits that a quotient is rounded to with an exponent, before it is known that they are not
too many. -/
def roundedBits (num den : Nat) (e : ℤ) : Nat :=
  (e + 1074).toNat * 2 ^ 52 + roundedPlaces num den e

lemma ofRatio?_eq {num den : Nat} (hnum : num ≠ 0) (hden : 0 < den) (negative : Bool) :
    ofRatio? negative num den =
      if roundedBits num den (placeExponent num den) < 2047 * 2 ^ 52 then
        some (Float.ofBits (UInt64.ofNat
          ((if negative then 2 ^ 63 else 0) + roundedBits num den (placeExponent num den))))
      else none := by
  have hzero : (num == 0 || den == 0) = false := by
    rw [Bool.or_eq_false_iff, beq_eq_false_iff_ne, beq_eq_false_iff_ne]
    exact ⟨hnum, hden.ne'⟩
  have hlast : 2047 * 2 ^ 52 = 0x7FF0000000000000 := by norm_num
  rw [ofRatio?, hzero, if_neg Bool.false_ne_true, hlast]
  rfl

section Places

variable {num den k : Nat} {e : ℤ}

lemma roundedPlaces_lt_iff (hden : 0 < den) (hk : k % 2 = 0) :
    roundedPlaces num den e < k ↔ (num : ℚ) / den < (k - 1 / 2) * 2 ^ e := by
  rw [roundedPlaces, roundHalfEven_lt_iff_div (scaled_pos hden _) hk, scaled_div two_ne_zero,
    Nat.cast_ofNat, div_lt_iff₀ (zpow_pos two_pos _)]

lemma roundedPlaces_le (h : (num : ℚ) / den < k * 2 ^ e) : roundedPlaces num den e ≤ k := by
  refine roundHalfEven_le_of_div_lt ?_
  rw [scaled_div two_ne_zero, Nat.cast_ofNat, div_lt_iff₀ (zpow_pos two_pos _)]
  exact h

lemma le_roundedPlaces (h : (k : ℚ) * 2 ^ e ≤ num / den) : k ≤ roundedPlaces num den e := by
  refine le_roundHalfEven_of_le_div ?_
  rw [scaled_div two_ne_zero, Nat.cast_ofNat, le_div_iff₀ (zpow_pos two_pos _)]
  exact h

lemma roundedPlaces_eq (hden : 0 < den) (hlow : (k - 1 / 2) * (2 : ℚ) ^ e ≤ num / den)
    (hhigh : (num : ℚ) / den ≤ (k + 1 / 2) * 2 ^ e)
    (htie : k % 2 = 0 ∨
      (k - 1 / 2) * (2 : ℚ) ^ e < num / den ∧ (num : ℚ) / den < (k + 1 / 2) * 2 ^ e) :
    roundedPlaces num den e = k := by
  have hunit : (0 : ℚ) < 2 ^ e := zpow_pos two_pos _
  rw [← le_div_iff₀ hunit] at hlow
  rw [← div_le_iff₀ hunit] at hhigh
  rw [← lt_div_iff₀ hunit, ← div_lt_iff₀ hunit] at htie
  refine roundHalfEven_eq_of_div (scaled_pos hden _) ?_ ?_ ?_ <;>
    rwa [scaled_div two_ne_zero, Nat.cast_ofNat]

end Places

end Worksheet.Double
