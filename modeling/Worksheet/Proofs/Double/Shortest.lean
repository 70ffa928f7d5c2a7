import Worksheet.Proofs.Double.Nearest

/-!
# The shortest decimal reads back

Seventeen digits are enough for any double: decimals with so many digits stand closer together than
the half-way points around it, so one of the two neighbours on their grid lies between these.  The
search for the shortest decimal therefore finds one that is rounded to the double.
-/

namespace Worksheet.Double

variable {p : Parts}

/-! ### Digits of a natural -/

lemma lt_pow_length_toDigits (n : Nat) : n < 10 ^ (Nat.toDigits 10 n).length := by
  induction n using Nat.strong_induction_on with
  | h n ih =>
    rw [Nat.toDigits_eq_if (by omega)]
    split
    · simpa
    · have hn := ih (n / 10) (by omega)
      rw [List.length_append, List.length_singleton, pow_succ]
      omega

lemma pow_length_toDigits_le {n : Nat} (hn : n ≠ 0) :
    10 ^ ((Nat.toDigits 10 n).length - 1) ≤ n := by
  by_contra h
  rcases Nat.eq_zero_or_pos ((Nat.toDigits 10 n).length - 1) with hzero | hpos
  · rw [hzero] at h
    omega
  · have := Nat.toDigits_length 10 n _ hpos (not_le.1 h)
    omega

lemma length_toDigits_pos (n : Nat) : 0 < (Nat.toDigits 10 n).length :=
  List.length_pos_iff.2 Nat.toDigits_ne_nil

/-- A natural with its count of digits, as a decimal exponent. -/
lemma zpow_length_toDigits {n : Nat} (hn : n ≠ 0) :
    (10 : ℚ) ^ (((Nat.toDigits 10 n).length : ℤ) - 1) ≤ n ∧
      (n : ℚ) < 10 ^ ((Nat.toDigits 10 n).length : ℤ) := by
  have hlow := pow_length_toDigits_le hn
  have hhigh := lt_pow_length_toDigits n
  have hpred : ((Nat.toDigits 10 n).length : ℤ) - 1 = ((Nat.toDigits 10 n).length - 1 : Nat) := by
    have := length_toDigits_pos n
    omega
  rw [hpred, zpow_natCast, zpow_natCast]
  exact ⟨by exact_mod_cast hlow, by exact_mod_cast hhigh⟩

/-! ### Quotients and their floors -/

lemma floor_scaled_bounds (num den k : Nat) :
    ((num * Nat.pow 10 k / den : Nat) : ℚ) ≤ num / den * 10 ^ (k : ℤ) ∧
      (num : ℚ) / den * 10 ^ (k : ℤ) < (num * Nat.pow 10 k / den : Nat) + 1 := by
  have hscaled : ((num * Nat.pow 10 k : Nat) : ℚ) / den = num / den * 10 ^ (k : ℤ) := by
    rw [Nat.pow_eq, Nat.cast_mul, Nat.cast_pow, mul_div_right_comm, Nat.cast_ofNat, zpow_natCast]
  rw [← hscaled]
  exact floor_bounds _ _

/-- The digits of the floor of a scaled quotient tell its decimal exponent. -/
lemma exponent_of_scaled {num den k : Nat} (h : (10 : ℚ) ^ (-(k : ℤ)) ≤ num / den) :
    (10 : ℚ) ^ (((Nat.toDigits 10 (num * Nat.pow 10 k / den)).length : ℤ) - k - 1) ≤ num / den ∧
      (num : ℚ) / den < 10 ^ (((Nat.toDigits 10 (num * Nat.pow 10 k / den)).length : ℤ) - k) := by
  obtain ⟨hfloor, hceil⟩ := floor_scaled_bounds num den k
  generalize num * Nat.pow 10 k / den = n at *
  have hpow : (0 : ℚ) < 10 ^ (k : ℤ) := by positivity
  have hone : 1 ≤ (num : ℚ) / den * 10 ^ (k : ℤ) := by
    rwa [zpow_neg, inv_le_iff_one_le_mul₀ hpow] at h
  have hn : n ≠ 0 := by
    rintro rfl
    rw [Nat.cast_zero, zero_add] at hceil
    linarith
  obtain ⟨hlow, hhigh⟩ := zpow_length_toDigits hn
  constructor
  · rw [← mul_le_mul_iff_left₀ hpow, ← zpow_add₀ (by norm_num)]
    have hsum : ((Nat.toDigits 10 n).length : ℤ) - k - 1 + k =
        ((Nat.toDigits 10 n).length : ℤ) - 1 := by ring
    rw [hsum]
    exact hlow.trans hfloor
  · rw [← mul_lt_mul_iff_left₀ hpow, ← zpow_add₀ (by norm_num), sub_add_cancel]
    have hnext : (n : ℚ) + 1 ≤ 10 ^ ((Nat.toDigits 10 n).length : ℤ) := by
      rw [zpow_natCast]
      exact_mod_cast lt_pow_length_toDigits n
    exact hceil.trans_le hnext

/-- The decimal exponent of a quotient that is not too small. -/
lemma decimalExponent_spec {num den : Nat} (h : (10 : ℚ) ^ (-330 : ℤ) ≤ num / den) :
    (10 : ℚ) ^ (decimalExponent num den - 1) ≤ num / den ∧
      (num : ℚ) / den < 10 ^ decimalExponent num den := by
  have hplaces : (330 : ℤ) = (330 : ℕ) := rfl
  rw [hplaces] at h
  rw [decimalExponent, hplaces]
  -- the count of places is made a name, so that the power of ten stays as it is
  generalize 330 = k at *
  exact exponent_of_scaled h

lemma Parts.ratio_eq (p : Parts) :
    (p.ratio.1 : ℚ) / p.ratio.2 = p.mantissa * 2 ^ p.exponent := by
  rw [ratio, zpow_eq_div two_ne_zero p.exponent]
  simp only [Nat.pow_eq]
  push_cast
  ring

/-! ### Reading back -/

lemma compareScaled_eq_gt {a b : Nat} {e t : ℤ} :
    compareScaled a e b t = .gt ↔ (b : ℚ) * 10 ^ t < a * 2 ^ e := by
  rw [compareScaled, Nat.compare_eq_gt, zpow_eq_div two_ne_zero e,
    zpow_eq_div (by norm_num : (10 : ℚ) ≠ 0) t, ← mul_div_assoc, ← mul_div_assoc,
    div_lt_div_iff₀ (by positivity) (by positivity)]
  simp only [Nat.pow_eq]
  exact_mod_cast Iff.rfl

lemma compareScaled_eq_lt {a b : Nat} {e t : ℤ} :
    compareScaled a e b t = .lt ↔ (a : ℚ) * 2 ^ e < b * 10 ^ t := by
  rw [compareScaled, Nat.compare_eq_lt, zpow_eq_div two_ne_zero e,
    zpow_eq_div (by norm_num : (10 : ℚ) ≠ 0) t, ← mul_div_assoc, ← mul_div_assoc,
    div_lt_div_iff₀ (by positivity) (by positivity)]
  simp only [Nat.pow_eq]
  exact_mod_cast Iff.rfl

/-- A decimal reads back exactly if it is near to the parts. -/
lemma Parts.readsBack_iff {digits : Nat} {t : ℤ} :
    p.readsBack digits t = true ↔ p.Near (digits * 10 ^ t) := by
  have hlow := compareScaled_eq_gt (a := p.roundingBounds.1) (b := digits)
    (e := p.exponent - 2) (t := t)
  have hlow' := compareScaled_eq_lt (a := p.roundingBounds.1) (b := digits)
    (e := p.exponent - 2) (t := t)
  have hhigh := compareScaled_eq_lt (a := p.roundingBounds.2) (b := digits)
    (e := p.exponent - 2) (t := t)
  have hhigh' := compareScaled_eq_gt (a := p.roundingBounds.2) (b := digits)
    (e := p.exponent - 2) (t := t)
  rw [readsBack, Near, lower, upper]
  by_cases heven : p.mantissa % 2 = 0
  · simp only [heven, beq_self_eq_true, if_true, Bool.and_eq_true, bne_iff_ne, ne_eq, hlow, hhigh,
      not_lt, true_or, and_true]
  · simp only [beq_iff_eq, heven, if_false, Bool.and_eq_true, hlow', hhigh', false_or]
    exact ⟨fun h => ⟨h.1.le, h.2.le, h⟩, fun h => h.2.2⟩

lemma Parts.readsBack_of_onGrid? {t : ℤ} {digits : Nat} (h : p.onGrid? t = some digits) :
    p.readsBack digits t = true := by
  unfold onGrid? at h
  simp only at h
  split at h
  · simp at h
  · rename_i hlow _
    obtain rfl := Option.some.inj h
    exact hlow
  · rename_i _ hhigh
    obtain rfl := Option.some.inj h
    exact hhigh
  · rename_i hlow hhigh
    obtain rfl := Option.some.inj h
    have hle := div_le_roundHalfEven (p.ratio.1 * Nat.pow 10 (-t).toNat)
      (p.ratio.2 * Nat.pow 10 t.toNat)
    have hge := roundHalfEven_le (p.ratio.1 * Nat.pow 10 (-t).toNat)
      (p.ratio.2 * Nat.pow 10 t.toNat)
    rcases Nat.le_and_le_add_one_iff.1 ⟨hle, hge⟩ with heq | heq
    · rw [heq]
      exact hlow
    · rw [heq]
      exact hhigh

/-- On a grid of seventeen digits one of the two neighbours of a double is near to it. -/
lemma Parts.near_neighbour (hnormal : p.Normal) (hpos : 0 < p.mantissa) {t : ℤ} {n : Nat}
    (h : (10 : ℚ) ^ t * 10 ^ 16 ≤ p.mantissa * 2 ^ p.exponent)
    (hfloor : (n : ℚ) * 10 ^ t ≤ p.mantissa * 2 ^ p.exponent)
    (hceil : (p.mantissa : ℚ) * 2 ^ p.exponent < (n + 1) * 10 ^ t) :
    p.Near (n * 10 ^ t) ∨ p.Near ((n + 1) * 10 ^ t) := by
  have hgrid : (0 : ℚ) < 10 ^ t := zpow_pos (by norm_num) _
  have hplace : (0 : ℚ) < 2 ^ p.exponent := zpow_pos two_pos _
  have hupper := p.upper_eq
  by_cases hpower : p.AtPower
  · -- the grid is finer than half a place, so the upper neighbour is near
    right
    have hlower := Parts.lower_of_atPower hpower
    have hmantissa : (p.mantissa : ℚ) = 2 ^ 52 := by exact_mod_cast hpower.1
    rw [hmantissa] at h hfloor hceil hupper
    refine .of_lt ?_ ?_
    · rw [hlower]
      linarith
    · rw [hupper]
      norm_num at h hfloor ⊢
      linarith
  · have hlower := Parts.lower_of_not_atPower hpos hpower
    have hmantissa : (p.mantissa : ℚ) ≤ 2 ^ 53 := by exact_mod_cast hnormal.lt.le
    have hspacing : (10 : ℚ) ^ t < 2 ^ p.exponent := by
      have := mul_le_mul_of_nonneg_right hmantissa hplace.le
      norm_num at h this
      linarith
    by_cases hnear : p.lower < n * 10 ^ t
    · refine Or.inl (.of_lt hnear ?_)
      rw [hupper]
      linarith
    · rw [hlower] at hnear
      refine Or.inr (.of_lt ?_ ?_)
      · rw [hlower]
        linarith
      · rw [hupper]
        linarith

lemma Parts.isSome_onGrid? (hnormal : p.Normal) (hpos : 0 < p.mantissa) {t : ℤ}
    (h : (10 : ℚ) ^ t * 10 ^ 16 ≤ p.mantissa * 2 ^ p.exponent) : (p.onGrid? t).isSome := by
  have hgrid : (0 : ℚ) < 10 ^ t := zpow_pos (by norm_num) _
  obtain ⟨hfloor, hceil⟩ := floor_bounds (p.ratio.1 * Nat.pow 10 (-t).toNat)
    (p.ratio.2 * Nat.pow 10 t.toNat)
  rw [scaled_div (by norm_num), p.ratio_eq, Nat.cast_ofNat, le_div_iff₀ hgrid] at hfloor
  rw [scaled_div (by norm_num), p.ratio_eq, Nat.cast_ofNat, div_lt_iff₀ hgrid] at hceil
  unfold onGrid?
  simp only
  generalize p.ratio.1 * Nat.pow 10 (-t).toNat / (p.ratio.2 * Nat.pow 10 t.toNat) = n at *
  have hnear := near_neighbour hnormal hpos h hfloor hceil
  rw [← Nat.cast_succ, ← readsBack_iff, ← readsBack_iff] at hnear
  rcases hnear with hnear | hnear
  · rw [hnear]
    cases p.readsBack (n + 1) t <;> rfl
  · rw [hnear]
    cases p.readsBack n t <;> rfl

/-! ### The search -/

/-- The search ends with a decimal that reads back if there is one on a grid that it tries. -/
lemma Parts.readsBack_search {k : ℤ} {fuel n : Nat}
    (h : ∃ j < fuel, (p.onGrid? (k - (n + j : Nat))).isSome) :
    p.readsBack (p.search k fuel n).digits (p.search k fuel n).exponent = true := by
  induction fuel generalizing n with
  | zero =>
    obtain ⟨j, hj, -⟩ := h
    omega
  | succ fuel ih =>
    rw [search]
    cases hgrid : p.onGrid? (k - n) with
    | some digits => exact readsBack_of_onGrid? hgrid
    | none =>
      obtain ⟨j, hj, hsome⟩ := h
      cases j with
      | zero =>
        rw [Nat.add_zero, hgrid] at hsome
        exact absurd hsome Bool.false_ne_true
      | succ j =>
        refine ih ⟨j, by omega, ?_⟩
        have hnext : n + 1 + j = n + (j + 1) := by omega
        rw [hnext]
        exact hsome

/-- The value of a decimal. -/
def Decimal.value (d : Decimal) : ℚ := d.digits * 10 ^ d.exponent

lemma zpow_two_lt_zpow_ten {m n : Nat} (h : 2 ^ m < 10 ^ n) : (2 : ℚ) ^ (m : ℤ) < 10 ^ (n : ℤ) := by
  rw [zpow_natCast, zpow_natCast]
  exact_mod_cast h

/-- A decimal exponent below half of the least double. -/
lemma zpow_ten_le_half_least : (10 : ℚ) ^ (-330 : ℤ) ≤ 2 ^ (-1074 : ℤ) / 2 := by
  have hpower : (2 : ℚ) ^ (1075 : ℤ) < 10 ^ (330 : ℤ) :=
    zpow_two_lt_zpow_ten (m := 1075) (n := 330) (by decide +kernel)
  have hexponent : (-1074 : ℤ) - 1 = -1075 := by norm_num
  have hhalf : (2 : ℚ) ^ (-1074 : ℤ) / 2 = (2 ^ (1075 : ℤ))⁻¹ := by
    rw [div_eq_mul_inv, ← zpow_sub_one₀ two_ne_zero, hexponent, zpow_neg]
  rw [hhalf, zpow_neg]
  exact inv_anti₀ (by positivity) hpower.le

lemma Parts.Normal.zpow_ten_le (hnormal : p.Normal) (hpos : 0 < p.mantissa) :
    (10 : ℚ) ^ (-330 : ℤ) ≤ p.mantissa * 2 ^ p.exponent := by
  have hone : (1 : ℚ) ≤ p.mantissa := by exact_mod_cast hpos
  calc (10 : ℚ) ^ (-330 : ℤ) ≤ 2 ^ (-1074 : ℤ) / 2 := zpow_ten_le_half_least
    _ ≤ 2 ^ (-1074 : ℤ) := half_le_self (by positivity)
    _ ≤ 2 ^ p.exponent := zpow_le_zpow_right₀ one_le_two hnormal.least
    _ ≤ p.mantissa * 2 ^ p.exponent := le_mul_of_one_le_left (by positivity) hone

/-- **The shortest decimal of a double is rounded to the double.** -/
lemma Parts.near_shortest (hnormal : p.Normal) (hpos : 0 < p.mantissa) :
    p.Near p.shortest.value := by
  have hsize : (10 : ℚ) ^ (-330 : ℤ) ≤ p.ratio.1 / p.ratio.2 := by
    rw [p.ratio_eq]
    exact hnormal.zpow_ten_le hpos
  have hexponent := (decimalExponent_spec hsize).1
  rw [p.ratio_eq] at hexponent
  refine readsBack_iff.1 (readsBack_search ⟨16, by omega, isSome_onGrid? hnormal hpos ?_⟩)
  refine le_trans (le_of_eq ?_) hexponent
  rw [← zpow_natCast, ← zpow_add₀ (by norm_num)]
  congr 1
  push_cast
  ring

end Worksheet.Double
