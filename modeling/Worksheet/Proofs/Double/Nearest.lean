import Worksheet.Double.Shortest
import Worksheet.Proofs.Double.Bits
import Worksheet.Proofs.Double.Rounding

/-!
# The quotients that round to a double

A quotient is rounded to a double exactly where it lies between the half-way points to the double's
neighbours, the points themselves included when the significand is even.  Below a power of two the
half-way point is nearer, since the neighbour there has its places one power lower; a quotient
between the two is first taken for one of that lower power, and the rounding carries it over.
-/

namespace Worksheet.Double

/-! ### Rounding to a double -/

/-- The half-way point to the double below. -/
def Parts.lower (p : Parts) : ℚ := p.roundingBounds.1 * 2 ^ (p.exponent - 2)

/-- The half-way point to the double above. -/
def Parts.upper (p : Parts) : ℚ := p.roundingBounds.2 * 2 ^ (p.exponent - 2)

/-- The quotient lies nearest to these parts, or half-way to a neighbour and the significand is
even. -/
def Parts.Near (p : Parts) (r : ℚ) : Prop :=
  p.lower ≤ r ∧ r ≤ p.upper ∧ (p.mantissa % 2 = 0 ∨ p.lower < r ∧ r < p.upper)

variable {p : Parts} {r : ℚ}

lemma Parts.Near.of_lt (hlow : p.lower < r) (hhigh : r < p.upper) : p.Near r :=
  ⟨hlow.le, hhigh.le, Or.inr ⟨hlow, hhigh⟩⟩

lemma Parts.place_eq (p : Parts) : (2 : ℚ) ^ p.exponent = 2 ^ (p.exponent - 2) * 4 := by
  rw [zpow_sub₀ two_ne_zero]
  norm_num

lemma Parts.upper_eq (p : Parts) : p.upper = (p.mantissa + 1 / 2) * 2 ^ p.exponent := by
  rw [upper, roundingBounds, p.place_eq]
  push_cast
  ring

/-- Below a power of two the half-way point is at a quarter. -/
def Parts.AtPower (p : Parts) : Prop := p.mantissa = 2 ^ 52 ∧ -1074 < p.exponent

lemma Parts.lower_of_atPower (h : p.AtPower) :
    p.lower = (2 ^ 52 - 1 / 4) * 2 ^ p.exponent := by
  have htest : (p.mantissa == Nat.pow 2 52 && decide (-1074 < p.exponent)) = true := by
    rw [Bool.and_eq_true, beq_iff_eq, decide_eq_true_eq]
    exact h
  rw [lower, roundingBounds, if_pos htest, p.place_eq, h.1]
  norm_num
  ring

lemma Parts.lower_of_not_atPower (hpos : 0 < p.mantissa) (h : ¬p.AtPower) :
    p.lower = (p.mantissa - 1 / 2) * 2 ^ p.exponent := by
  have htest : ¬(p.mantissa == Nat.pow 2 52 && decide (-1074 < p.exponent)) = true := by
    rw [Bool.and_eq_true, beq_iff_eq, decide_eq_true_eq]
    exact h
  have hcast : ((4 * p.mantissa - 2 : Nat) : ℚ) = 4 * p.mantissa - 2 := by
    rw [Nat.cast_sub (by omega)]
    push_cast
    rfl
  rw [lower, roundingBounds, if_neg htest, p.place_eq, hcast]
  ring

/-- The half-way point below is at most half a place away. -/
lemma Parts.le_lower (hpos : 0 < p.mantissa) :
    (p.mantissa - 1 / 2) * 2 ^ p.exponent ≤ p.lower := by
  have hunit : (0 : ℚ) < 2 ^ p.exponent := zpow_pos two_pos _
  by_cases h : p.AtPower
  · rw [Parts.lower_of_atPower h, h.1]
    push_cast
    nlinarith
  · exact (Parts.lower_of_not_atPower hpos h).ge

lemma Parts.lower_pos (hpos : 0 < p.mantissa) : 0 < p.lower := by
  have hunit : (0 : ℚ) < 2 ^ p.exponent := zpow_pos two_pos _
  have hone : (1 : ℚ) ≤ p.mantissa := by exact_mod_cast hpos
  exact (mul_pos (by linarith) hunit).trans_le (Parts.le_lower hpos)

/-- The exponent that a quotient near to the parts is given: theirs, or the one below it when the
quotient is below a power of two. -/
lemma Parts.Near.exponent_eq {num den : Nat} (hnormal : p.Normal) (hpos : 0 < p.mantissa)
    (hnum : num ≠ 0) (hden : den ≠ 0) (h : p.Near (num / den)) :
    placeExponent num den = p.exponent ∨
      p.AtPower ∧ (num : ℚ) / den < 2 ^ 52 * 2 ^ p.exponent ∧
        placeExponent num den = p.exponent - 1 := by
  obtain ⟨hlow, hhigh⟩ := binaryExponent_spec hnum hden
  rw [placeExponent]
  generalize binaryExponent num den = b at *
  generalize (num : ℚ) / den = r at *
  obtain ⟨hlower, hupper, -⟩ := h
  have hunit : (0 : ℚ) < 2 ^ p.exponent := zpow_pos two_pos _
  have hleast := hnormal.least
  -- the quotient is below the next power of two
  have hb : b < p.exponent + 53 := by
    have hmantissa : (p.mantissa : ℚ) + 1 ≤ 2 ^ 53 := by exact_mod_cast hnormal.lt
    refine (zpow_lt_zpow_iff_right₀ (one_lt_two (α := ℚ))).1 (hlow.trans_lt ?_)
    rw [zpow_add₀ two_ne_zero, mul_comm]
    refine hupper.trans_lt ?_
    rw [Parts.upper_eq]
    exact mul_lt_mul_of_pos_right (by norm_num at hmantissa ⊢; linarith) hunit
  by_cases hfirst : p.exponent = -1074
  · exact Or.inl (by omega)
  have hfull : (2 : ℚ) ^ 52 ≤ p.mantissa := by exact_mod_cast hnormal.full hfirst
  by_cases hbelow : r < 2 ^ 52 * 2 ^ p.exponent
  · right
    -- only the half-way point below a power of two is that far down
    have hpower : p.AtPower := by
      refine ⟨?_, by omega⟩
      by_contra hne
      have hlt : (2 : ℚ) ^ 52 + 1 ≤ p.mantissa := by
        have := hnormal.full hfirst
        exact_mod_cast (show 2 ^ 52 + 1 ≤ p.mantissa by omega)
      rw [Parts.lower_of_not_atPower hpos fun h => hne h.1] at hlower
      nlinarith
    refine ⟨hpower, hbelow, ?_⟩
    have hge : p.exponent + 51 < b + 1 := by
      refine (zpow_lt_zpow_iff_right₀ (one_lt_two (α := ℚ))).1 (lt_of_le_of_lt ?_ hhigh)
      refine le_trans ?_ hlower
      rw [Parts.lower_of_atPower hpower, zpow_add₀ two_ne_zero, mul_comm]
      exact mul_le_mul_of_nonneg_right (by norm_num) hunit.le
    have hlt : b < p.exponent + 52 := by
      refine (zpow_lt_zpow_iff_right₀ (one_lt_two (α := ℚ))).1 (hlow.trans_lt ?_)
      rw [zpow_add₀ two_ne_zero, mul_comm]
      exact_mod_cast hbelow
    omega
  · have hge : p.exponent + 52 < b + 1 := by
      refine (zpow_lt_zpow_iff_right₀ (one_lt_two (α := ℚ))).1 (lt_of_le_of_lt ?_ hhigh)
      rw [zpow_add₀ two_ne_zero, mul_comm]
      exact_mod_cast not_lt.1 hbelow
    exact Or.inl (by omega)

/-- Exponent and rounded significand of a quotient near to the parts make up their bits. -/
lemma Parts.Near.roundedBits_eq {num den : Nat} (hnormal : p.Normal) (hpos : 0 < p.mantissa)
    (hnum : num ≠ 0) (hden : 0 < den) (h : p.Near (num / den)) :
    roundedBits num den (placeExponent num den) = p.bits := by
  rcases h.exponent_eq hnormal hpos hnum hden.ne' with he | ⟨hpower, hbelow, he⟩
  · have hround : roundedPlaces num den p.exponent = p.mantissa := by
      obtain ⟨hlower, hupper, htie⟩ := h
      rw [Parts.upper_eq] at hupper htie
      have hhalf := Parts.le_lower hpos
      exact roundedPlaces_eq hden (hhalf.trans hlower) hupper
        (htie.imp_right fun hstrict => ⟨hhalf.trans_lt hstrict.1, hstrict.2⟩)
    rw [he, roundedBits, hround, Parts.bits]
  · -- the significand is carried over
    have hround : roundedPlaces num den (p.exponent - 1) = 2 ^ 53 := by
      have hlower := h.1
      have hhalf : (2 : ℚ) ^ p.exponent = 2 ^ (p.exponent - 1) * 2 := by
        rw [zpow_sub_one₀ two_ne_zero, inv_mul_cancel_right₀ two_ne_zero]
      have hunit : (0 : ℚ) < 2 ^ (p.exponent - 1) := zpow_pos two_pos _
      rw [Parts.lower_of_atPower hpower, hhalf] at hlower
      rw [hhalf] at hbelow
      refine roundedPlaces_eq hden ?_ ?_ (Or.inl (by norm_num)) <;> push_cast <;> linarith
    have hexponent := hpower.2
    rw [he, roundedBits, hround, Parts.bits, hpower.1]
    omega

/-- **Rounding.**  A quotient near to the parts of a finite double is rounded to that double. -/
lemma ofRatio?_of_near {x : Float} {num den : Nat} (hx : parts? x = some p)
    (hpos : 0 < p.mantissa) (hden : 0 < den) (h : p.Near (num / den)) :
    ofRatio? p.negative num den = some x := by
  obtain ⟨htoNat, hbits⟩ := toNat_toBits_of_parts? hx
  have hnum : num ≠ 0 := by
    rintro rfl
    have := (Parts.lower_pos hpos).trans_le h.1
    simp at this
  rw [ofRatio?_eq hnum hden, h.roundedBits_eq (normal_of_parts? hx) hpos hnum hden, if_pos hbits,
    ← htoNat, UInt64.ofNat_toNat, Float.ofBits_toBits]

end Worksheet.Double
