import Worksheet.Proofs.Double.NaN

/-!
# The bits of a double

A finite double is known by its parts, and its bits below the sign are its exponent and its
significand in a row; of the other doubles there are two infinities and one that is not a number.
So doubles that are the same exactly are one double, but for the two zeros.
-/

namespace Worksheet.Double

open Float.Model (UnpackedFloat)

/-! ### The bits of a finite double -/

lemma signBit_of_parts? {x : Float} {p : Parts} (h : parts? x = some p) :
    p.negative = signBit x := by
  have hdecoded := decoded x
  rw [h] at hdecoded
  generalize x.toModel.unpack = u at hdecoded
  cases hdecoded <;> rfl

lemma normal_of_parts? {x : Float} {p : Parts} (h : parts? x = some p) : p.Normal := by
  have hdecoded := decoded x
  rw [h] at hdecoded
  generalize x.toModel.unpack = u at hdecoded
  cases hdecoded with
  | zero => exact ⟨by norm_num, le_rfl, fun h => absurd rfl h⟩
  | finite _ hnormal => exact hnormal

/-- The bits below the sign, of finite parts. -/
def Parts.bits (p : Parts) : Nat := (p.exponent + 1074).toNat * 2 ^ 52 + p.mantissa

/-- The places of a finite double are its bits below the sign, and none are left for infinities. -/
lemma toNat_toBits_of_parts? {x : Float} {p : Parts} (h : parts? x = some p) :
    x.toBits.toNat = (if p.negative then 2 ^ 63 else 0) + p.bits ∧ p.bits < 2047 * 2 ^ 52 := by
  have hlt := x.toBits.toNat_lt
  have hsign : p.negative = decide (2 ^ 63 ≤ x.toBits.toNat) := signBit_of_parts? h
  rw [hsign]
  simp only [decide_eq_true_eq]
  unfold parts? at h
  simp only [Nat.pow_eq, Int.ofNat_eq_natCast] at h
  split at h
  · simp at h
  · rename_i hlast
    rw [beq_iff_eq] at hlast
    split at h
    · rename_i hfirst
      rw [beq_iff_eq] at hfirst
      obtain rfl := Option.some.inj h
      unfold Parts.bits
      simp only
      split <;> omega
    · rename_i hfirst
      rw [beq_iff_eq] at hfirst
      obtain rfl := Option.some.inj h
      unfold Parts.bits
      simp only
      split <;> omega

lemma exponent_le_of_parts? {x : Float} {p : Parts} (h : parts? x = some p) :
    p.exponent ≤ 971 := by
  have hbits := (toNat_toBits_of_parts? h).2
  have hfull := (normal_of_parts? h).full
  unfold Parts.bits at hbits
  by_contra hlt
  have := hfull (by omega)
  omega

/-! ### What has no parts -/

lemma exponentField_of_parts? {x : Float} (h : parts? x = none) : exponentField x = -1#11 := by
  refine BitVec.eq_of_toNat_eq ?_
  rw [toNat_exponentField]
  unfold parts? at h
  simp only [Nat.pow_eq] at h
  split at h
  · rename_i hfield
    rw [eq_of_beq hfield]
    rfl
  · split at h <;> exact absurd h (Option.some_ne_none _)

lemma isNaN_iff_fractionField {x : Float} (h : exponentField x = -1#11) :
    x.isNaN = true ↔ fractionField x ≠ 0#52 := by
  have hunpack : x.toModel.unpack = UnpackedFloat.unpack .binary64 x.toBits.toBitVec := rfl
  rw [isNaN_iff, hunpack, UnpackedFloat.unpack, if_pos h]
  by_cases hzero : fractionField x = 0#52
  · rw [if_pos hzero]
    simp [hzero]
  · rw [if_neg hzero]
    simp [hzero]

/-- There is one double that is not a number. -/
lemma eq_nan_of_isNaN {x : Float} (h : x.isNaN = true) : x = nan := by
  have hexponent := exponentField_of_parts? (parts?_of_isNaN h)
  have hpacked := x.toModel.valid.eq_packedNaN hexponent ((isNaN_iff_fractionField hexponent).1 h)
  refine Float.toBits_inj.1 (UInt64.toBitVec_inj.1 ?_)
  have hnan : nan.toBits.toBitVec = UnpackedFloat.packedNaN .binary64 := by decide
  rw [hnan]
  exact hpacked

/-- A double without parts that is a number is an infinity. -/
lemma eq_infinity_of_parts? {x : Float} (h : parts? x = none) (hnan : x.isNaN = false) :
    x = if signBit x then -infinity else infinity := by
  have hexponent := exponentField_of_parts? h
  have hfraction : fractionField x = 0#52 := by
    by_contra hne
    rw [(isNaN_iff_fractionField hexponent).2 hne] at hnan
    exact absurd hnan (by decide)
  have hfield := toNat_exponentField x
  have hplaces := toNat_fractionField x
  have hlt := x.toBits.toNat_lt
  have hsign : signBit x = decide (2 ^ 63 ≤ x.toBits.toNat) := rfl
  have hlast : (-1#11).toNat = 2047 := rfl
  rw [hexponent, hlast] at hfield
  rw [hfraction, BitVec.toNat_ofNat, Nat.zero_mod] at hplaces
  refine Float.toBits_inj.1 (UInt64.toNat_inj.1 ?_)
  rw [hsign]
  by_cases hneg : 2 ^ 63 ≤ x.toBits.toNat
  · have hbits : (-infinity).toBits.toNat = 2 ^ 63 + 2047 * 2 ^ 52 := by decide
    rw [decide_eq_true hneg, if_pos rfl, hbits]
    omega
  · have hbits : infinity.toBits.toNat = 2047 * 2 ^ 52 := by decide
    rw [decide_eq_false hneg, if_neg Bool.false_ne_true, hbits]
    omega

/-! ### The same exactly -/

variable {x y : Float} {p : Parts}

lemma value?_of_isNaN (h : x.isNaN = true) : value? x = none := by
  rw [value?, if_pos h]

lemma value?_of_parts? (h : parts? x = some p) : value? x = some (.finite p.value) := by
  have hnan : x.isNaN = false := by
    rw [← Bool.not_eq_true]
    intro hnan
    rw [parts?_of_isNaN hnan] at h
    exact Option.some_ne_none p h.symm
  rw [value?, if_neg (ne_true_of_eq_false hnan), h]

lemma value?_of_infinite (h : parts? x = none) (hnan : x.isNaN = false) :
    value? x = some (.infinite (signBit x)) := by
  rw [value?, if_neg (ne_true_of_eq_false hnan), h]

lemma eq_of_parts? (hx : parts? x = some p) (hy : parts? y = some p) : x = y :=
  Float.toBits_inj.1 (UInt64.toNat_inj.1
    ((toNat_toBits_of_parts? hx).1.trans (toNat_toBits_of_parts? hy).1.symm))

/-- Doubles other than zero that are the same exactly are one double. -/
lemma value?_inj (h : value? x = value? y) (hne : value? x ≠ some (.finite 0)) : x = y := by
  cases hx : parts? x with
  | some p =>
    rw [value?_of_parts? hx] at h hne
    cases hy : parts? y with
    | some q =>
      rw [value?_of_parts? hy] at h
      have hvalue : p.value = q.value := Exact.finite.inj (Option.some.inj h)
      have hp : 0 < p.mantissa := Nat.pos_of_ne_zero fun hzero =>
        hne (by rw [Parts.value_eq_zero_iff.2 hzero])
      have hq : 0 < q.mantissa := Nat.pos_of_ne_zero fun hzero =>
        hne (by rw [hvalue, Parts.value_eq_zero_iff.2 hzero])
      obtain rfl := ((normal_of_parts? hx).value_eq_iff (normal_of_parts? hy) hp hq).1 hvalue
      exact eq_of_parts? hx hy
    | none =>
      cases hnan : y.isNaN with
      | true => simp [value?_of_isNaN hnan] at h
      | false => simp [value?_of_infinite hy hnan] at h
  | none =>
    cases hnan : x.isNaN with
    | true =>
      rw [value?_of_isNaN hnan] at h
      cases hnan' : y.isNaN with
      | true => rw [eq_nan_of_isNaN hnan, eq_nan_of_isNaN hnan']
      | false =>
        have := isSome_value? hnan'
        rw [← h] at this
        exact absurd this (by decide)
    | false =>
      rw [value?_of_infinite hx hnan] at h
      cases hy : parts? y with
      | some q => simp [value?_of_parts? hy] at h
      | none =>
        cases hnan' : y.isNaN with
        | true => simp [value?_of_isNaN hnan'] at h
        | false =>
          rw [value?_of_infinite hy hnan'] at h
          rw [eq_infinity_of_parts? hx hnan, eq_infinity_of_parts? hy hnan',
            Exact.infinite.inj (Option.some.inj h)]

lemma integer?_eq_some_iff {n : Int} : integer? x = some n ↔ value? x = some (.finite n) := by
  cases hx : parts? x with
  | none =>
    have hinteger : integer? x = none := by rw [integer?, hx, Option.bind_none]
    rw [hinteger]
    cases hnan : x.isNaN with
    | true => simp [value?_of_isNaN hnan]
    | false => simp [value?_of_infinite hx hnan]
  | some p =>
    have hden : 0 < p.ratio.2 := Nat.two_pow_pos _
    rw [value?_of_parts? hx, Option.some.injEq, Exact.finite.injEq, Parts.value_eq_int_iff,
      integer?, hx, Option.bind_some]
    simp only [beq_iff_eq]
    by_cases hdvd : p.ratio.1 % p.ratio.2 = 0
    · obtain ⟨k, hk⟩ := Nat.dvd_of_mod_eq_zero hdvd
      have hquotient : p.ratio.1 / p.ratio.2 = k := by
        rw [hk, Nat.mul_div_cancel_left k hden]
      have hden' : (p.ratio.2 : Int) ≠ 0 := by exact_mod_cast hden.ne'
      have hmul : (p.ratio.1 : Int) = k * p.ratio.2 := by
        rw [hk, mul_comm]
        push_cast
        rfl
      rw [if_pos hdvd, hquotient, Option.some.injEq, hmul]
      cases p.negative with
      | true =>
        rw [if_pos rfl, if_pos rfl, ← neg_mul, mul_left_inj' hden']
      | false =>
        rw [if_neg Bool.false_ne_true, if_neg Bool.false_ne_true, mul_left_inj' hden']
    · rw [if_neg hdvd]
      refine iff_of_false (Option.some_ne_none n).symm fun heq => hdvd ?_
      refine Nat.mod_eq_zero_of_dvd (Int.natCast_dvd_natCast.1 ?_)
      cases hneg : p.negative with
      | true =>
        rw [hneg, if_pos rfl] at heq
        exact Int.dvd_neg.1 ⟨n, by rw [heq, mul_comm]⟩
      | false =>
        rw [hneg, if_neg Bool.false_ne_true] at heq
        exact ⟨n, by rw [heq, mul_comm]⟩

end Worksheet.Double
