import Mathlib
import Worksheet.Proofs.Double.Rounding

/-!
# What a double is exactly

A double that is a number is a rational or one of the infinities.  Its sign, significand and
exponent are the fields of its bits; a significand has all its places unless the exponent is the
least one, so a rational other than zero has one such form and no other.  Two doubles are equal, and
a double is equal to an integer, exactly if they are the same in this sense.
-/

namespace Worksheet.Double

open Float.Model (Format UnpackedFloat)
open Float.Model.UnpackedFloat

/-! ### The fields of a double -/

/-- The exponent field. -/
abbrev exponentField (x : Float) : BitVec 11 :=
  @unpackExponent Format.binary64 x.toBits.toBitVec

/-- The places of the significand that are written out. -/
abbrev fractionField (x : Float) : BitVec 52 :=
  @unpackMantissa Format.binary64 x.toBits.toBitVec

/-- The sign bit as a field. -/
abbrev signField (x : Float) : BitVec 1 :=
  @unpackSign Format.binary64 x.toBits.toBitVec

lemma toNat_exponentField (x : Float) :
    (exponentField x).toNat = x.toBits.toNat / 2 ^ 52 % 2 ^ 11 := by
  rw [exponentField, unpackExponent_def, BitVec.extractLsb'_toNat, Nat.shiftRight_eq_div_pow]
  rfl

lemma toNat_fractionField (x : Float) : (fractionField x).toNat = x.toBits.toNat % 2 ^ 52 := by
  rw [fractionField, unpackMantissa_def, BitVec.extractLsb'_toNat, Nat.shiftRight_zero]
  rfl

lemma toNat_signField (x : Float) : (signField x).toNat = x.toBits.toNat / 2 ^ 63 := by
  have hlt := x.toBits.toNat_lt
  rw [signField, unpackSign_def, BitVec.extractLsb'_toNat, Nat.shiftRight_eq_div_pow]
  exact Nat.mod_eq_of_lt (Nat.div_lt_of_lt_mul hlt)

/-- The sign as the sign bit tells it. -/
def signOf (negative : Bool) : Sign := if negative then .negative else .positive

lemma signOf_inj {a b : Bool} : signOf a = signOf b ↔ a = b := by
  cases a <;> cases b <;> simp [signOf]

lemma ofBitVec_signField (x : Float) : Sign.ofBitVec (signField x) = signOf (signBit x) := by
  have hfield := toNat_signField x
  have hlt := x.toBits.toNat_lt
  have hbit : signBit x = decide (2 ^ 63 ≤ x.toBits.toNat) := rfl
  rw [Sign.ofBitVec, signOf, hbit]
  by_cases hneg : 2 ^ 63 ≤ x.toBits.toNat
  · have hone : signField x ≠ 0#1 := by
      intro hzero
      have hnat : (0#1).toNat = 0 := rfl
      rw [hzero, hnat] at hfield
      omega
    rw [if_neg hone, if_pos (decide_eq_true hneg)]
  · have hzero : signField x = 0#1 := by
      refine BitVec.eq_of_toNat_eq ?_
      rw [hfield, Nat.div_eq_of_lt (not_le.1 hneg)]
      rfl
    rw [if_pos hzero, decide_eq_false hneg, if_neg Bool.false_ne_true]

/-- The significand has all its places unless the exponent is the least one. -/
structure Parts.Normal (p : Parts) : Prop where
  lt : p.mantissa < 2 ^ 53
  least : -1074 ≤ p.exponent
  full : p.exponent ≠ -1074 → 2 ^ 52 ≤ p.mantissa

/-- What the bits of a double with this sign say, as finite parts and as its kind. -/
inductive Decoded (negative : Bool) : Option Parts → UnpackedFloat → Prop
  | notANumber : Decoded negative none .notANumber
  | infinity : Decoded negative none (.infinity (signOf negative))
  | zero : Decoded negative (some ⟨negative, 0, -1074⟩) (.zero (signOf negative))
  | finite {m : Nat} {e : Int} (hm : 0 < m) (hnormal : Parts.Normal ⟨negative, m, e⟩) :
      Decoded negative (some ⟨negative, m, e⟩) (.finite (signOf negative) m e hm)

lemma decoded (x : Float) : Decoded (signBit x) (parts? x) x.toModel.unpack := by
  have hexponent := toNat_exponentField x
  have hfraction := toNat_fractionField x
  have hlt := (fractionField x).isLt
  have hbias : ((Format.binary64.exponentBias : Int) + (52 : Nat)) = 1075 := by decide
  have hpow : Nat.pow 2 52 = 2 ^ 52 := rfl
  have hpow' : Nat.pow 2 11 = 2 ^ 11 := rfl
  have hunpack : x.toModel.unpack = UnpackedFloat.unpack Format.binary64 x.toBits.toBitVec := rfl
  rw [hunpack, UnpackedFloat.unpack, parts?]
  simp only [ofBitVec_signField x, hpow, hpow', hbias]
  rw [← hexponent, ← hfraction]
  -- the exponent field is that of infinities, that of small numbers or one in between
  by_cases hlast : exponentField x = -1#11
  · rw [if_pos hlast, hlast]
    by_cases hzero : fractionField x = 0#52
    · rw [if_pos hzero]
      exact .infinity
    · rw [if_neg hzero]
      exact .notANumber
  · have hne : (exponentField x).toNat ≠ 2047 := fun h => hlast (BitVec.eq_of_toNat_eq h)
    rw [if_neg hlast, if_neg (by simpa using hne)]
    by_cases hfirst : exponentField x = 0#11
    · rw [if_pos hfirst, hfirst]
      by_cases hzero : fractionField x = 0#52
      · rw [dif_pos hzero, hzero]
        exact .zero
      · rw [dif_neg hzero]
        have hexponent : ((exponentField x).toNat : Int) - 1075 + 1 = -1074 := by
          rw [hfirst]
          rfl
        simp only [hexponent]
        exact .finite _ ⟨hlt.trans (by decide), le_rfl, fun h => absurd rfl h⟩
    · have hpos : (exponentField x).toNat ≠ 0 := fun h => hfirst (BitVec.eq_of_toNat_eq h)
      have happend : (1#1 ++ fractionField x).toNat = 2 ^ 52 + (fractionField x).toNat := by
        rw [BitVec.toNat_append, ← Nat.shiftLeft_add_eq_or_of_lt hlt]
        rfl
      rw [if_neg hfirst, if_neg (by simpa using hpos)]
      simp only [happend]
      refine .finite _ ⟨?_, ?_, fun _ => Nat.le_add_right _ _⟩
      · change 2 ^ 52 + (fractionField x).toNat < 2 ^ 53
        omega
      · change -1074 ≤ ((exponentField x).toNat : Int) - 1075
        omega

/-! ### Exact values -/

/-- The value of finite parts. -/
def Parts.value (p : Parts) : ℚ :=
  (if p.negative then -1 else 1) * (p.mantissa * 2 ^ p.exponent)

/-- What a double is, apart from what is not a number. -/
inductive Exact where
  | finite (q : ℚ)
  | infinite (negative : Bool)
  deriving DecidableEq

/-- The exact value of a double. -/
def value? (x : Float) : Option Exact :=
  if x.isNaN then none
  else match parts? x with
    | some p => some (.finite p.value)
    | none => some (.infinite (signBit x))

lemma isSome_value? {x : Float} (h : x.isNaN = false) : (value? x).isSome := by
  rw [value?, if_neg (ne_true_of_eq_false h)]
  split <;> rfl

/-- Of two equal magnitudes in normal form neither has the greater exponent: the other significand
would have too many places. -/
lemma Parts.Normal.not_lt_of_mul_eq {p p' : Parts} (h : p.Normal) (h' : p'.Normal)
    (heq : (p.mantissa : ℚ) * 2 ^ p.exponent = p'.mantissa * 2 ^ p'.exponent) :
    ¬ p.exponent < p'.exponent := by
  intro hlt
  obtain ⟨k, hk⟩ : ∃ k : Nat, p'.exponent = p.exponent + (k + 1 : Nat) :=
    ⟨(p'.exponent - p.exponent - 1).toNat, by omega⟩
  have hpos : (0 : ℚ) < 2 ^ p.exponent := zpow_pos two_pos _
  have hscaled : (p.mantissa : ℚ) = p'.mantissa * 2 ^ (k + 1) := by
    rw [hk, zpow_add₀ two_ne_zero, zpow_natCast, mul_comm (2 ^ p.exponent : ℚ),
      ← mul_assoc] at heq
    exact mul_right_cancel₀ hpos.ne' heq
  have hnat : p.mantissa = p'.mantissa * 2 ^ (k + 1) := by exact_mod_cast hscaled
  have hfull : 2 ^ 52 ≤ p'.mantissa := h'.full (by have := h.least; omega)
  have hmul : 2 ^ 52 * 2 ^ 1 ≤ p'.mantissa * 2 ^ (k + 1) :=
    Nat.mul_le_mul hfull (Nat.pow_le_pow_right two_pos (by omega))
  have := h.lt
  omega

/-- Magnitudes in normal form are equal only if they are the same. -/
lemma Parts.Normal.eq_of_mul_eq {p p' : Parts} (h : p.Normal) (h' : p'.Normal)
    (heq : (p.mantissa : ℚ) * 2 ^ p.exponent = p'.mantissa * 2 ^ p'.exponent) :
    p.mantissa = p'.mantissa ∧ p.exponent = p'.exponent := by
  have hexponent : p.exponent = p'.exponent :=
    le_antisymm (not_lt.1 (h'.not_lt_of_mul_eq h heq.symm)) (not_lt.1 (h.not_lt_of_mul_eq h' heq))
  rw [hexponent] at heq
  have hpos : (0 : ℚ) < 2 ^ p'.exponent := zpow_pos two_pos _
  exact ⟨by exact_mod_cast mul_right_cancel₀ hpos.ne' heq, hexponent⟩

lemma Parts.value_eq_zero_iff {p : Parts} : p.value = 0 ↔ p.mantissa = 0 := by
  have hpos : (0 : ℚ) < 2 ^ p.exponent := zpow_pos two_pos _
  have hsign : (if p.negative then -1 else 1 : ℚ) ≠ 0 := by split <;> norm_num
  rw [value, mul_eq_zero, or_iff_right hsign, mul_eq_zero, or_iff_left hpos.ne', Nat.cast_eq_zero]

lemma signed_eq_iff {a b : ℚ} (ha : 0 < a) (hb : 0 < b) {negative negative' : Bool} :
    (if negative then -1 else 1) * a = (if negative' then -1 else 1) * b ↔
      negative = negative' ∧ a = b := by
  have hopposite : a ≠ -b := by linarith
  have hopposite' : -a ≠ b := by linarith
  cases negative <;> cases negative' <;> simp [hopposite, hopposite']

/-- Values other than zero are equal only if sign, significand and exponent are the same. -/
lemma Parts.Normal.value_eq_iff {p p' : Parts} (h : p.Normal) (h' : p'.Normal)
    (hpos : 0 < p.mantissa) (hpos' : 0 < p'.mantissa) : p.value = p'.value ↔ p = p' := by
  refine ⟨fun heq => ?_, congrArg _⟩
  obtain ⟨hsign, hmagnitude⟩ := (signed_eq_iff
    (mul_pos (Nat.cast_pos.2 hpos) (zpow_pos two_pos _))
    (mul_pos (Nat.cast_pos.2 hpos') (zpow_pos two_pos _))).1 heq
  obtain ⟨hmantissa, hexponent⟩ := h.eq_of_mul_eq h' hmagnitude
  rw [Parts.mk.injEq]
  exact ⟨hsign, hmantissa, hexponent⟩

/-! ### Equality -/

lemma Parts.value_of_zero (negative : Bool) (e : Int) : Parts.value ⟨negative, 0, e⟩ = 0 :=
  Parts.value_eq_zero_iff.2 rfl

/-- Two doubles are equal when they have the same exact value. -/
lemma beq_iff {x y : Float} :
    (x == y) = true ↔ ∃ v, value? x = some v ∧ value? y = some v := by
  have hx := decoded x
  have hy := decoded y
  have hbeq : (x == y) = x.toModel.unpack.beq y.toModel.unpack := rfl
  have hnan : ∀ z : Float, z.isNaN = z.toModel.unpack.isNaN := fun _ => rfl
  rw [hbeq, value?, value?, hnan, hnan, beq_iff_ne_notANumber_and_eq]
  generalize parts? x = p, parts? y = q, x.toModel.unpack = u, y.toModel.unpack = v at *
  generalize signBit x = a, signBit y = b at *
  cases hx with
  | notANumber => simp
  | infinity =>
    cases hy with
    | infinity => simpa [signOf_inj] using eq_comm
    | _ => simp
  | zero =>
    cases hy with
    | zero => cases a <;> cases b <;> simp [signOf, Parts.value_of_zero]
    | finite hm _ => simp [Parts.value_of_zero, Parts.value_eq_zero_iff, hm.ne']
    | _ => simp
  | finite hm hnormal =>
    cases hy with
    | zero => simp [Parts.value_of_zero, Parts.value_eq_zero_iff, hm.ne', eq_comm (a := (0 : ℚ))]
    | finite hm' hnormal' =>
      have hvalue := hnormal.value_eq_iff hnormal' hm hm'
      rw [Parts.mk.injEq] at hvalue
      simpa [signOf_inj, ← hvalue] using eq_comm
    | _ => simp

lemma Parts.value_eq_int_iff {p : Parts} {n : Int} :
    p.value = n ↔ (if p.negative then -(p.ratio.1 : Int) else p.ratio.1) = n * p.ratio.2 := by
  obtain ⟨negative, m, e⟩ := p
  have hden : (0 : ℚ) < 2 ^ (-e).toNat := by positivity
  have hratio : Parts.ratio ⟨negative, m, e⟩ = (m * 2 ^ e.toNat, 2 ^ (-e).toNat) := rfl
  rw [value, hratio, zpow_eq_div two_ne_zero, ← mul_div_assoc, ← mul_div_assoc, div_eq_iff hden.ne']
  cases negative
  · simp only [Bool.false_eq_true, if_false, one_mul]
    exact_mod_cast Iff.rfl
  · simp only [if_true, neg_mul, one_mul]
    exact_mod_cast Iff.rfl

lemma compareInt?_eq_iff {x : Float} {n : Int} :
    compareInt? x n = some .eq ↔ value? x = some (.finite n) := by
  rw [compareInt?, value?]
  cases x.isNaN with
  | true => simp
  | false =>
    cases parts? x with
    | none => cases signBit x <;> simp
    | some p => simp [← Parts.value_eq_int_iff]

end Worksheet.Double
