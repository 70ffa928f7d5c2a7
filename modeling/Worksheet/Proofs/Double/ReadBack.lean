import Worksheet.Proofs.Double.Numeral

/-!
# Reading the text of a double

The text that a double is shown with is read as the double: it is a numeral for the shortest
decimal, and the decimal is rounded to the double.  So no two doubles have one text.
-/

namespace Worksheet.Double

variable {p : Parts}

/-! ### Reading a double -/

/-- Bounds of the decimals near to a finite double. -/
lemma Parts.Near.bounds {r : ℚ} {x : Float} (hx : parts? x = some p) (hpos : 0 < p.mantissa)
    (h : p.Near r) : (10 : ℚ) ^ (-330 : ℤ) ≤ r ∧ r < 10 ^ (320 : ℤ) := by
  have hnormal := normal_of_parts? hx
  have hone : (1 : ℚ) ≤ p.mantissa := by exact_mod_cast hpos
  have hplace : (0 : ℚ) < 2 ^ p.exponent := zpow_pos two_pos _
  constructor
  · calc (10 : ℚ) ^ (-330 : ℤ) ≤ 2 ^ (-1074 : ℤ) / 2 := zpow_ten_le_half_least
      _ ≤ 2 ^ p.exponent / 2 := by
          gcongr
          · exact one_le_two
          · exact hnormal.least
      _ ≤ (p.mantissa - 1 / 2) * 2 ^ p.exponent := by nlinarith
      _ ≤ r := (le_lower hpos).trans h.1
  · have hmantissa : (p.mantissa : ℚ) + 1 ≤ 2 ^ (53 : ℤ) := by exact_mod_cast hnormal.lt
    have hexponent : (53 : ℤ) + 971 = 1024 := by norm_num
    calc r ≤ (p.mantissa + 1 / 2) * 2 ^ p.exponent := h.2.1.trans p.upper_eq.le
      _ ≤ 2 ^ (53 : ℤ) * 2 ^ (971 : ℤ) := by
          gcongr
          · linarith
          · exact one_le_two
          · exact exponent_le_of_parts? hx
      _ = 2 ^ (1024 : ℤ) := by
          rw [← zpow_add₀ two_ne_zero, hexponent]
      _ < 10 ^ (320 : ℤ) := zpow_two_lt_zpow_ten (m := 1024) (n := 320) (by decide +kernel)

/-- A decimal near to the parts of a finite double is read as that double. -/
lemma ofDecimal_of_near {x : Float} {digits : Nat} {e : Int} (hx : parts? x = some p)
    (hpos : 0 < p.mantissa) (h : p.Near (digits * 10 ^ e)) :
    ofDecimal p.negative digits e = x := by
  have hdigits : digits ≠ 0 := Parts.Near.digits_ne_zero (d := ⟨digits, e⟩) hpos h
  obtain ⟨hlow, hhigh⟩ := Parts.Near.bounds hx hpos h
  obtain ⟨hfirst, hlast⟩ := zpow_length_toDigits hdigits
  have hten : (0 : ℚ) < 10 ^ e := zpow_pos (by norm_num) _
  have hsize : ¬((Nat.toDigits 10 digits).length : Int) + e < -330 := by
    have hlt : (10 : ℚ) ^ (-330 : ℤ) < 10 ^ (((Nat.toDigits 10 digits).length : ℤ) + e) := by
      rw [zpow_add₀ (by norm_num)]
      exact hlow.trans_lt (mul_lt_mul_of_pos_right hlast hten)
    have := (zpow_lt_zpow_iff_right₀ (by norm_num : (1 : ℚ) < 10)).1 hlt
    omega
  have hsize' : ¬320 < ((Nat.toDigits 10 digits).length : Int) + e := by
    have hlt : (10 : ℚ) ^ (((Nat.toDigits 10 digits).length : ℤ) - 1 + e) < 10 ^ (320 : ℤ) := by
      rw [zpow_add₀ (by norm_num)]
      exact (mul_le_mul_of_nonneg_right hfirst hten.le).trans_lt hhigh
    have := (zpow_lt_zpow_iff_right₀ (by norm_num : (1 : ℚ) < 10)).1 hlt
    omega
  have hratio : ((digits * Nat.pow 10 e.toNat : Nat) : ℚ) / (Nat.pow 10 (-e).toNat : Nat) =
      digits * 10 ^ e := by
    rw [zpow_eq_div (by norm_num) e]
    simp only [Nat.pow_eq]
    push_cast
    ring
  have hround : ofRatio? p.negative (digits * Nat.pow 10 e.toNat) (Nat.pow 10 (-e).toNat) =
      some x := by
    refine ofRatio?_of_near hx hpos (Nat.pow_pos (by norm_num)) ?_
    rw [hratio]
    exact h
  have hzero : (digits == 0 || decide (((Nat.toDigits 10 digits).length : Int) + e < -330)) =
      false := by
    rw [Bool.or_eq_false_iff, beq_eq_false_iff_ne, decide_eq_false_iff_not]
    exact ⟨hdigits, hsize⟩
  rw [ofDecimal]
  simp only [hzero, Bool.false_eq_true, if_false, if_neg hsize', ofRatio, hround]

/-- A digit is no letter of a word. -/
lemma toLower_of_isDigit {c : Char} (h : c.isDigit = true) : c.toLower = c := by
  have hlast : c.toNat ≤ 57 := (Char.isDigit_iff_toNat.1 h).2
  refine dif_neg fun hupper => ?_
  have hfirst : 65 ≤ c.toNat := UInt32.le_iff_toNat_le.1 hupper.1
  omega

/-- A numeral is read as a decimal, with the sign in front of it. -/
lemma read?_of_isNumeral {s : List Char} {v : ℚ} (h : IsNumeral s v) (negative : Bool) :
    read? (if negative then '-' :: s else s) = decimal? negative s := by
  obtain ⟨c, cs, rfl, hc⟩ := h.starts
  have hsigned : signed (if negative then '-' :: c :: cs else c :: cs) = (negative, c :: cs) := by
    cases negative with
    | true => rfl
    | false =>
      have hminus : c ≠ '-' := by
        rintro rfl
        exact absurd hc (by decide)
      have hplus : c ≠ '+' := by
        rintro rfl
        exact absurd hc (by decide)
      simp [signed, hminus, hplus]
  have hword : ∀ (w : String) (d : Char) (ds : List Char), w.toList = d :: ds →
      d.isDigit = false → (String.ofList ((c :: cs).map Char.toLower) == w) = false := by
    intro w d ds hw hd
    rw [beq_eq_false_iff_ne]
    rintro rfl
    rw [String.toList_ofList, List.map_cons, toLower_of_isDigit hc] at hw
    obtain rfl := (List.cons.inj hw).1
    rw [hc] at hd
    exact absurd hd (by decide)
  rw [read?, hsigned]
  simp only [hword "inf" _ _ rfl (by decide), hword "infinity" _ _ rfl (by decide),
    hword "nan" _ _ rfl (by decide)]
  rfl

lemma isNumeral_zero : IsNumeral ['0', '.', '0'] 0 := by
  have hzero : ∀ c ∈ ['0'], c.isDigit = true := List.forall_mem_singleton.2 (by decide)
  have h := IsNumeral.pointed hzero hzero (List.cons_ne_nil _ _) (zero_mul _)
  exact h

lemma text_of_parts? {x : Float} {p : Parts} (hx : parts? x = some p) (hpos : 0 < p.mantissa) :
    text x = String.ofList (if p.negative then '-' :: p.magnitude else p.magnitude) := by
  have hne : (p.mantissa == 0) = false := beq_eq_false_iff_ne.2 hpos.ne'
  rw [text, hx, Parts.magnitude]
  simp only [hne, Bool.false_eq_true, if_false, Bool.and_eq_true, decide_eq_true_eq]

/-- **The text of a double is read as that double.** -/
theorem read?_text (x : Float) : read? (text x).toList = some x := by
  cases hx : parts? x with
  | none =>
    cases hnan : x.isNaN with
    | true =>
      rw [eq_nan_of_isNaN hnan]
      rfl
    | false =>
      have hinfinity := eq_infinity_of_parts? hx hnan
      rw [text, hx]
      simp only [hnan, Bool.false_eq_true, if_false]
      conv_rhs => rw [hinfinity]
      cases signBit x <;> rfl
  | some p =>
    rcases Nat.eq_zero_or_pos p.mantissa with hzero | hpos
    · have hexponent : p.exponent = -1074 := by
        by_contra hne
        have := (normal_of_parts? hx).full hne
        omega
      have hbits := (toNat_toBits_of_parts? hx).1
      rw [Parts.bits, hzero, hexponent] at hbits
      have hread : read? (text x).toList =
          some (Float.ofBits (UInt64.ofNat (if p.negative then Nat.pow 2 63 else 0))) := by
        rw [text, hx]
        simp only [hzero, beq_self_eq_true, if_true, String.toList_ofList]
        rw [read?_of_isNumeral isNumeral_zero]
        cases p.negative <;> rfl
      have hsame : (if p.negative then Nat.pow 2 63 else 0) = x.toBits.toNat := hbits.symm
      rw [hread, hsame, UInt64.ofNat_toNat, Float.ofBits_toBits]
    · obtain ⟨digits, e, hvalue, hread⟩ :=
        (Parts.isNumeral_magnitude (normal_of_parts? hx) hpos).reads
      have hnear := Parts.near_shortest (normal_of_parts? hx) hpos
      rw [← hvalue] at hnear
      rw [text_of_parts? hx hpos, String.toList_ofList,
        read?_of_isNumeral (Parts.isNumeral_magnitude (normal_of_parts? hx) hpos), hread,
        ofDecimal_of_near hx hpos hnear]

end Worksheet.Double
