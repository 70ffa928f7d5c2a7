import Worksheet.Double.Reading
import Worksheet.Proofs.Double.Shortest
import Worksheet.Proofs.Text.Numeral

/-!
# The layouts of a decimal

Each way to lay out the digits of a decimal gives a numeral that is read as this decimal: with
zeros in front or behind to reach the point, with the point among the digits, or with an exponent.
-/

namespace Worksheet.Double

open Worksheet.Text

/-! ### Runs of digits -/

/-- The text goes on neither with a digit nor with an underscore. -/
def EndsRun (s : List Char) : Prop := ∀ c ∈ s.head?, digitValue? c = none ∧ c ≠ '_'

lemma endsRun_nil : EndsRun [] := by simp [EndsRun]

lemma endsRun_cons {c : Char} (s : List Char) (h : digitValue? c = none ∧ c ≠ '_') :
    EndsRun (c :: s) := by
  simpa [EndsRun] using h

/-- The values of digits. -/
def digitValues (ds : List Char) : List Nat := ds.map fun c => c.toNat - 48

lemma digitRun_append {ds rest : List Char} (hds : ∀ c ∈ ds, c.isDigit = true)
    (hrest : EndsRun rest) : digitRun (ds ++ rest) = (digitValues ds, rest) := by
  induction ds with
  | nil =>
    cases rest with
    | nil => rfl
    | cons c rest =>
      rw [List.nil_append, digitRun, (hrest c rfl).1]
      rfl
  | cons c ds ih =>
    have hds' : ∀ c ∈ ds, c.isDigit = true := fun d hd => hds d (List.mem_cons_of_mem c hd)
    have hnext : ∀ s, ds ++ rest ≠ '_' :: s := by
      intro s heq
      cases ds with
      | nil =>
        rw [List.nil_append] at heq
        exact (hrest '_' (by rw [heq]; rfl)).2 rfl
      | cons d ds =>
        obtain rfl := (List.cons.inj heq).1
        exact absurd (hds' _ List.mem_cons_self) (by decide)
    rw [List.cons_append, digitRun, digitValue?_of_isDigit (hds c List.mem_cons_self)]
    simp only
    split
    · rename_i heq
      exact absurd heq (hnext _)
    · rw [ih hds']
      rfl

lemma digitRun_of_digits {ds : List Char} (hds : ∀ c ∈ ds, c.isDigit = true) :
    digitRun ds = (digitValues ds, []) := by
  have happend := digitRun_append hds endsRun_nil
  rwa [List.append_nil] at happend

lemma ofDigits_digitValues (ds : List Char) :
    ofDigits (digitValues ds) = Nat.ofDigitChars 10 ds 0 := by
  rw [ofDigits, digitValues, List.foldl_map, Nat.ofDigitChars_eq_foldl]
  rfl

/-! ### Exponents and decimals -/

lemma isDigit_of_mem_toDigits {n : Nat} : ∀ c ∈ Nat.toDigits 10 n, c.isDigit = true :=
  fun _ hc => Nat.isDigit_of_mem_toDigits (by omega) (by omega) hc

/-- The digits of an exponent, two at least. -/
lemma exists_exponentText (e : Int) : ∃ ds : List Char,
    exponentText e = (if e < 0 then '-' else '+') :: ds ∧ ds ≠ [] ∧
      (∀ c ∈ ds, c.isDigit = true) ∧ Nat.ofDigitChars 10 ds 0 = e.natAbs := by
  have hvalue : Nat.ofDigitChars 10 (Nat.toDigits 10 e.natAbs) 0 = e.natAbs :=
    Nat.ofDigitChars_ten_toDigits
  refine ⟨_, rfl, ?_, ?_, ?_⟩
  · split
    · exact List.cons_ne_nil _ _
    · exact Nat.toDigits_ne_nil
  · split
    · exact List.forall_mem_cons.2 ⟨by decide, isDigit_of_mem_toDigits⟩
    · exact isDigit_of_mem_toDigits
  · split
    · rw [Nat.ofDigitChars_cons]
      exact hvalue
    · exact hvalue

lemma exponentPart_exponentText (e : Int) : exponentPart ('e' :: exponentText e) = (e, []) := by
  obtain ⟨ds, htext, hne, hdigits, hvalue⟩ := exists_exponentText e
  obtain ⟨d, ds', hcons⟩ := List.exists_cons_of_ne_nil hne
  have hrun := digitRun_of_digits hdigits
  have hofDigits : ofDigits (digitValues ds) = e.natAbs := by
    rw [ofDigits_digitValues, hvalue]
  rw [htext, exponentPart, if_pos (by decide)]
  by_cases hneg : e < 0
  · rw [if_pos hneg]
    simp only [signed, hrun]
    rw [hcons] at hofDigits ⊢
    simp only [digitValues, List.map_cons, if_true] at hofDigits ⊢
    rw [hofDigits]
    congr 1
    omega
  · rw [if_neg hneg]
    simp only [signed, hrun]
    rw [hcons] at hofDigits ⊢
    simp only [digitValues, List.map_cons, Bool.false_eq_true, if_false] at hofDigits ⊢
    rw [hofDigits]
    congr 1
    omega

variable {whole fraction tail : List Char} {e : Int}

lemma decimal?_point (hwhole : ∀ c ∈ whole, c.isDigit = true)
    (hfraction : ∀ c ∈ fraction, c.isDigit = true) (hne : whole ≠ []) (htail : EndsRun tail)
    (he : exponentPart tail = (e, [])) (negative : Bool) :
    decimal? negative (whole ++ '.' :: (fraction ++ tail)) =
      some (ofDecimal negative (Nat.ofDigitChars 10 (whole ++ fraction) 0)
        (e - fraction.length)) := by
  have happend : digitValues whole ++ digitValues fraction = digitValues (whole ++ fraction) :=
    List.map_append.symm
  have hsome : (digitValues (whole ++ fraction)).isEmpty = false := by
    simp [digitValues, hne]
  have hlength : (digitValues fraction).length = fraction.length := List.length_map _
  rw [decimal?, digitRun_append hwhole (endsRun_cons _ (by decide))]
  simp only [digitRun_append hfraction htail, he, happend, hsome, hlength, ofDigits_digitValues]
  rfl

lemma decimal?_plain (hwhole : ∀ c ∈ whole, c.isDigit = true) (hne : whole ≠ [])
    (htail : EndsRun tail) (hpoint : ∀ rest, tail ≠ '.' :: rest)
    (he : exponentPart tail = (e, [])) (negative : Bool) :
    decimal? negative (whole ++ tail) =
      some (ofDecimal negative (Nat.ofDigitChars 10 whole 0) e) := by
  have hsome : (digitValues whole).isEmpty = false := by
    simp [digitValues, hne]
  rw [decimal?, digitRun_append hwhole htail]
  simp only [he, List.append_nil, hsome, ofDigits_digitValues]
  simp

/-! ### Numerals -/

/-- The text starts with a digit and is read as a decimal of this value. -/
structure IsNumeral (s : List Char) (v : ℚ) : Prop where
  starts : ∃ c cs, s = c :: cs ∧ c.isDigit = true
  reads : ∃ (digits : Nat) (e : Int), digits * (10 : ℚ) ^ e = v ∧
    ∀ negative, decimal? negative s = some (ofDecimal negative digits e)

/-- The value of digits of which the first one stands at the decimal exponent `e`. -/
def digitsAt (ds : List Char) (e : Int) : ℚ :=
  Nat.ofDigitChars 10 ds 0 * 10 ^ (e + 1 - ds.length)

lemma IsNumeral.of_point {v : ℚ} (hwhole : ∀ c ∈ whole, c.isDigit = true)
    (hfraction : ∀ c ∈ fraction, c.isDigit = true) (hne : whole ≠ []) (htail : EndsRun tail)
    (he : exponentPart tail = (e, []))
    (hv : (Nat.ofDigitChars 10 (whole ++ fraction) 0 : ℚ) * 10 ^ (e - fraction.length) = v) :
    IsNumeral (whole ++ '.' :: (fraction ++ tail)) v where
  starts := by
    obtain ⟨c, cs, rfl⟩ := List.exists_cons_of_ne_nil hne
    exact ⟨c, _, rfl, hwhole c List.mem_cons_self⟩
  reads := ⟨_, _, hv, decimal?_point hwhole hfraction hne htail he⟩

/-- Digits with a point in them and nothing behind them. -/
lemma IsNumeral.pointed {v : ℚ} (hwhole : ∀ c ∈ whole, c.isDigit = true)
    (hfraction : ∀ c ∈ fraction, c.isDigit = true) (hne : whole ≠ [])
    (hv : (Nat.ofDigitChars 10 (whole ++ fraction) 0 : ℚ) *
      10 ^ ((0 : Int) - fraction.length) = v) :
    IsNumeral (whole ++ '.' :: fraction) v := by
  have h := IsNumeral.of_point hwhole hfraction hne endsRun_nil rfl hv
  rwa [List.append_nil] at h

variable {ds : List Char}

/-- Digits with the point behind the first `w` of them, and a zero behind the point if no digit is
left. -/
lemma isNumeral_pointed {w : Nat} (hdigits : ∀ c ∈ ds, c.isDigit = true) (hpos : 0 < w)
    (hle : w ≤ ds.length) :
    IsNumeral (ds.take w ++ '.' :: (if (ds.drop w).isEmpty then ['0'] else ds.drop w))
      (Nat.ofDigitChars 10 ds 0 * 10 ^ ((w : Int) - ds.length)) := by
  have hwhole : ds.take w ≠ [] := by
    intro hnil
    have := congrArg List.length hnil
    rw [List.length_take, List.length_nil] at this
    omega
  have htake : ∀ c ∈ ds.take w, c.isDigit = true := fun c hc => hdigits c (List.mem_of_mem_take hc)
  have hdrop : ∀ c ∈ ds.drop w, c.isDigit = true := fun c hc => hdigits c (List.mem_of_mem_drop hc)
  split
  · rename_i hempty
    have hge : ds.length ≤ w := List.drop_eq_nil_iff.1 (List.isEmpty_iff.1 hempty)
    have hzero : (w : Int) - ds.length = 0 := by omega
    refine .pointed htake (List.forall_mem_singleton.2 (by decide)) hwhole ?_
    rw [List.take_of_length_le hge, hzero, Nat.ofDigitChars_append]
    norm_num [Nat.ofDigitChars_cons, Nat.ofDigitChars_nil]
    ring
  · refine .pointed htake hdrop hwhole ?_
    rw [List.take_append_drop, List.length_drop]
    congr 2
    omega

lemma isDigit_of_mem_zeros {n : Nat} : ∀ c ∈ List.replicate n '0', c.isDigit = true := by
  intro c hc
  rw [List.eq_of_mem_replicate hc]
  decide

lemma isNumeral_positional (hdigits : ∀ c ∈ ds, c.isDigit = true) :
    IsNumeral (positional ds e) (digitsAt ds e) := by
  rw [positional]
  split
  · -- zeros stand between the point and the first digit
    have hsame : ('0' :: '.' :: List.replicate (-e - 1).toNat '0' ++ ds : List Char) =
        ['0'] ++ '.' :: (List.replicate (-e - 1).toNat '0' ++ ds) := by simp
    rw [hsame]
    refine .pointed (List.forall_mem_singleton.2 (by decide))
      (List.forall_mem_append.2 ⟨isDigit_of_mem_zeros, hdigits⟩) (List.cons_ne_nil _ _) ?_
    have hvalue : Nat.ofDigitChars 10 (['0'] ++ (List.replicate (-e - 1).toNat '0' ++ ds)) 0 =
        Nat.ofDigitChars 10 ds 0 := by
      rw [Nat.ofDigitChars_append, Nat.ofDigitChars_append, Nat.ofDigitChars_replicate_zero]
      rfl
    rw [hvalue, digitsAt, List.length_append, List.length_replicate]
    congr 2
    push_cast
    omega
  · -- zeros stand between the last digit and the point
    have hcast : ((e.toNat + 1 : Nat) : Int) = e + 1 := by omega
    simp only
    generalize e.toNat + 1 = w at hcast ⊢
    have hlength : (ds ++ List.replicate (w - ds.length) '0').length =
        ds.length + (w - ds.length) := by
      rw [List.length_append, List.length_replicate]
    have hvalue : (Nat.ofDigitChars 10 (ds ++ List.replicate (w - ds.length) '0') 0 : ℚ) *
        10 ^ ((w : Int) - (ds ++ List.replicate (w - ds.length) '0').length) = digitsAt ds e := by
      have hexponent : e + 1 - ds.length =
          (w - ds.length : Nat) + ((w : Int) - (ds.length + (w - ds.length) : Nat)) := by
        rw [← hcast]
        push_cast
        ring
      rw [digitsAt, hexponent, zpow_add₀ (by norm_num), zpow_natCast, hlength,
        Nat.ofDigitChars_append, Nat.ofDigitChars_replicate_zero]
      push_cast
      ring
    rw [← hvalue]
    refine isNumeral_pointed (List.forall_mem_append.2 ⟨hdigits, isDigit_of_mem_zeros⟩) ?_ ?_
    · omega
    · rw [hlength]
      omega

lemma isNumeral_scientificLayout (hdigits : ∀ c ∈ ds, c.isDigit = true) (hne : ds ≠ []) :
    IsNumeral (scientificLayout ds e) (digitsAt ds e) := by
  have hend : EndsRun ('e' :: exponentText e) := endsRun_cons _ (by decide)
  obtain ⟨d, rest, rfl⟩ := List.exists_cons_of_ne_nil hne
  obtain ⟨hd, hrest⟩ := List.forall_mem_cons.1 hdigits
  rw [scientificLayout]
  cases rest with
  | nil =>
    refine ⟨⟨d, _, rfl, hd⟩, _, _, ?_, decimal?_plain (List.forall_mem_singleton.2 hd)
      (List.cons_ne_nil _ _) hend (by simp) (exponentPart_exponentText e)⟩
    rw [digitsAt, List.length_singleton]
    congr 2
    push_cast
    ring
  | cons c rest =>
    have hsame : d :: (if (c :: rest).isEmpty then [] else '.' :: (c :: rest)) ++
        'e' :: exponentText e = [d] ++ '.' :: (c :: rest ++ 'e' :: exponentText e) := by simp
    rw [hsame]
    refine .of_point (by simpa using hd) hrest (List.cons_ne_nil _ _) hend
      (exponentPart_exponentText e) ?_
    rw [digitsAt, List.singleton_append]
    congr 2
    push_cast [List.length_cons]
    ring

/-! ### The digits that are shown -/

lemma significant_spec {d : Decimal} (hd : d.digits ≠ 0) :
    (∀ c ∈ d.significant.1, c.isDigit = true) ∧ d.significant.1 ≠ [] ∧
      digitsAt d.significant.1 d.significant.2 = d.value := by
  have hvalue : Nat.ofDigitChars 10 (Nat.toDigits 10 d.digits) 0 = d.digits :=
    Nat.ofDigitChars_ten_toDigits
  have hmem := isDigit_of_mem_toDigits (n := d.digits)
  unfold Decimal.significant
  simp only
  generalize Nat.toDigits 10 d.digits = cs at hvalue hmem ⊢
  have hzeros : (cs.reverse.takeWhile (· == '0')).reverse =
      List.replicate (cs.reverse.takeWhile (· == '0')).length '0' := by
    refine List.eq_replicate_iff.2 ⟨List.length_reverse, fun c hc => ?_⟩
    exact eq_of_beq (List.all_eq_true.1 List.all_takeWhile c (List.mem_reverse.1 hc))
  have hsplit : cs = (cs.reverse.dropWhile (· == '0')).reverse ++
      List.replicate (cs.reverse.takeWhile (· == '0')).length '0' := by
    rw [← hzeros, ← List.reverse_append, List.takeWhile_append_dropWhile, List.reverse_reverse]
  generalize (cs.reverse.dropWhile (· == '0')).reverse = kept at hsplit ⊢
  generalize (cs.reverse.takeWhile (· == '0')).length = n at hsplit
  subst hsplit
  rw [Nat.ofDigitChars_append, Nat.ofDigitChars_replicate_zero] at hvalue
  refine ⟨fun c hc => hmem c (List.mem_append_left _ hc), ?_, ?_⟩
  · rintro rfl
    rw [Nat.ofDigitChars_nil, Nat.mul_zero] at hvalue
    exact hd hvalue.symm
  · have hexponent : ((kept ++ List.replicate n '0').length : Int) - 1 + d.exponent + 1 -
        kept.length = (n : Int) + d.exponent := by
      rw [List.length_append, List.length_replicate]
      push_cast
      ring
    rw [digitsAt, hexponent, Decimal.value, ← hvalue, zpow_add₀ (by norm_num), zpow_natCast]
    push_cast
    ring

/-- The digits of a finite double different from zero, without its sign. -/
def Parts.magnitude (p : Parts) : List Char :=
  if -4 ≤ p.shortest.significant.2 ∧ p.shortest.significant.2 < 16 then
    positional p.shortest.significant.1 p.shortest.significant.2
  else scientificLayout p.shortest.significant.1 p.shortest.significant.2

variable {p : Parts}

lemma Parts.Near.digits_ne_zero {d : Decimal} (hpos : 0 < p.mantissa) (h : p.Near d.value) :
    d.digits ≠ 0 := by
  intro hzero
  have hlower := (Parts.lower_pos hpos).trans_le h.1
  rw [Decimal.value, hzero, Nat.cast_zero, zero_mul] at hlower
  exact lt_irrefl _ hlower

/-- Either layout is a numeral for the shortest decimal. -/
lemma Parts.isNumeral_magnitude (hnormal : p.Normal) (hpos : 0 < p.mantissa) :
    IsNumeral p.magnitude p.shortest.value := by
  obtain ⟨hdigits, hne, hvalue⟩ :=
    significant_spec ((near_shortest hnormal hpos).digits_ne_zero hpos)
  rw [← hvalue, magnitude]
  split
  · exact isNumeral_positional hdigits
  · exact isNumeral_scientificLayout hdigits hne

end Worksheet.Double
