import Worksheet.Double.Functions
import Worksheet.Proofs.Double.Exact
import Worksheet.Proofs.Outcome

/-!
# Where a function of doubles has no value

A remainder and a rounding go through integers, and infinite numbers and what is not a number have
none: so they break down where the quotient, the count of places or the scaled magnitude is no
finite number.  A rounding also does when the power of ten is out of range, on either side, and a
logarithm when its base is one.
-/

namespace Worksheet.Double

variable {x y : Float} {fault : ArithmeticFault}

/-! ### Integer parts -/

/-- The double has no integer part, on this ground. -/
inductive NoInteger : Float → ArithmeticFault → Prop
  | infinite {x : Float} (h : x.isInf = true) : NoInteger x .infinityToInteger
  | notANumber {x : Float} (h : x.isNaN = true) : NoInteger x .nanToInteger

lemma parts?_eq_none_iff : parts? x = none ↔ x.isNaN = true ∨ x.isInf = true := by
  have hdecoded := decoded x
  have hnan : x.isNaN = x.toModel.unpack.isNaN := rfl
  have hinf : x.isInf = x.toModel.unpack.isInf := rfl
  rw [hnan, hinf]
  generalize parts? x = parts, x.toModel.unpack = u at hdecoded ⊢
  cases hdecoded <;> simp [Float.Model.UnpackedFloat.isInf]

lemma not_isInf_of_isNaN (h : x.isNaN = true) : x.isInf = false := by
  have hnan : x.isNaN = x.toModel.unpack.isNaN := rfl
  have hinf : x.isInf = x.toModel.unpack.isInf := rfl
  rw [hnan] at h
  rw [hinf]
  generalize x.toModel.unpack = u at h ⊢
  cases u <;> simp_all [Float.Model.UnpackedFloat.isInf]

lemma noInteger_iff : NoInteger x fault ↔
    parts? x = none ∧ fault = if x.isNaN then .nanToInteger else .infinityToInteger := by
  rw [parts?_eq_none_iff]
  constructor
  · rintro (h | h)
    · have hnan : x.isNaN = false := by
        rw [← Bool.not_eq_true]
        intro hnan
        rw [not_isInf_of_isNaN hnan] at h
        exact absurd h (by decide)
      exact ⟨Or.inr h, by rw [hnan]; rfl⟩
    · exact ⟨Or.inl h, by rw [h]; rfl⟩
  · rintro ⟨h, rfl⟩
    split
    · exact .notANumber ‹_›
    · exact .infinite (h.resolve_left ‹_›)

/-- An integer part fails to exist exactly where it is said to. -/
lemma toInteger_eq_error_iff {round : Float → Option Int}
    (hround : ∀ x, round x = none ↔ parts? x = none) :
    toInteger round x = .error fault ↔ NoInteger x fault := by
  rw [noInteger_iff, ← hround, toInteger]
  cases round x with
  | some n => simp
  | none => simp [eq_comm]

lemma toInteger_eq_ok_iff {round : Float → Option Int} {n : Int} :
    toInteger round x = .ok n ↔ round x = some n := by
  rw [toInteger]
  cases round x <;> simp

lemma floor?_eq_none_iff (x : Float) : floor? x = none ↔ parts? x = none := by
  rw [floor?, Option.map_eq_none_iff]

lemma truncate?_eq_none_iff (x : Float) : truncate? x = none ↔ parts? x = none := by
  rw [truncate?, Option.map_eq_none_iff]

/-! ### Remainders and logarithms -/

lemma modulo_eq_error_iff :
    modulo x y = .error fault ↔ (y == 0) = false ∧ NoInteger (x / y) fault := by
  rw [modulo]
  cases y == 0 with
  | true => simp
  | false =>
    rw [if_neg Bool.false_ne_true, bind_eq_error_iff, toInteger_eq_error_iff floor?_eq_none_iff,
      and_iff_right rfl]
    exact or_iff_left fun ⟨n, _, h⟩ => by simp [pure, Except.pure] at h

lemma logBase_eq_error_iff {base : Float} : logBase x base = .error fault ↔
    (¬x ≤ 0 ∧ ¬base ≤ 0 ∧ (Float.log base == 0) = true) ∧ fault = .divisionByZero := by
  rw [logBase]
  by_cases hx : x ≤ 0
  · simp [hx]
  · by_cases hbase : base ≤ 0
    · simp [hbase]
    · cases hlog : Float.log base == 0 with
      | true => simp [hx, hbase, eq_comm]
      | false => simp [hx, hbase]

/-! ### Roundings -/

/-- A finite double has no rounding to this count of places, on this ground: the count is no
integer or too large, the scaled magnitude is out of range, or the power of ten is zero. -/
inductive RoundBreaks (x places : Float) : ArithmeticFault → Prop
  | places {fault : ArithmeticFault} (h : NoInteger places fault) : RoundBreaks x places fault
  | tooMany {n : Int} (hn : truncate? places = some n) (h : tooManyPlaces ≤ n) :
      RoundBreaks x places .integerTooLarge
  | scaled {n : Nat} {fault : ArithmeticFault} (hn : truncate? places = some n)
      (hfew : n < tooManyPlaces)
      (h : NoInteger (abs x * ofRatio false (Nat.pow 10 n) 1 + 0.5) fault) :
      RoundBreaks x places fault
  | coarse {n : Int} {fault : ArithmeticFault} (hn : truncate? places = some n) (hneg : n < 0)
      (h : NoInteger (abs x * Float.pow 10.0 (ofRounded n) + 0.5) fault) :
      RoundBreaks x places fault
  | vanishing {n : Int} (hn : truncate? places = some n) (hneg : n < 0)
      (h : (Float.pow 10.0 (ofRounded n) == 0) = true)
      (hinteger : ∀ fault, ¬NoInteger (abs x * Float.pow 10.0 (ofRounded n) + 0.5) fault) :
      RoundBreaks x places .divisionByZero

lemma roundScaled_eq_error_iff {n : Nat} : roundScaled x n = .error fault ↔
    NoInteger (abs x * ofRatio false (Nat.pow 10 n) 1 + 0.5) fault := by
  rw [roundScaled, bind_eq_error_iff, toInteger_eq_error_iff floor?_eq_none_iff]
  exact or_iff_left fun ⟨n, _, h⟩ => by simp [pure, Except.pure] at h

lemma roundCoarse_eq_error_iff {factor : Float} : roundCoarse x factor = .error fault ↔
    NoInteger (abs x * factor + 0.5) fault ∨
      ((factor == 0) = true ∧ ∀ fault, ¬NoInteger (abs x * factor + 0.5) fault) ∧
        fault = .divisionByZero := by
  have hinteger : (∃ n, toInteger floor? (abs x * factor + 0.5) = .ok n) ↔
      ∀ fault, ¬NoInteger (abs x * factor + 0.5) fault := by
    simp only [← not_fails_iff, Fails, toInteger_eq_error_iff floor?_eq_none_iff, not_exists]
  rw [roundCoarse, bind_eq_error_iff, toInteger_eq_error_iff floor?_eq_none_iff, ← hinteger]
  cases factor == 0 with
  | true => simp [eq_comm]
  | false => simp [pure, Except.pure]

/-- A count of places with an integer part is no ground by itself. -/
lemma not_noInteger_of_truncate? {n : Int} (hn : truncate? y = some n) : ¬NoInteger y fault := by
  intro h
  have hnone := (truncate?_eq_none_iff y).2 (noInteger_iff.1 h).1
  rw [hn] at hnone
  exact Option.some_ne_none n hnone

lemma roundBreaks_of_none (hn : truncate? y = none) :
    RoundBreaks x y fault ↔ NoInteger y fault := by
  constructor
  · rintro (h | ⟨hn', -⟩ | ⟨hn', -, -⟩ | ⟨hn', -, -⟩ | ⟨hn', -, -, -⟩)
    · exact h
    all_goals exact absurd (hn.symm.trans hn') (Option.some_ne_none _).symm
  · exact .places

lemma roundBreaks_of_tooMany {n : Int} (hn : truncate? y = some n) (h : tooManyPlaces ≤ n) :
    RoundBreaks x y fault ↔ fault = .integerTooLarge := by
  constructor
  · rintro (h' | - | ⟨hn', hfew, -⟩ | ⟨hn', hneg, -⟩ | ⟨hn', hneg, -, -⟩)
    · exact absurd h' (not_noInteger_of_truncate? hn)
    · rfl
    · obtain rfl := Option.some.inj (hn.symm.trans hn')
      exact absurd h (not_le.2 hfew)
    all_goals
      obtain rfl := Option.some.inj (hn.symm.trans hn')
      exact absurd (h.trans_lt hneg) (by decide)
  · rintro rfl
    exact .tooMany hn h

lemma roundBreaks_of_nonneg {n : Nat} (hn : truncate? y = some n) (hfew : n < tooManyPlaces) :
    RoundBreaks x y fault ↔ NoInteger (abs x * ofRatio false (Nat.pow 10 n) 1 + 0.5) fault := by
  constructor
  · rintro (h | ⟨hn', h⟩ | ⟨hn', -, h⟩ | ⟨hn', hneg, -⟩ | ⟨hn', hneg, -, -⟩)
    · exact absurd h (not_noInteger_of_truncate? hn)
    · obtain rfl := Option.some.inj (hn.symm.trans hn')
      exact absurd h (not_le.2 hfew)
    · obtain rfl := Int.ofNat.inj (Option.some.inj (hn.symm.trans hn'))
      exact h
    all_goals
      obtain rfl := Option.some.inj (hn.symm.trans hn')
      exact absurd hneg (not_lt.2 (Int.natCast_nonneg n))
  · exact .scaled hn hfew

lemma roundBreaks_of_neg {n : Int} (hn : truncate? y = some n) (hneg : n < 0) :
    RoundBreaks x y fault ↔ roundCoarse x (Float.pow 10.0 (ofRounded n)) = .error fault := by
  rw [roundCoarse_eq_error_iff]
  constructor
  · rintro (h | ⟨hn', h⟩ | ⟨hn', -, -⟩ | ⟨hn', -, h⟩ | ⟨hn', -, h, hinteger⟩)
    · exact absurd h (not_noInteger_of_truncate? hn)
    · obtain rfl := Option.some.inj (hn.symm.trans hn')
      exact absurd (h.trans_lt hneg) (by decide)
    · obtain rfl := Option.some.inj (hn.symm.trans hn')
      exact absurd hneg (not_lt.2 (Int.natCast_nonneg _))
    · obtain rfl := Option.some.inj (hn.symm.trans hn')
      exact Or.inl h
    · obtain rfl := Option.some.inj (hn.symm.trans hn')
      exact Or.inr ⟨⟨h, hinteger⟩, rfl⟩
  · rintro (h | ⟨⟨h, hinteger⟩, rfl⟩)
    · exact .coarse hn hneg h
    · exact .vanishing hn hneg h hinteger

/-- **Where a rounding has no value.** -/
lemma roundTo_eq_error_iff :
    roundTo x y = .error fault ↔ x.isFinite = true ∧ RoundBreaks x y fault := by
  have hsigned : ∀ z : Except ArithmeticFault Float,
      (do return copySign (← z) x) = .error fault ↔ z = .error fault := by
    intro z
    rw [bind_eq_error_iff]
    exact or_iff_left fun ⟨m, _, h⟩ => by simp [pure, Except.pure] at h
  rw [roundTo]
  cases x.isFinite with
  | false => simp
  | true =>
    rw [Bool.not_true, if_neg Bool.false_ne_true, and_iff_right rfl, bind_eq_error_iff,
      toInteger_eq_error_iff truncate?_eq_none_iff]
    simp only [toInteger_eq_ok_iff]
    cases hn : truncate? y with
    | none =>
      rw [roundBreaks_of_none hn]
      simp
    | some n =>
      have hplaces : ¬NoInteger y fault := not_noInteger_of_truncate? hn
      simp only [hplaces, false_or, Option.some.injEq, exists_eq_left']
      by_cases hmany : tooManyPlaces ≤ n
      · rw [if_pos hmany, roundBreaks_of_tooMany hn hmany, Except.error.injEq, eq_comm]
      rw [if_neg hmany]
      by_cases hneg : n < 0
      · rw [if_neg (not_le.2 hneg), hsigned, roundBreaks_of_neg hn hneg]
      · obtain ⟨k, rfl⟩ := Int.eq_ofNat_of_zero_le (not_lt.1 hneg)
        rw [if_pos (not_lt.1 hneg), hsigned, roundBreaks_of_nonneg hn (not_le.1 hmany),
          roundScaled_eq_error_iff]
        rfl

end Worksheet.Double
