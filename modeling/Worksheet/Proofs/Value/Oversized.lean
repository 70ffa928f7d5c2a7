import Worksheet.Proofs.Double.Range
import Worksheet.Proofs.Outcome
import Worksheet.Value.Reading

/-!
# Integers without a double

Numbers are mostly taken for doubles, and an integer may have none.  A value is read as a double
where formulas read it as a number that has one.  Sums, differences and products
meet one only together with a double; a quotient of two integers is exact, so there it is the size
of the quotient that counts.
-/

namespace Worksheet

/-- The number is an integer that has no double. -/
def Number.Oversized : Number → Prop
  | int n => Double.integerBound ≤ n.natAbs
  | _ => False

/-- The value is an integer that has no double. -/
def Value.Oversized : Value → Prop
  | number (.int n) => Double.integerBound ≤ n.natAbs
  | _ => False

/-- Formulas read the value as a number that has this double. -/
def Value.ReadsAs (v : Value) (x : Float) : Prop := ∃ n, v.toNumber = .ok n ∧ n.toFloat = .ok x

lemma Value.readsAs_null {x : Float} : null.ReadsAs x ↔ x = 0 := by
  constructor
  · rintro ⟨n, hn, hx⟩
    obtain rfl := Except.ok.inj hn
    exact (Except.ok.inj hx).symm
  · rintro rfl
    exact ⟨.float 0.0, rfl, rfl⟩

lemma fails_toFloat_iff {x : Number} : Fails x.toFloat ↔ (Value.number x).Oversized := by
  cases x with
  | int n =>
    rw [Value.Oversized, ← Double.ofInt?_eq_none_iff, Number.toFloat]
    cases Double.ofInt? n <;> simp
  | float x => exact iff_of_false (not_fails_ok _) id
  | nan mark => exact iff_of_false (not_fails_ok _) id

namespace Number

variable {a b : Number} {fault : ArithmeticFault}

lemma toFloat_eq_error_iff : a.toFloat = .error fault ↔ a.Oversized ∧ fault = .integerTooLarge := by
  cases a with
  | int n =>
    rw [Oversized, ← Double.ofInt?_eq_none_iff, toFloat]
    cases Double.ofInt? n with
    | none => simp [eq_comm]
    | some x => simp
  | _ => simp [toFloat, Oversized]

/-- A number has a double or is an oversized integer. -/
lemma exists_toFloat_iff : (∃ x, a.toFloat = .ok x) ↔ ¬a.Oversized := by
  rw [← not_fails_iff, not_iff_not]
  constructor
  · rintro ⟨fault, h⟩
    exact (toFloat_eq_error_iff.1 h).1
  · exact fun h => ⟨_, toFloat_eq_error_iff.2 ⟨h, rfl⟩⟩

lemma isNaN_eq_error_iff : a.isNaN = .error fault ↔ a.Oversized ∧ fault = .integerTooLarge :=
  bind_pure_eq_error_iff.trans toFloat_eq_error_iff

lemma Oversized.exists_int (h : a.Oversized) : ∃ n, a = .int n := by
  cases a with
  | int n => exact ⟨n, rfl⟩
  | _ => exact h.elim

/-- Both numbers are integers. -/
def BothIntegers (a b : Number) : Prop := (∃ n, a = .int n) ∧ ∃ m, b = .int m

lemma bothIntegers_int (n m : Int) : BothIntegers (.int n) (.int m) := ⟨⟨n, rfl⟩, m, rfl⟩

/-- A function of two doubles on numbers. -/
def onDoubles (f : Float → Float → Float) (a b : Number) : Except ArithmeticFault Number := do
  let x ← a.toFloat
  let y ← b.toFloat
  return .float (f x y)

lemma lift_eq_onDoubles {onInts : Int → Int → Int} {onFloats : Float → Float → Float}
    (h : ¬a.BothIntegers b) : lift onInts onFloats a b = onDoubles onFloats a b := by
  cases a <;> cases b <;> first | rfl | exact absurd (bothIntegers_int _ _) h

lemma divide_eq_onDoubles (h : ¬a.BothIntegers b) : divide a b = onDoubles Double.divide a b := by
  cases a <;> cases b <;> first | rfl | exact absurd (bothIntegers_int _ _) h

lemma onDoubles_eq_error_iff {f : Float → Float → Float} : onDoubles f a b = .error fault ↔
    (a.Oversized ∨ b.Oversized) ∧ fault = .integerTooLarge := by
  have hsecond : ∀ x, (do return float (f x (← b.toFloat))) = .error fault ↔
      b.Oversized ∧ fault = .integerTooLarge := by
    intro x
    rw [bind_eq_error_iff, toFloat_eq_error_iff]
    exact or_iff_left fun ⟨y, _, h⟩ => by simp [pure, Except.pure] at h
  rw [onDoubles, bind_eq_error_iff, toFloat_eq_error_iff]
  simp only [hsecond, exists_and_right, exists_toFloat_iff]
  by_cases ha : a.Oversized
  · simp [ha]
  · simp [ha]

/-- The two numbers are taken for doubles together, and one of them has none. -/
def Clash (a b : Number) : Prop := ¬a.BothIntegers b ∧ (a.Oversized ∨ b.Oversized)

lemma lift_eq_error_iff {onInts : Int → Int → Int} {onFloats : Float → Float → Float} :
    lift onInts onFloats a b = .error fault ↔ a.Clash b ∧ fault = .integerTooLarge := by
  by_cases h : a.BothIntegers b
  · obtain ⟨⟨n, rfl⟩, m, rfl⟩ := h
    simp [lift, Clash, bothIntegers_int]
  · rw [lift_eq_onDoubles h, onDoubles_eq_error_iff, Clash, and_iff_right h]

/-- The quotient of two integers is out of range. -/
def Outgrows (a b : Number) : Prop :=
  ∃ n m : Int, a = .int n ∧ b = .int m ∧ m ≠ 0 ∧ Double.integerBound * m.natAbs ≤ n.natAbs

lemma divide_int_eq_error_iff {n m : Int} : divide (.int n) (.int m) = .error fault ↔
    (Number.int n).Oversized ∧ m = 0 ∧ fault = .integerTooLarge ∨
      m ≠ 0 ∧ Double.integerBound * m.natAbs ≤ n.natAbs ∧ fault = .quotientTooLarge := by
  rw [divide]
  by_cases hm : m = 0
  · subst hm
    by_cases hn : n = 0
    · subst hn
      have hzero : ¬(Number.int 0).Oversized := not_le.2 Double.integerBound_pos
      simp [hzero, pure, Except.pure]
    · have hinfinite : (do return float (Double.copySign Double.infinity (← (int n).toFloat))) =
          .error fault ↔ (Number.int n).Oversized ∧ fault = .integerTooLarge := by
        rw [bind_eq_error_iff, toFloat_eq_error_iff]
        exact or_iff_left fun ⟨y, _, h⟩ => by simp [pure, Except.pure] at h
      simpa [hn] using hinfinite
  · have hpos : 0 < m.natAbs := Int.natAbs_pos.2 hm
    rw [if_neg (by simpa using hm),
      ← Double.ofRatio?_eq_none_iff hpos (decide (n < 0) != decide (m < 0))]
    cases Double.ofRatio? (decide (n < 0) != decide (m < 0)) n.natAbs m.natAbs with
    | none => simp [hm, eq_comm]
    | some x => simp [hm]

lemma divide_eq_error_iff : divide a b = .error fault ↔
    (a.Clash b ∨ a.Oversized ∧ b = .int 0) ∧ fault = .integerTooLarge ∨
      a.Outgrows b ∧ fault = .quotientTooLarge := by
  by_cases h : a.BothIntegers b
  · obtain ⟨⟨n, rfl⟩, m, rfl⟩ := h
    rw [divide_int_eq_error_iff]
    simp [Clash, Outgrows, bothIntegers_int, and_assoc]
  · have hzero : ¬(a.Oversized ∧ b = .int 0) := by
      rintro ⟨ha, rfl⟩
      exact h ⟨ha.exists_int, 0, rfl⟩
    have hquotient : ¬a.Outgrows b := by
      rintro ⟨n, m, rfl, rfl, -⟩
      exact h (bothIntegers_int n m)
    rw [divide_eq_onDoubles h, onDoubles_eq_error_iff, Clash, and_iff_right h]
    simp only [hzero, hquotient, false_and, or_false]

end Number

end Worksheet
