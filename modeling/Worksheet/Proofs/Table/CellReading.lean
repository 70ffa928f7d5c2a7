import Worksheet.Proofs.Table.Overflow

/-!
# Cells read as numbers

A cell is read as a number in three places: by the formula of a column once the cell has entered
the scope of its row, by the aggregates of its column, and by filters.  All three come to the same
double wherever they come to one.  They part on an empty cell only, which aggregates leave out and
the other two read as zero.
-/

namespace Worksheet

namespace Value

variable {v : Value} {x : Float}

lemma actualNumber?_eq_some_iff {y : Float} :
    actualNumber? y = some x ↔ y = x ∧ x.isNaN = false := by
  unfold actualNumber?
  by_cases hy : y.isNaN = true
  · rw [if_pos hy]
    refine iff_of_false (by simp) ?_
    rintro ⟨rfl, hx⟩
    exact Bool.false_ne_true (hx.symm.trans hy)
  · rw [if_neg hy, Option.some.injEq]
    refine (and_iff_left_of_imp ?_).symm
    rintro rfl
    exact Bool.eq_false_iff.2 hy

lemma actualNumber?_eq_none_iff : actualNumber? x = none ↔ x.isNaN = true := by
  rw [actualNumber?]
  split
  · exact iff_of_true rfl ‹_›
  · exact iff_of_false (by simp) ‹_›

/-- What becomes of a cell in the scope of its row makes no difference to its reading. -/
lemma toNumber_ofCell (v : Value) : v.ofCell.toNumber = v.toNumber := by
  cases v with
  | text s =>
    by_cases hblank : Text.isBlankText s = true
    · rw [ofCell, if_pos hblank]
    · cases hs : numeralOf? s with
      | some x => simp [ofCell, toNumber, hblank, hs]
      | none => simp [ofCell, hblank, hs]
  | _ => rfl

/-! ### Aggregates read what formulas read -/

lemma numericReading_of_toNumber_eq_error {fault : NotNumeric} (h : v.toNumber = .error fault) :
    v.numericReading = .ok none := by
  cases v with
  | text s =>
    by_cases hblank : Text.isBlankText s = true
    · rw [toNumber, if_pos hblank] at h
      exact absurd h (by simp)
    · cases hs : numeralOf? s with
      | some x => simp [toNumber, hblank, hs] at h
      | none => simp [numericReading, hblank, hs]
  | list items => rfl
  | record fields => rfl
  | _ => exact absurd h (by simp [toNumber])

lemma numericReading_of_toNumber_eq_ok {n : Number} (hv : v ≠ .null) (h : v.toNumber = .ok n) :
    v.numericReading = n.toFloat.map actualNumber? := by
  have hnumber : ∀ x : Float, (Number.float x).toFloat.map actualNumber? = .ok (actualNumber? x) :=
    fun _ => rfl
  have hzero : actualNumber? 0.0 = some 0.0 := rfl
  cases v with
  | null => exact absurd rfl hv
  | bool b =>
    obtain rfl := Except.ok.inj h
    cases b <;> rfl
  | number n' =>
    obtain rfl := Except.ok.inj h
    rw [numericReading]
    cases n'.toFloat <;> rfl
  | text s =>
    by_cases hblank : Text.isBlankText s = true
    · rw [toNumber, if_pos hblank] at h
      obtain rfl := Except.ok.inj h
      rw [numericReading, if_pos hblank, hnumber, hzero]
    · cases hs : numeralOf? s with
      | none => simp [toNumber, hblank, hs] at h
      | some x =>
        obtain rfl : Number.float x = n := by simpa [toNumber, hblank, hs] using h
        rw [numericReading, if_neg hblank, hs, hnumber, Option.bind_some]
  | list items => exact absurd h (by simp [toNumber])
  | record fields => exact absurd h (by simp [toNumber])

lemma numericReading_eq_some_iff :
    v.numericReading = .ok (some x) ↔ v ≠ .null ∧ v.ReadsAs x ∧ x.isNaN = false := by
  by_cases hv : v = .null
  · subst hv
    exact iff_of_false (by simp [numericReading]) (by simp)
  rw [and_iff_right hv, ReadsAs]
  cases hread : v.toNumber with
  | error fault => simp [numericReading_of_toNumber_eq_error hread]
  | ok n =>
    rw [numericReading_of_toNumber_eq_ok hv hread]
    cases hfloat : n.toFloat with
    | error fault => simp [Except.map, hfloat]
    | ok y => simp [Except.map, hfloat, actualNumber?_eq_some_iff]

lemma numericReading_eq_none_iff : v.numericReading = .ok none ↔
    v = .null ∨ Fails v.toNumber ∨ ∃ x, v.ReadsAs x ∧ x.isNaN = true := by
  by_cases hv : v = .null
  · subst hv
    exact iff_of_true rfl (Or.inl rfl)
  rw [or_iff_right hv]
  cases hread : v.toNumber with
  | error fault => simp [numericReading_of_toNumber_eq_error hread]
  | ok n =>
    rw [numericReading_of_toNumber_eq_ok hv hread]
    cases hfloat : n.toFloat with
    | error fault => simp [Except.map, ReadsAs, hread, hfloat]
    | ok y => simp [Except.map, ReadsAs, hread, hfloat, actualNumber?_eq_none_iff]

end Value

namespace Table

variable {v : Value}

/-- A filter reads a cell that is not empty as the aggregates do. -/
lemma readingOf_of_ne_null (h : v ≠ .null) : readingOf (some v) = v.numericReading := by
  cases v with
  | null => exact absurd rfl h
  | _ => rfl

lemma readingOf_eq_some_iff {x : Float} :
    readingOf (some v) = .ok (some x) ↔ v.ReadsAs x ∧ x.isNaN = false := by
  by_cases hv : v = .null
  · subst hv
    have hreading : readingOf (some .null) = .ok (some 0) := rfl
    rw [hreading, Value.readsAs_null, Except.ok.injEq, Option.some.injEq, eq_comm]
    refine (and_iff_left_of_imp ?_).symm
    rintro rfl
    rfl
  · rw [readingOf_of_ne_null hv, Value.numericReading_eq_some_iff, and_iff_right hv]

/-- **Formulas, aggregates and filters read the same numbers.**  Aggregates and filters break off on
a cell exactly if it is an integer without a double.  Aggregates read a cell as a double exactly if
it is not empty and the formula of a column reads it as this double, which is a number; they leave a
cell out exactly if it is empty, or the formula cannot read it, or reads it as what is not a number.
Filters read a cell as a double exactly if the formula does and the double is a number, and so they
agree with the aggregates on all but the empty cell, which is zero to them as to the formula. -/
theorem cell_readings (v : Value) :
    (Fails v.numericReading ↔ v.Oversized) ∧
    (∀ x, v.numericReading = .ok (some x) ↔
      v ≠ .null ∧ v.ofCell.ReadsAs x ∧ x.isNaN = false) ∧
    (v.numericReading = .ok none ↔
      v = .null ∨ Fails v.ofCell.toNumber ∨ ∃ x, v.ofCell.ReadsAs x ∧ x.isNaN = true) ∧
    (∀ x, readingOf (some v) = .ok (some x) ↔ v.ofCell.ReadsAs x ∧ x.isNaN = false) ∧
    (readingOf (some v) = v.numericReading ∨
      v = .null ∧ v.numericReading = .ok none ∧ readingOf (some v) = .ok (some 0.0) ∧
        v.ofCell.ReadsAs 0.0) := by
  have hcell : ∀ x, v.ofCell.ReadsAs x ↔ v.ReadsAs x := fun x => by
    rw [Value.ReadsAs, Value.ReadsAs, Value.toNumber_ofCell]
  simp only [hcell, Value.toNumber_ofCell]
  refine ⟨fails_numericReading, fun x => Value.numericReading_eq_some_iff,
    Value.numericReading_eq_none_iff, fun x => readingOf_eq_some_iff, ?_⟩
  by_cases hv : v = .null
  · subst hv
    exact Or.inr ⟨rfl, rfl, rfl, _, rfl, rfl⟩
  · exact Or.inl (readingOf_of_ne_null hv)

end Table

end Worksheet
