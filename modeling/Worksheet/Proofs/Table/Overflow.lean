import Worksheet.Proofs.Outcome
import Worksheet.Proofs.Value.Oversized
import Worksheet.Table.Filter
import Worksheet.Table.FormulaColumn

/-!
# What breaks off a table operation

A filter and a formula column read cells as doubles outside of any row, and a cell may hold an
integer that has no double.  There the operation does not fail but breaks off: a filter at such a
cell on either side of its comparison, a formula column at such a cell in a column that it
aggregates, or when the sum of that column leaves the range of doubles or meets both infinities.
Nothing else breaks them off.
-/

namespace Worksheet

lemma fails_numericReading {v : Value} : Fails v.numericReading ↔ v.Oversized := by
  cases v with
  | number x =>
    rw [Value.numericReading, fails_bind_pure]
    exact fails_toFloat_iff
  | null => exact iff_of_false (not_fails_ok _) id
  | bool b => exact iff_of_false (not_fails_ok _) id
  | text s => exact iff_of_false (not_fails_ok _) id
  | list items => exact iff_of_false (not_fails_ok _) id
  | record fields => exact iff_of_false (not_fails_ok _) id

namespace Table

/-- The cell is there and holds an integer that has no double. -/
def OversizedCell (cell : Option Value) : Prop := ∃ v, cell = some v ∧ v.Oversized

/-! ### Filters -/

lemma fails_readingOf {cell : Option Value} : Fails (readingOf cell) ↔ OversizedCell cell := by
  cases cell with
  | none => exact iff_of_false (not_fails_ok _) (by simp [OversizedCell])
  | some v =>
    have hcell : OversizedCell (some v) ↔ v.Oversized := by simp [OversizedCell]
    rw [hcell]
    cases v with
    | null => exact iff_of_false (not_fails_ok _) id
    | _ => simp only [readingOf, fails_numericReading]

lemma fails_sidesOf {a b : Option Value} :
    Fails (sidesOf a b) ↔ OversizedCell a ∨ OversizedCell b := by
  rw [sidesOf, ← fails_readingOf, ← fails_readingOf]
  refine fails_bind_of_forall fun x => fails_bind_of_not_fails fun y => ?_
  split <;> exact not_fails_ok _

/-- A row of the filter holds an integer without a double on either side of the comparison. -/
def Criteria.Overflows (criteria : Criteria) (rows : List Row) : Prop :=
  ∃ row ∈ rows, OversizedCell (row.lookup criteria.column) ∨ OversizedCell (criteria.right row)

lemma fails_filterRows {criteria : Criteria} {rows : List Row} :
    Fails (filterRows criteria rows) ↔ criteria.Overflows rows := by
  induction rows with
  | nil => exact iff_of_false (not_fails_ok _) (by simp [Criteria.Overflows])
  | cons row rows ih =>
    have hrow : Fails (criteria.matches? row) ↔
        OversizedCell (row.lookup criteria.column) ∨ OversizedCell (criteria.right row) :=
      fails_bind_pure.trans fails_sidesOf
    rw [filterRows, Criteria.Overflows, List.exists_mem_cons_iff, ← hrow]
    exact fails_bind_of_forall fun keep => fails_bind_pure.trans ih

/-- **What breaks off a filter.** -/
lemma fails_filter {d : Dataset} {criteria : Criteria} :
    Fails (filter d criteria) ↔ criteria.Overflows d.rows := by
  rw [← fails_filterRows, filter]
  split
  · rename_i hrows
    rw [List.isEmpty_iff.1 hrows]
    exact iff_of_false (not_fails_ok _) (not_fails_ok _)
  · exact fails_bind_pure

/-! ### Formula columns -/

/-- The aggregate is of a known function, and a cell of its column is an integer without a double,
or it adds up numbers that have no sum. -/
def Aggregate.Overflows (a : Aggregate) (rows : List Row) : Prop :=
  a.function ∈ aggregateFunctions ∧
    ((∃ row ∈ rows, OversizedCell (row.lookup a.column)) ∨
      (a.function = "SUM" ∨ a.function = "AVG") ∧ ∃ numbers,
        numbersOf a.column rows = .ok numbers ∧ numbers ≠ [] ∧ Fails (Double.sum numbers))

lemma fails_numbersOf {column : String} {rows : List Row} :
    Fails (numbersOf column rows) ↔ ∃ row ∈ rows, OversizedCell (row.lookup column) := by
  have hcell (cell : Option Value) :
      Fails (cell.getD .null).numericReading ↔ OversizedCell cell := by
    rw [fails_numericReading]
    cases cell with
    | none => exact iff_of_false id (by simp [OversizedCell])
    | some v => simp [OversizedCell]
  rw [numbersOf, fails_bind_pure, fails_mapM]
  simp only [hcell]

/-- The sum is the one function on numbers that may have no value. -/
lemma fails_aggregateOf {function : String} {numbers : List Float} :
    Fails (aggregateOf function numbers) ↔
      (function = "SUM" ∨ function = "AVG") ∧ Fails (Double.sum numbers) := by
  unfold aggregateOf
  split
  · rw [fails_bind_pure]
    simp
  · rw [fails_bind_pure]
    simp
  · exact iff_of_false (not_fails_ok _) (by simp)
  · exact iff_of_false (not_fails_ok _) (by simp)
  · exact iff_of_false (not_fails_ok _) (by simp)
  · rename_i hsum havg _ _ _
    exact iff_of_false (not_fails_ok _) (by rintro ⟨rfl | rfl, -⟩ <;> contradiction)

lemma fails_compute {a : Aggregate} {rows : List Row} :
    Fails (a.compute rows) ↔ a.Overflows rows := by
  rw [Aggregate.compute, Aggregate.Overflows, ← fails_numbersOf]
  by_cases hknown : a.function ∈ aggregateFunctions
  · rw [if_pos (List.contains_iff_mem.2 hknown), fails_bind]
    have hnumbers (numbers : List Float) :
        Fails (if numbers.isEmpty then return none else aggregateOf a.function numbers :
          Except ArithmeticFault (Option Number)) ↔
        (a.function = "SUM" ∨ a.function = "AVG") ∧ numbers ≠ [] ∧ Fails (Double.sum numbers) := by
      by_cases hnil : numbers = []
      · rw [if_pos (List.isEmpty_iff.2 hnil)]
        exact iff_of_false (not_fails_ok _) fun h => h.2.1 hnil
      · rw [if_neg (List.isEmpty_iff.not.2 hnil), fails_aggregateOf]
        simp [hnil]
    simp only [hnumbers]
    exact ⟨fun h => ⟨hknown, h.imp_right fun ⟨numbers, hok, hsum, h⟩ => ⟨hsum, numbers, hok, h⟩⟩,
      fun h => h.2.imp_right fun ⟨hsum, numbers, hok, h⟩ => ⟨numbers, hok, hsum, h⟩⟩
  · rw [if_neg (List.contains_iff_mem.not.2 hknown)]
    exact iff_of_false (not_fails_ok _) fun h => hknown h.1

lemma fails_compile (formula : String) (d : Dataset) (scalars : List (String × ScalarInput)) :
    Fails (compile formula d scalars) ↔ ∃ a ∈ aggregates formula, a.Overflows d.rows := by
  have hbinding (a : Aggregate) :
      Fails (do return (identifier a.text, ← aggregateValue a d.rows) :
        Except ArithmeticFault (String × Value)) ↔ a.Overflows d.rows := by
    rw [fails_bind_pure, aggregateValue, fails_bind_pure, fails_compute]
  calc Fails (compile formula d scalars)
      ↔ Fails (tableBindings formula d scalars) := fails_bind_pure
    _ ↔ Fails (aggregateBindings formula d.rows) := fails_bind_pure
    _ ↔ ∃ a ∈ aggregates formula, a.Overflows d.rows := by
        rw [aggregateBindings, fails_mapM]
        simp only [hbinding]

/-- **What breaks off a formula column.** -/
lemma fails_addColumn {d : Dataset} {request : ColumnRequest} :
    Fails (addColumn d request) ↔ validate request.formula request.name = none ∧
      ∃ a ∈ aggregates request.formula, a.Overflows d.rows := by
  rw [addColumn]
  split
  · rename_i fault hfault
    exact iff_of_false (not_fails_ok _) (by simp [hfault])
  · rename_i hnone
    rw [← fails_compile _ d request.scalars, hnone, eq_self_iff_true, true_and]
    refine fails_bind_of_not_fails fun compiled => ?_
    split
    · exact not_fails_ok _
    · split <;> exact not_fails_ok _

end Table

end Worksheet
