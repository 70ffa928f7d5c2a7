import Mathlib.Data.List.Basic
import Worksheet.Proofs.Table.Overflow
import Worksheet.Proofs.Table.Session

/-!
# Filters one after the other

A filter that is not broken off keeps the rows that satisfy its criterion, so two of them in a row
keep the rows that satisfy both, in whichever order.  But a filter refuses a dataset without rows,
also one that another filter has left without any.  So the order matters exactly if one of the two
criteria keeps nothing and the other keeps something.
-/

namespace Worksheet.Table

/-- Whether a row satisfies a criterion; one that breaks the filter off does not. -/
def Criteria.keeps (criteria : Criteria) (row : Row) : Bool :=
  (criteria.matches? row).toOption.getD false

/-- The outcome of a second filter on what a first one makes; if that fails nothing is left to
filter. -/
def filterThen (d : Dataset) (first second : Criteria) : Except ArithmeticFault Outcome := do
  match ← filter d first with
  | .ok made => filter made.dataset second
  | .error fault => return .error fault

variable {d : Dataset} {criteria first second : Criteria} {rows : List Row} {row : Row}

/-! ### One filter -/

lemma keeps_eq_true_iff : criteria.keeps row = true ↔ criteria.matches? row = .ok true := by
  rw [Criteria.keeps]
  cases criteria.matches? row with
  | ok keep => cases keep <;> simp [Except.toOption]
  | error fault => simp [Except.toOption]

lemma matches?_eq_ok_keeps (h : ¬Fails (criteria.matches? row)) :
    criteria.matches? row = .ok (criteria.keeps row) := by
  obtain ⟨keep, hkeep⟩ := not_fails_iff.1 h
  rw [Criteria.keeps, hkeep]
  rfl

lemma fails_matches? : Fails (criteria.matches? row) ↔
    OversizedCell (row.lookup criteria.column) ∨ OversizedCell (criteria.right row) :=
  fails_bind_pure.trans fails_sidesOf

/-- A filter that is not broken off at any row keeps those that satisfy its criterion. -/
lemma filterRows_eq_filter (h : ¬criteria.Overflows rows) :
    filterRows criteria rows = .ok (rows.filter criteria.keeps) := by
  induction rows with
  | nil => rfl
  | cons row rows ih =>
    rw [Criteria.Overflows, List.exists_mem_cons_iff, not_or, ← fails_matches?] at h
    rw [filterRows, matches?_eq_ok_keeps h.1, ih h.2, List.filter_cons]
    show Except.ok _ = _
    split <;> rfl

lemma filter_eq_changed (hrows : d.rows ≠ []) (h : ¬Fails (filter d criteria)) :
    filter d criteria = .ok (changed { d with rows := d.rows.filter criteria.keeps }) := by
  rw [fails_filter] at h
  rw [filter, if_neg (by simpa using hrows), filterRows_eq_filter h]
  rfl

lemma filter_of_isEmpty (h : d.rows = []) : filter d criteria = .ok (.error .noSource) := by
  rw [filter, if_pos (List.isEmpty_iff.2 h)]

/-- What does not break off on a dataset does not do so on a part of its rows. -/
lemma not_fails_filter_of_subset (h : ¬Fails (filter d criteria)) (hrows : rows ⊆ d.rows) :
    ¬Fails (filter { d with rows := rows } criteria) := by
  rw [fails_filter] at h ⊢
  rintro ⟨row, hrow, hcell⟩
  exact h ⟨row, hrows hrow, hcell⟩

/-! ### Two filters -/

lemma filterThen_of_changed {made : Dataset} (h : filter d first = .ok (changed made)) :
    filterThen d first second = filter made second := by
  rw [filterThen, h]
  rfl

lemma filterThen_of_not_exists (hrows : d.rows ≠ []) (hfirst : ¬Fails (filter d first))
    (hnone : ¬∃ row ∈ d.rows, first.keeps row = true) :
    filterThen d first second = .ok (.error .noSource) := by
  have hempty : d.rows.filter first.keeps = [] :=
    List.filter_eq_nil_iff.2 fun row hrow hkeeps => hnone ⟨row, hrow, hkeeps⟩
  rw [filterThen_of_changed (filter_eq_changed hrows hfirst)]
  exact filter_of_isEmpty hempty

lemma filterThen_of_exists (hfirst : ¬Fails (filter d first)) (hsecond : ¬Fails (filter d second))
    (hsome : ∃ row ∈ d.rows, first.keeps row = true) :
    filterThen d first second = .ok (changed { d with
      rows := d.rows.filter fun row => first.keeps row && second.keeps row }) := by
  obtain ⟨row, hrow, hkeeps⟩ := hsome
  have hkept : d.rows.filter first.keeps ≠ [] :=
    List.ne_nil_of_mem (List.mem_filter.2 ⟨hrow, hkeeps⟩)
  have hsecond' := not_fails_filter_of_subset hsecond
    (List.filter_sublist (p := first.keeps)).subset
  rw [filterThen_of_changed (filter_eq_changed (List.ne_nil_of_mem hrow) hfirst),
    filter_eq_changed hkept hsecond', List.filter_filter]
  simp only [Bool.and_comm]

/-- Both outcomes are datasets with the same rows, or both are failures. -/
def SameOutcome (x y : Except ArithmeticFault Outcome) : Prop :=
  (∃ made made', x = .ok (.ok made) ∧ y = .ok (.ok made') ∧
    made.dataset.rows = made'.dataset.rows) ∨
  ∃ fault fault', x = .ok (.error fault) ∧ y = .ok (.error fault')

lemma not_sameOutcome {fault : TableFault} {made : Dataset} :
    ¬SameOutcome (.ok (.error fault)) (.ok (changed made)) := by
  rintro (⟨_, _, h, -, -⟩ | ⟨_, _, -, h⟩)
  · exact absurd (Except.ok.inj h) (by simp)
  · exact absurd (Except.ok.inj h) (by simp [changed])

lemma SameOutcome.symm {x y : Except ArithmeticFault Outcome} (h : SameOutcome x y) :
    SameOutcome y x := by
  obtain ⟨made, made', hx, hy, hrows⟩ | ⟨fault, fault', hx, hy⟩ := h
  · exact Or.inl ⟨made', made, hy, hx, hrows.symm⟩
  · exact Or.inr ⟨fault', fault, hy, hx⟩

/-- **When the order of two filters does not matter.**  Two filters that are not broken off on a
dataset with rows give the same outcome in either order if and only if both criteria keep some of
its rows or neither does.  The rows are those that satisfy both, as soon as the first criterion
keeps some; if it keeps none, the second filter is refused for want of rows. -/
theorem sameOutcome_filterThen_iff (hrows : d.rows ≠ []) (hfirst : ¬Fails (filter d first))
    (hsecond : ¬Fails (filter d second)) :
    (SameOutcome (filterThen d first second) (filterThen d second first) ↔
      ((∃ row ∈ d.rows, first.keeps row = true) ↔ ∃ row ∈ d.rows, second.keeps row = true)) ∧
    ((∃ row ∈ d.rows, first.keeps row = true) → filterThen d first second = .ok (changed { d with
      rows := d.rows.filter fun row => first.keeps row && second.keeps row })) ∧
    ((¬∃ row ∈ d.rows, first.keeps row = true) →
      filterThen d first second = .ok (.error .noSource)) := by
  refine ⟨?_, filterThen_of_exists hfirst hsecond, filterThen_of_not_exists hrows hfirst⟩
  by_cases hone : ∃ row ∈ d.rows, first.keeps row = true
  · have hboth := filterThen_of_exists hfirst hsecond hone
    by_cases htwo : ∃ row ∈ d.rows, second.keeps row = true
    · refine iff_of_true (Or.inl ⟨_, _, hboth, filterThen_of_exists hsecond hfirst htwo, ?_⟩)
        (iff_of_true hone htwo)
      exact List.filter_congr fun row _ => Bool.and_comm _ _
    · rw [hboth, filterThen_of_not_exists hrows hsecond htwo]
      exact iff_of_false (fun h => not_sameOutcome h.symm) fun h => htwo (h.1 hone)
  · have hnone : filterThen d first second = .ok (.error .noSource) :=
      filterThen_of_not_exists hrows hfirst hone
    by_cases htwo : ∃ row ∈ d.rows, second.keeps row = true
    · rw [hnone, filterThen_of_exists hsecond hfirst htwo]
      exact iff_of_false not_sameOutcome fun h => hone (h.2 htwo)
    · exact iff_of_true (Or.inr ⟨_, _, hnone, filterThen_of_not_exists hrows hsecond htwo⟩)
        (iff_of_false hone htwo)

/-- Two fuels, one of them at two prices. -/
def fuels : Dataset where
  rows := [[("Fuel", .text "diesel"), ("Grade", .text "a")],
    [("Fuel", .text "petrol"), ("Grade", .text "a")],
    [("Fuel", .text "diesel"), ("Grade", .text "b")]]
  columns := [⟨"Fuel", "Fuel", .string, none⟩, ⟨"Grade", "Grade", .string, none⟩]

/-- A column has the given text. -/
def hasText (column text : String) : Criteria :=
  { column := column, operator := "==", value := .text text }

/-- Each criterion keeps something, the two together keep nothing, and both orders say so. -/
theorem sameOutcome_filterThen_iff_fuels :
    fuels.rows ≠ [] ∧ ¬Fails (filter fuels (hasText "Fuel" "petrol")) ∧
      ¬Fails (filter fuels (hasText "Grade" "b")) ∧
      SameOutcome (filterThen fuels (hasText "Fuel" "petrol") (hasText "Grade" "b"))
        (filterThen fuels (hasText "Grade" "b") (hasText "Fuel" "petrol")) ∧
      filterThen fuels (hasText "Fuel" "petrol") (hasText "Grade" "b") =
        .ok (changed { fuels with rows := [] }) := by
  have hrows : fuels.rows ≠ [] := List.cons_ne_nil _ _
  have hpetrol : ¬Fails (filter fuels (hasText "Fuel" "petrol")) := not_fails_iff.2 ⟨_, rfl⟩
  have hgrade : ¬Fails (filter fuels (hasText "Grade" "b")) := not_fails_iff.2 ⟨_, rfl⟩
  have hone : ∃ row ∈ fuels.rows, (hasText "Fuel" "petrol").keeps row = true :=
    ⟨_, List.mem_cons_of_mem _ List.mem_cons_self, rfl⟩
  have htwo : ∃ row ∈ fuels.rows, (hasText "Grade" "b").keeps row = true :=
    ⟨_, List.mem_cons_of_mem _ (List.mem_cons_of_mem _ List.mem_cons_self), rfl⟩
  obtain ⟨hsame, hkept, -⟩ := sameOutcome_filterThen_iff hrows hpetrol hgrade
  exact ⟨hrows, hpetrol, hgrade, hsame.2 (iff_of_true hone htwo), hkept hone⟩

/-- A criterion that keeps nothing is refused the second filter if it comes first, and leaves no
rows if it comes second. -/
theorem not_sameOutcome_filterThen_unusedFuel :
    fuels.rows ≠ [] ∧ ¬Fails (filter fuels (hasText "Fuel" "gas")) ∧
      ¬Fails (filter fuels (hasText "Grade" "a")) ∧
      filterThen fuels (hasText "Fuel" "gas") (hasText "Grade" "a") = .ok (.error .noSource) ∧
      filterThen fuels (hasText "Grade" "a") (hasText "Fuel" "gas") =
        .ok (changed { fuels with rows := [] }) ∧
      ¬SameOutcome (filterThen fuels (hasText "Fuel" "gas") (hasText "Grade" "a"))
        (filterThen fuels (hasText "Grade" "a") (hasText "Fuel" "gas")) := by
  have hfirst : filterThen fuels (hasText "Fuel" "gas") (hasText "Grade" "a") =
      .ok (.error .noSource) := rfl
  have hlast : filterThen fuels (hasText "Grade" "a") (hasText "Fuel" "gas") =
      .ok (changed { fuels with rows := [] }) := rfl
  refine ⟨List.cons_ne_nil _ _, not_fails_iff.2 ⟨_, rfl⟩, not_fails_iff.2 ⟨_, rfl⟩, hfirst, hlast,
    ?_⟩
  rw [hfirst, hlast]
  exact not_sameOutcome

end Worksheet.Table
