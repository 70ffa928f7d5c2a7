import Worksheet.Proofs.Formula.Spoiled
import Worksheet.Proofs.Table.Binding
import Worksheet.Proofs.Table.RowMap

/-!
# Rows without a cell

A reference to a column that a row lacks is not a number there, which is meant to fail the row.  It
does wherever this comes through to the value of the formula: then no row behind it is reached, as
the operation fails there or before.  A comparison or a connective makes a truth value of it
instead, and the row has a value like any other.
-/

namespace Worksheet.Table

variable {d : Dataset} {request : ColumnRequest} {c : Compiled} {x : String} {row : Row}
  {before after : List Row}

/-- A row without a value is not passed over. -/
lemma RowMap.exists_fault {name : String} {value : Row → Value → Prop} {outcome : Outcome}
    (h : RowMap d name value outcome) (hrows : d.rows = before ++ row :: after)
    (hnone : ¬∃ v, value row v) :
    ∃ fault, outcome = .error fault ∧ 1 ≤ fault.row ∧ fault.row ≤ before.length + 1 := by
  cases outcome with
  | ok success =>
    refine absurd (h.succeeds.1 ⟨success, rfl⟩ row ?_) hnone
    rw [hrows]
    exact List.mem_append_right before List.mem_cons_self
  | error fault =>
    obtain ⟨before', row', after', hrows', hvalues, -, hrow⟩ := h.fails fault rfl
    refine ⟨fault, rfl, by omega, ?_⟩
    rcases List.append_eq_append_iff.1 (hrows.symm.trans hrows') with ⟨more, hmore, hrest⟩ |
      ⟨more, hmore, -⟩
    · cases more with
      | nil => rw [hrow, hmore, List.append_nil]
      | cons first more =>
        -- the row would be one of those that have a value
        obtain rfl := (List.cons.inj hrest).1
        refine absurd (hvalues row ?_) hnone
        rw [hmore]
        exact List.mem_append_right before List.mem_cons_self
    · rw [hrow, hmore, List.length_append]
      omega

lemma not_valid_of_spoiled {v : Value} (h : v.Spoiled) : ¬Valid v := by
  rintro ⟨-, hfloat, hmark⟩
  obtain ⟨hn⟩ := h
  cases hn with
  | float h => exact absurd (h.symm.trans (hfloat _ rfl)) (by decide)
  | nan mark => exact hmark mark rfl

lemma scope_of_absent (hc : compile request.formula d request.scalars = .ok (.ok c))
    (hx : x ∈ d.columnIds) (hunshadowed : Unshadowed d request.scalars x)
    (habsent : row.lookup x = none) :
    c.scope row (referenceName x) = some (.float Double.nan) := by
  have hread := (reads_own_cell_iff hc hx).2 hunshadowed row
  rw [eval_reference hc hx, cellOf, habsent] at hread
  exact hread

lemma exists_fault_of_carries (hvalid : validate request.formula request.name = none)
    (hc : compile request.formula d request.scalars = .ok (.ok c)) (hx : x ∈ d.columnIds)
    (hunshadowed : Unshadowed d request.scalars x) (hrows : d.rows = before ++ row :: after)
    (habsent : row.lookup x = none) (hcarries : c.expr.Carries (c.scope row) (referenceName x)) :
    ∃ fault, addColumn d request = .ok (.error fault) ∧ 1 ≤ fault.row ∧
      fault.row ≤ before.length + 1 := by
  have hspoiled := Formula.Expr.gives_of_carries (scope_of_absent hc hx hunshadowed habsent)
    Formula.spoiled_nan hcarries
  have hnone : ¬∃ v, Computes (.ok c) row v := by
    rw [computes_ok]
    rintro ⟨v, hv, hvalid⟩
    exact not_valid_of_spoiled (hspoiled v hv) hvalid
  obtain ⟨outcome, houtcome, hmap, -⟩ := addColumn_rowMap hvalid hc
  obtain ⟨fault, rfl, hfault⟩ := hmap.exists_fault hrows hnone
  exact ⟨fault, houtcome, hfault⟩

/-- **An absent cell fails its row wherever it comes through.**  Let a row lack the cell of a column
that no single value and no later column hides.  If the compiled formula carries the reference to
its value in this row, the operation fails there or at an earlier row; so it does in particular if
the formula passes the reference on through operators, functions and both branches of a choice that
are all known to keep what is not a number.  But if the formula ends with a comparison or a
connective, the row has a value unless something in the formula is a fault. -/
theorem absent_cell_fails (hvalid : validate request.formula request.name = none)
    (hc : compile request.formula d request.scalars = .ok (.ok c)) (hx : x ∈ d.columnIds)
    (hunshadowed : Unshadowed d request.scalars x) (hrows : d.rows = before ++ row :: after)
    (habsent : row.lookup x = none) :
    (c.expr.Carries (c.scope row) (referenceName x) →
      ∃ fault, addColumn d request = .ok (.error fault) ∧ 1 ≤ fault.row ∧
        fault.row ≤ before.length + 1) ∧
    (c.expr.passes (referenceName x) = true →
      ∃ fault, addColumn d request = .ok (.error fault) ∧ 1 ≤ fault.row ∧
        fault.row ≤ before.length + 1) ∧
    ∀ op left right, c.expr = .binary op left right → op.isTest = true →
      ((∃ v, c.Computes row v) ↔ ¬Fails (c.expr.eval (c.scope row))) := by
  have hcarried := exists_fault_of_carries hvalid hc hx hunshadowed hrows habsent
  refine ⟨hcarried, fun hpasses => hcarried (Formula.Expr.carries_of_passes hpasses),
    fun op left right hexpr htest => ?_⟩
  rw [not_fails_iff]
  refine exists_congr fun v => ⟨fun h => h.1, fun hv => ⟨hv, ?_⟩⟩
  rw [hexpr, Formula.Expr.eval] at hv
  obtain ⟨a, -, hv⟩ := exists_of_bind_eq_ok hv
  obtain ⟨b, -, hv⟩ := exists_of_bind_eq_ok hv
  obtain ⟨truth, rfl⟩ := Formula.gives_bool htest a b v hv
  exact isValidResult_iff.1 rfl

/-- Fillings of a tank, the second of which has not been measured. -/
def fillings : Dataset where
  rows := [[("Litres", .int 40)], [("Tank", .text "B")], [("Litres", .int 3)]]
  columns := [⟨"Litres", "Litres", .number, none⟩, ⟨"Tank", "Tank", .string, none⟩]

/-- Twice the litres, rounded for large fillings. -/
def doubledLitres : ColumnRequest where
  name := "Doubled"
  formula := "[Litres] > 20 ? round(2 * [Litres]) : [Litres] + [Litres]"

/-- Whether a filling is large. -/
def isLargeFilling : ColumnRequest where
  name := "Large"
  formula := "[Litres] > 20"

/-- Both branches of the one formula carry the missing cell to its value, and the comparison that
the other one consists of does not. -/
theorem absent_cell_fails_fillings :
    (∃ fault, addColumn fillings doubledLitres = .ok (.error fault) ∧ 1 ≤ fault.row ∧
      fault.row ≤ 2) ∧
    ∃ c, compile isLargeFilling.formula fillings isLargeFilling.scalars = .ok (.ok c) ∧
      ∃ v, c.Computes [("Tank", .text "B")] v := by
  have hlitres : "Litres" ∈ fillings.columnIds := by decide
  have hrows : fillings.rows =
      [[("Litres", .int 40)]] ++ [("Tank", .text "B")] :: [[("Litres", .int 3)]] := rfl
  have habsent : List.lookup "Litres" [("Tank", Value.text "B")] = none := rfl
  have hunshadowed : Unshadowed fillings [] "Litres" :=
    ⟨fun scalar h => absurd h List.not_mem_nil, [], ["Tank"], by decide,
      fun y h => List.mem_singleton.1 h ▸ fun halike =>
        absurd (referenceName_eq_iff.2 halike) (by decide)⟩
  obtain ⟨c, hc, hpasses⟩ : ∃ c, compile doubledLitres.formula fillings doubledLitres.scalars =
      .ok (.ok c) ∧ c.expr.passes (referenceName "Litres") = true := ⟨_, rfl, rfl⟩
  obtain ⟨c', hc', left, right, hexpr, v, hv⟩ : ∃ c', compile isLargeFilling.formula fillings
      isLargeFilling.scalars = .ok (.ok c') ∧ ∃ left right,
        c'.expr = .binary .greater left right ∧
          ∃ v, c'.expr.eval (c'.scope [("Tank", .text "B")]) = .ok v := ⟨_, rfl, _, _, rfl, _, rfl⟩
  obtain ⟨-, hfails, -⟩ := absent_cell_fails (by decide) hc hlitres hunshadowed hrows habsent
  obtain ⟨-, -, htest⟩ := absent_cell_fails (by decide) hc' hlitres hunshadowed hrows habsent
  refine ⟨hfails hpasses, c', hc', ?_⟩
  exact (htest _ left right hexpr rfl).2 (hv ▸ not_fails_ok v)

end Worksheet.Table
