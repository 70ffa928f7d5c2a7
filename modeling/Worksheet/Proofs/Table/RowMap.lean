import Worksheet.Proofs.Keyed
import Worksheet.Proofs.Outcome
import Worksheet.Table.FormulaColumn

/-!
# Formula columns row by row

A formula column maps the rows one by one until one has no valid value.  Each row is evaluated in a
scope that is made of its own cells and of what is bound for the whole table, both as they were
before the operation, so that a row reads the old cells of a column even while that column is being
replaced.  The operation succeeds if every row has a value, and otherwise fails at the first row
that has none; a formula that cannot be read has a value in no row.
-/

namespace Worksheet.Table

variable {d : Dataset} {request : ColumnRequest} {c : Compiled} {row : Row} {rows : List Row}
  {v : Value} {index : Nat} {fault : TableFault}

/-- A value that may stand in a formula column: no list, no record, and nothing that is not a
number. -/
def Valid (v : Value) : Prop :=
  v.isCompound = false ∧ (∀ x, v = .float x → x.isNaN = false) ∧ ∀ mark, v ≠ .number (.nan mark)

lemma isValidResult_iff : isValidResult v = true ↔ Valid v := by
  cases v with
  | number x => cases x <;> simp [isValidResult, Valid, Value.isCompound]
  | _ => simp [isValidResult, Valid, Value.isCompound]

/-- A compiled formula has a valid value in the scope of a row. -/
def Compiled.Computes (c : Compiled) (row : Row) (v : Value) : Prop :=
  c.expr.eval (c.scope row) = .ok v ∧ Valid v

/-- What has been made of a formula computes a value in a row, which it never does if the formula
cannot be read. -/
def Computes (compiled : Except Formula.SyntaxFault Compiled) (row : Row) (v : Value) : Prop :=
  ∃ c, compiled = .ok c ∧ c.Computes row v

lemma computes_ok (c : Compiled) : Computes (.ok c) = c.Computes := by
  funext row v
  simp [Computes]

/-- A row that has come to hold its value under a name and has kept all else. -/
def HoldsValue (name : String) (value : Row → Value → Prop) (row made : Row) : Prop :=
  ∃ v, value row v ∧ made = Keyed.put row name v ∧ made.lookup name = some v ∧
    ∀ key, key ≠ name → made.lookup key = row.lookup key

/-- The outcome of a map over the rows of a dataset into one column that gives up at the first row
without a value. -/
structure RowMap (d : Dataset) (name : String) (value : Row → Value → Prop) (outcome : Outcome) :
    Prop where
  succeeds : (∃ success, outcome = .ok success) ↔ ∀ row ∈ d.rows, ∃ v, value row v
  rows : ∀ success, outcome = .ok success →
    List.Forall₂ (HoldsValue name value) d.rows success.dataset.rows
  columns : ∀ success, outcome = .ok success → ∃ column, column.id = name ∧ column.name = name ∧
    success.dataset.columns = (d.columns.filter fun old => old.id != name) ++ [column]
  fails : ∀ fault, outcome = .error fault → ∃ before row after, d.rows = before ++ row :: after ∧
    (∀ earlier ∈ before, ∃ v, value earlier v) ∧ (¬∃ v, value row v) ∧
      fault.row = before.length + 1

/-! ### One row -/

lemma evalRow_eq_ok_iff : c.evalRow index row = .ok v ↔ c.Computes row v := by
  rw [Compiled.evalRow, Compiled.Computes, ← isValidResult_iff]
  cases c.expr.eval (c.scope row) with
  | error fault => simp
  | ok w =>
    by_cases hw : isValidResult w = true
    · constructor
      · intro h
        obtain rfl : w = v := by simpa [hw] using h
        exact ⟨rfl, hw⟩
      · rintro ⟨h, -⟩
        obtain rfl := Except.ok.inj h
        exact if_pos hw
    · refine iff_of_false (by simp [hw]) ?_
      rintro ⟨h, hv⟩
      obtain rfl := Except.ok.inj h
      exact hw hv

lemma row_of_evalRow (h : c.evalRow index row = .error fault) : fault.row = index := by
  rw [Compiled.evalRow] at h
  split at h
  · obtain rfl := Except.error.inj h
    rfl
  · split at h
    · exact absurd h (by simp)
    · obtain rfl := Except.error.inj h
      rfl

/-! ### All rows -/

lemma evalRows_cons : c.evalRows index (row :: rows) =
    c.evalRow index row >>= fun v => (c.evalRows (index + 1) rows).map (v :: ·) := by
  rw [Compiled.evalRows]
  refine bind_congr fun v => ?_
  cases c.evalRows (index + 1) rows <;> rfl

/-- All rows have been evaluated when each of them has a value. -/
lemma evalRows_eq_ok_iff {cells : List Value} :
    c.evalRows index rows = .ok cells ↔ List.Forall₂ c.Computes rows cells := by
  induction rows generalizing index cells with
  | nil => simp [Compiled.evalRows, eq_comm]
  | cons row rows ih =>
    rw [evalRows_cons, List.forall₂_cons_left_iff]
    constructor
    · intro h
      obtain ⟨v, hv, h⟩ := exists_of_bind_eq_ok h
      cases hrest : c.evalRows (index + 1) rows with
      | error fault =>
        rw [hrest] at h
        exact absurd h (by simp [Except.map])
      | ok rest =>
        rw [hrest] at h
        exact ⟨v, rest, evalRow_eq_ok_iff.1 hv, ih.1 hrest, (Except.ok.inj h).symm⟩
    · rintro ⟨v, rest, hv, hrest, rfl⟩
      rw [evalRow_eq_ok_iff.2 hv]
      show (c.evalRows (index + 1) rows).map (v :: ·) = _
      rw [ih.2 hrest]
      rfl

/-- The evaluation of all rows fails as that of the first row does that has no value. -/
lemma evalRows_eq_error_iff : c.evalRows index rows = .error fault ↔
    ∃ before row after, rows = before ++ row :: after ∧
      (∀ earlier ∈ before, ∃ v, c.Computes earlier v) ∧
        c.evalRow (index + before.length) row = .error fault := by
  induction rows generalizing index with
  | nil => simp [Compiled.evalRows]
  | cons first rows ih =>
    rw [evalRows_cons, bind_eq_error_iff]
    constructor
    · rintro (hfirst | ⟨v, hv, hrest⟩)
      · exact ⟨[], first, rows, rfl, by simp, hfirst⟩
      · obtain ⟨before, row, after, rfl, hbefore, hrow⟩ := ih.1 (map_eq_error_iff.1 hrest)
        refine ⟨first :: before, row, after, rfl, ?_, ?_⟩
        · exact List.forall_mem_cons.2 ⟨⟨v, evalRow_eq_ok_iff.1 hv⟩, hbefore⟩
        · rwa [List.length_cons, ← Nat.add_assoc, Nat.add_right_comm]
    · rintro ⟨before, row, after, hsplit, hbefore, hrow⟩
      cases before with
      | nil =>
        obtain ⟨rfl, rfl⟩ := List.cons.inj hsplit
        exact Or.inl hrow
      | cons first' before =>
        obtain ⟨rfl, rfl⟩ := List.cons.inj hsplit
        obtain ⟨⟨v, hv⟩, hbefore⟩ := List.forall_mem_cons.1 hbefore
        refine Or.inr ⟨v, evalRow_eq_ok_iff.2 hv, map_eq_error_iff.2 (ih.2 ?_)⟩
        rw [List.length_cons, ← Nat.add_assoc, Nat.add_right_comm] at hrow
        exact ⟨before, row, after, rfl, hbefore, hrow⟩

/-! ### The operation -/

lemma addColumn_of_read (hvalid : validate request.formula request.name = none)
    (hcompile : compile request.formula d request.scalars = .ok (.ok c)) :
    addColumn d request =
      .ok ((c.evalRows 1 d.rows).map (request.finish d (request.derive d))) := by
  rw [addColumn, hvalid]
  show (compile request.formula d request.scalars >>= _) = _
  rw [hcompile]
  rfl

lemma addColumn_of_not_read {unread : Formula.SyntaxFault}
    (hvalid : validate request.formula request.name = none)
    (hcompile : compile request.formula d request.scalars = .ok (.error unread)) :
    addColumn d request = .ok (if d.rows.isEmpty then
      .ok (request.finish d (request.derive d) []) else .error (.badFormula unread)) := by
  rw [addColumn, hvalid]
  show (compile request.formula d request.scalars >>= _) = _
  rw [hcompile]
  show (if d.rows.isEmpty then _ else _) = _
  split <;> rfl

/-- Putting the computed cells into the rows changes them only under the new name. -/
lemma forall₂_finish {value : Row → Value → Prop} {cells : List Value} {derived : DerivedUnit}
    (h : List.Forall₂ value d.rows cells) :
    List.Forall₂ (HoldsValue request.name value) d.rows
      (request.finish d derived cells).dataset.rows := by
  have hrows : (request.finish d derived cells).dataset.rows =
      List.zipWith (fun row cell => Keyed.put row request.name cell) d.rows cells := rfl
  rw [hrows]
  clear hrows
  generalize d.rows = rows at h
  induction h with
  | nil => exact .nil
  | cons hvalue hrest ih =>
    refine .cons ⟨_, hvalue, rfl, Keyed.lookup_put_self _ _ _, fun key hkey => ?_⟩ ih
    exact Keyed.lookup_put_of_ne _ hkey _

lemma columns_finish (d : Dataset) (request : ColumnRequest) (derived : DerivedUnit)
    (cells : List Value) : ∃ column, column.id = request.name ∧ column.name = request.name ∧
      (request.finish d derived cells).dataset.columns =
        (d.columns.filter fun old => old.id != request.name) ++ [column] :=
  ⟨_, rfl, rfl, rfl⟩

lemma RowMap.of_success {name : String} {value : Row → Value → Prop} {success : Success}
    (hall : ∀ row ∈ d.rows, ∃ v, value row v)
    (hrows : List.Forall₂ (HoldsValue name value) d.rows success.dataset.rows)
    (hcolumns : ∃ column, column.id = name ∧ column.name = name ∧
      success.dataset.columns = (d.columns.filter fun old => old.id != name) ++ [column]) :
    RowMap d name value (.ok success) where
  succeeds := iff_of_true ⟨success, rfl⟩ hall
  rows := by
    intro success' h
    obtain rfl := Except.ok.inj h
    exact hrows
  columns := by
    intro success' h
    obtain rfl := Except.ok.inj h
    exact hcolumns
  fails := fun fault h => absurd h (by simp)

lemma RowMap.of_fault {name : String} {value : Row → Value → Prop} {before after : List Row}
    (hsplit : d.rows = before ++ row :: after) (hbefore : ∀ earlier ∈ before, ∃ v, value earlier v)
    (hnone : ¬∃ v, value row v) (hrow : fault.row = before.length + 1) :
    RowMap d name value (.error fault) where
  succeeds := iff_of_false (by simp) fun hall => hnone (hall row (by simp [hsplit]))
  rows := fun success h => absurd h (by simp)
  columns := fun success h => absurd h (by simp)
  fails := by
    intro fault' h
    obtain rfl := Except.error.inj h
    exact ⟨before, row, after, hsplit, hbefore, hnone, hrow⟩

/-- A formula that can be read is mapped over the rows. -/
lemma rowMap_evalRows (d : Dataset) (request : ColumnRequest) (c : Compiled) :
    RowMap d request.name (Computes (.ok c))
      ((c.evalRows 1 d.rows).map (request.finish d (request.derive d))) := by
  rw [computes_ok]
  cases hrows : c.evalRows 1 d.rows with
  | ok cells =>
    have hcells := evalRows_eq_ok_iff.1 hrows
    refine .of_success (fun row hrow => ?_) (forall₂_finish hcells) (columns_finish d request _ cells)
    obtain ⟨i, hi, rfl⟩ := List.mem_iff_getElem.1 hrow
    exact ⟨_, hcells.get hi (hcells.length_eq ▸ hi)⟩
  | error fault =>
    obtain ⟨before, row, after, hsplit, hbefore, hrow⟩ := evalRows_eq_error_iff.1 hrows
    refine .of_fault hsplit hbefore ?_ ?_
    · rintro ⟨v, hv⟩
      exact absurd (hrow.symm.trans (evalRow_eq_ok_iff.2 hv)) (by simp)
    · rw [row_of_evalRow hrow]
      omega

/-- A formula that cannot be read fails at the first row, if there is one. -/
lemma rowMap_not_read (d : Dataset) (request : ColumnRequest) (unread : Formula.SyntaxFault) :
    RowMap d request.name (Computes (.error unread)) (if d.rows.isEmpty then
      .ok (request.finish d (request.derive d) []) else .error (.badFormula unread)) := by
  cases hrows : d.rows with
  | nil =>
    refine .of_success (by simp [hrows]) (forall₂_finish ?_) (columns_finish d request _ [])
    rw [hrows]
    exact .nil
  | cons row rows =>
    refine .of_fault (show d.rows = [] ++ row :: rows from hrows) (by simp) ?_ rfl
    rintro ⟨v, c, hc, -⟩
    exact absurd hc (by simp)

/-- **A formula column is a map over the rows that fails at the first row without a value.**
Whatever the formula, the units, the single values and the name of the column are, also if the
formula reads the column that it replaces: unless compiling the formula breaks off, the operation
succeeds exactly if the formula has a valid value in the scope of every row. -/
theorem addColumn_rowMap {compiled : Except Formula.SyntaxFault Compiled}
    (hvalid : validate request.formula request.name = none)
    (hcompile : compile request.formula d request.scalars = .ok compiled) :
    ∃ outcome, addColumn d request = .ok outcome ∧
      RowMap d request.name (Computes compiled) outcome ∧
      ∀ unread, compiled = .error unread →
        (d.rows ≠ [] → ∃ fault, outcome = .error fault ∧ fault.row = 1) ∧
        (d.rows = [] → ∃ success, outcome = .ok success ∧ success.dataset.rows = []) := by
  cases compiled with
  | ok c =>
    exact ⟨_, addColumn_of_read hvalid hcompile, rowMap_evalRows d request c,
      fun unread h => absurd h (by simp)⟩
  | error unread =>
    refine ⟨_, addColumn_of_not_read hvalid hcompile, rowMap_not_read d request unread,
      fun _ _ => ⟨fun hrows => ?_, fun hrows => ?_⟩⟩
    · rw [if_neg (by simpa using hrows)]
      exact ⟨_, rfl, rfl⟩
    · rw [hrows]
      refine ⟨_, rfl, ?_⟩
      have hmade : (request.finish d (request.derive d) []).dataset.rows =
        List.zipWith (fun row cell => Keyed.put row request.name cell) d.rows [] := rfl
      rw [hmade, List.zipWith_nil_right]

/-- Readings, of which the second has its cells in another order. -/
def readings : Dataset where
  rows := [[("a", .int 1)], [("b", .text "x"), ("a", .int 4)]]
  columns := [⟨"a", "A", .number, some "m"⟩, ⟨"b", "b", .string, none⟩]

/-- Adds the least reading to each reading, in the place of the readings. -/
def aboveLeast : ColumnRequest where
  name := "a"
  formula := "[a] + $MIN_[a]"

/-- A formula that reads the column that it replaces has its old cells in every row. -/
theorem addColumn_rowMap_replacing :
    validate aboveLeast.formula aboveLeast.name = none ∧
    ∃ c success, compile aboveLeast.formula readings aboveLeast.scalars = .ok (.ok c) ∧
      addColumn readings aboveLeast = .ok (.ok success) ∧
      RowMap readings "a" (Computes (.ok c)) (.ok success) ∧
      success.dataset.rows = [[("a", .float 2.0)], [("b", .text "x"), ("a", .float 5.0)]] := by
  have hvalid : validate aboveLeast.formula aboveLeast.name = none := by decide
  obtain ⟨c, hcompile⟩ : ∃ c, compile aboveLeast.formula readings aboveLeast.scalars =
      .ok (.ok c) := ⟨_, rfl⟩
  obtain ⟨success, hsuccess, hrows⟩ : ∃ success, addColumn readings aboveLeast = .ok (.ok success) ∧
      success.dataset.rows = [[("a", .float 2.0)], [("b", .text "x"), ("a", .float 5.0)]] :=
    ⟨_, rfl, rfl⟩
  obtain ⟨outcome, houtcome, hmap, -⟩ := addColumn_rowMap hvalid hcompile
  obtain rfl := Except.ok.inj (houtcome.symm.trans hsuccess)
  exact ⟨hvalid, c, success, hcompile, hsuccess, hmap, hrows⟩

end Worksheet.Table
