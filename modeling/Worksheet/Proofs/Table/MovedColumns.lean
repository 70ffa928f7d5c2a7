import Worksheet.Proofs.Table.RowKeys

/-!
# Where columns move

A transform of columns decides by the name of a column what becomes of it: it is dropped, or it goes
on under a name.  Its cells and its description go there together, as long as no column is renamed
to the name of another one.  So each column that a list of transforms leaves is one of the columns
at the start, followed through the names it has had, with the same cells and the same type, and with
the unit that was last given to one of these names.
-/

namespace Worksheet.Table

variable {d now made : Dataset} {row : Row} {op : Operation} {operations : List Operation}
  {sources : Option (List Dataset)} {id : String}

/-- The transform works on the columns of one dataset. -/
def Operation.OnColumns : Operation → Prop
  | .combine _ => False
  | _ => True

/-- The name under which a column goes on; `none` if it is dropped. -/
def Operation.follow (id : String) : Operation → Option String
  | .delete dropped => if id = dropped then none else some id
  | .rename old newName => some (if id = old then newName else id)
  | .select wanted => if wanted.isEmpty || wanted.contains id then some id else none
  | .setUnit _ _ => some id
  | .combine _ => none

/-- The unit that a transform gives to a column. -/
def Operation.unitFor (id : String) : Operation → List (Option String)
  | .setUnit column unit => if id = column then [unit] else []
  | _ => []

/-- The name of a column after a list of transforms. -/
def follow (operations : List Operation) (id : String) : Option String :=
  operations.foldlM (fun id op => op.follow id) id

/-- The units that transforms give to a column, each under the name it has at that time. -/
def unitsGiven : List Operation → String → List (Option String)
  | [], _ => []
  | op :: operations, id => op.unitFor id ++ (op.follow id).elim [] (unitsGiven operations)

/-- An empty unit is none. -/
def cleared (unit : Option String) : Option String := unit.filter fun unit => !unit.isEmpty

/-- The description with which a column goes on. -/
def Operation.carry (column : Column) : Operation → Option Column
  | .delete dropped => if column.id = dropped then none else some column
  | .rename old newName =>
    some (if column.id = old then { column with id := newName, name := newName } else column)
  | .select wanted => if wanted.isEmpty || wanted.contains column.id then some column else none
  | .setUnit id unit =>
    some (if column.id = id then { column with unit := cleared unit } else column)
  | .combine _ => none

/-- The description of a column after a list of transforms. -/
def carry (operations : List Operation) (column : Column) : Option Column :=
  operations.foldlM (fun column op => op.carry column) column

/-! ### Descriptions -/

lemma map_id_carry (op : Operation) (column : Column) :
    (op.carry column).map Column.id = op.follow column.id := by
  cases op with
  | delete dropped =>
    simp only [Operation.carry, Operation.follow]
    split <;> rfl
  | rename old newName =>
    simp only [Operation.carry, Operation.follow, Option.map_some]
    split <;> rfl
  | select wanted =>
    simp only [Operation.carry, Operation.follow]
    split <;> rfl
  | setUnit id unit =>
    simp only [Operation.carry, Operation.follow, Option.map_some]
    split <;> rfl
  | combine inputs => rfl

/-- A description keeps its type, and a unit that a transform gives to it replaces the one it
had. -/
lemma type_unit_of_carry {column column' : Column} (h : op.carry column = some column') :
    column'.type = column.type ∧
      column'.unit = (op.unitFor column.id).getLast?.elim column.unit cleared := by
  cases op with
  | delete dropped =>
    simp only [Operation.carry, Option.ite_none_left_eq_some, Option.some.injEq] at h
    rw [← h.2]
    exact ⟨rfl, rfl⟩
  | rename old newName =>
    obtain rfl := Option.some.inj h
    split <;> exact ⟨rfl, rfl⟩
  | select wanted =>
    simp only [Operation.carry, Option.ite_none_right_eq_some, Option.some.injEq] at h
    rw [← h.2]
    exact ⟨rfl, rfl⟩
  | setUnit id unit =>
    obtain rfl := Option.some.inj h
    rw [Operation.unitFor]
    split <;> exact ⟨rfl, rfl⟩
  | combine inputs => exact absurd h (by simp [Operation.carry])

lemma map_id_carry_all (operations : List Operation) (column : Column) :
    (carry operations column).map Column.id = follow operations column.id := by
  induction operations generalizing column with
  | nil => rfl
  | cons op operations ih =>
    rw [carry, follow, List.foldlM_cons, List.foldlM_cons, ← map_id_carry]
    cases op.carry column with
    | none => rfl
    | some column' => exact ih column'

lemma type_unit_of_carry_all {column column' : Column}
    (h : carry operations column = some column') :
    column'.type = column.type ∧
      column'.unit = (unitsGiven operations column.id).getLast?.elim column.unit cleared := by
  induction operations generalizing column with
  | nil =>
    rw [← Option.some.inj h]
    exact ⟨rfl, rfl⟩
  | cons op operations ih =>
    rw [carry, List.foldlM_cons] at h
    obtain ⟨next, hnext, hrest⟩ := Option.bind_eq_some_iff.1 h
    have hname : op.follow column.id = some next.id := by
      rw [← map_id_carry, hnext]
      rfl
    obtain ⟨htype, hunit⟩ := type_unit_of_carry hnext
    obtain ⟨htypes, hunits⟩ := ih hrest
    refine ⟨htypes.trans htype, ?_⟩
    rw [hunits, hunit, unitsGiven, hname, Option.elim_some, List.getLast?_append]
    cases (unitsGiven operations next.id).getLast? <;> rfl

lemma filter_eq_filterMap {p : Column → Bool} {f : Column → Option Column}
    (h : ∀ column, f column = if p column = true then some column else none)
    (columns : List Column) : columns.filter p = columns.filterMap f := by
  rw [← List.filterMap_eq_filter]
  refine List.filterMap_congr fun column _ => ?_
  rw [h, Option.guard_apply]

lemma map_eq_filterMap {f : Column → Column} {g : Column → Option Column}
    (h : ∀ column, g column = some (f column)) (columns : List Column) :
    columns.map f = columns.filterMap g := by
  rw [← List.filterMap_eq_map]
  exact List.filterMap_congr fun column _ => (h column).symm

/-- A transform of columns decides on each description for itself. -/
lemma columns_of_apply (hop : op.OnColumns) (hmade : op.apply sources d = .ok made) :
    made.columns = d.columns.filterMap fun column => op.carry column := by
  cases op with
  | delete dropped =>
    obtain rfl := Except.ok.inj hmade
    refine filter_eq_filterMap (fun column => ?_) _
    by_cases h : column.id = dropped <;> simp [Operation.carry, h]
  | rename old newName =>
    obtain rfl := Except.ok.inj hmade
    refine map_eq_filterMap (fun column => ?_) _
    by_cases h : column.id = old <;> simp [Operation.carry, h]
  | select wanted =>
    obtain rfl := Except.ok.inj hmade
    by_cases hempty : wanted.isEmpty = true
    · simp [selectColumns, Operation.carry, hempty]
    · rw [selectColumns, if_neg hempty]
      refine filter_eq_filterMap (fun column => ?_) _
      simp [Operation.carry, hempty]
  | setUnit id unit =>
    obtain rfl := Except.ok.inj hmade
    refine map_eq_filterMap (fun column => ?_) _
    by_cases h : column.id = id <;> simp [Operation.carry, cleared, h]
  | combine inputs => exact absurd hop not_false

lemma columnIds_of_apply (hop : op.OnColumns) (hmade : op.apply sources d = .ok made) :
    made.columnIds = d.columnIds.filterMap fun id => op.follow id := by
  rw [Dataset.columnIds, columns_of_apply hop hmade, List.map_filterMap, Dataset.columnIds,
    List.filterMap_map]
  exact List.filterMap_congr fun column _ => map_id_carry op column

/-! ### Cells -/

lemma lookup_filterMap (names : List String) (f : String → Option Value) (id : String) :
    (names.filterMap fun name => (f name).map fun v => (name, v)).lookup id =
      if id ∈ names then f id else none := by
  induction names with
  | nil => rfl
  | cons name names ih =>
    rw [List.filterMap_cons]
    cases hname : f name with
    | none =>
      rw [Option.map_none, ih]
      by_cases h : id = name
      · subst h
        simp [hname]
      · simp [h]
    | some v =>
      rw [Option.map_some, Keyed.lookup_cons_ite, ih]
      by_cases h : id = name
      · subst h
        simp [hname]
      · simp [h]

lemma lookup_selectCells (row : Row) (order : List String) (id : String) :
    (selectCells row order).lookup id = if id ∈ order then row.lookup id else none := by
  rw [selectCells, Keyed.lookup_ofPairs, ← List.filterMap_reverse, lookup_filterMap]
  simp only [List.mem_reverse]

lemma mem_selectedOrder_iff {wanted : List String} : id ∈ selectedOrder d wanted ↔ id ∈ wanted := by
  refine ⟨mem_selectedOrder, fun h => ?_⟩
  by_cases hknown : id ∈ d.columnIds.filter wanted.contains
  · exact List.mem_append_left _ hknown
  · refine List.mem_append_right _ (List.mem_filter.2 ⟨?_, decide_eq_true hknown⟩)
    exact Keyed.mem_distinct.2 h

/-- A renamed cell is found under its new name, unless the row has no such cell. -/
lemma lookup_renameCell (row : Row) (old newName id : String) :
    (renameCell row old newName).lookup id =
      if (row.lookup old).isSome then
        if id = newName then row.lookup old else if id = old then none else row.lookup id
      else row.lookup id := by
  unfold renameCell
  cases row.lookup old with
  | none => rfl
  | some v =>
    rw [Keyed.lookup_put, Keyed.lookup_erase]
    rfl

/-- The cells of one row are those of another one, each under the name with which its column goes
on. -/
def CellsFollow (step : String → Option String) (ids : List String) (row row' : Row) : Prop :=
  ∀ id ∈ ids, ∀ name, step id = some name → row'.lookup name = row.lookup id

lemma cellsFollow_renameCell {old newName : String} (hrow : Keyed.keys row ⊆ d.columnIds)
    (hfresh : ¬(old ∈ d.columnIds ∧ newName ≠ old ∧ newName ∈ d.columnIds)) :
    CellsFollow (fun id => (Operation.rename old newName).follow id) d.columnIds row
      (renameCell row old newName) := by
  intro id hid name hname
  obtain rfl := Option.some.inj hname
  rw [lookup_renameCell]
  by_cases hold : (row.lookup old).isSome
  · -- the renamed cell makes way for none of the others
    have hmem : old ∈ d.columnIds := hrow (Keyed.mem_keys_iff.2 hold)
    rw [if_pos hold]
    by_cases heq : id = old
    · rw [if_pos heq, if_pos rfl, heq]
    · have hne : id ≠ newName := by
        rintro rfl
        exact hfresh ⟨hmem, heq, hid⟩
      rw [if_neg heq, if_neg hne, if_neg heq]
  · rw [if_neg hold]
    by_cases heq : id = old
    · -- neither is there a cell under the new name
      have hnone : row.lookup old = none := Option.not_isSome_iff_eq_none.1 hold
      rw [if_pos heq, heq, hnone]
      by_contra hcell
      have hnew : newName ∈ d.columnIds :=
        hrow (Keyed.mem_keys_iff.2 (Option.isSome_iff_ne_none.2 hcell))
      refine hfresh ⟨heq ▸ hid, ?_, hnew⟩
      rintro rfl
      exact hcell hnone
    · rw [if_neg heq]

lemma cells_of_apply (hkeys : KeysDescribed d) (hfresh : ¬RenamesOnto (sources.getD [d]) d op)
    (hop : op.OnColumns) (hmade : op.apply sources d = .ok made) :
    List.Forall₂ (CellsFollow (fun id => op.follow id) d.columnIds) d.rows made.rows := by
  cases op with
  | delete dropped =>
    obtain rfl := Except.ok.inj hmade
    refine List.forall₂_map_right_iff.2 (List.forall₂_same.2 fun row _ id _ name hname => ?_)
    simp only [Operation.follow, Option.ite_none_left_eq_some, Option.some.injEq] at hname
    obtain ⟨hne, rfl⟩ := hname
    rw [Keyed.lookup_erase, if_neg hne]
  | rename old newName =>
    obtain rfl := Except.ok.inj hmade
    refine List.forall₂_map_right_iff.2 (List.forall₂_same.2 fun row hrow => ?_)
    exact cellsFollow_renameCell (hkeys row hrow) hfresh
  | select wanted =>
    obtain rfl := Except.ok.inj hmade
    by_cases hempty : wanted.isEmpty = true
    · rw [selectColumns, if_pos hempty]
      refine List.forall₂_same.2 fun row _ id _ name hname => ?_
      simp only [Operation.follow, hempty, Bool.true_or, if_true, Option.some.injEq] at hname
      rw [hname]
    · rw [selectColumns, if_neg hempty]
      refine List.forall₂_map_right_iff.2 (List.forall₂_same.2 fun row _ id _ name hname => ?_)
      simp only [Operation.follow, hempty, Bool.false_or, Option.ite_none_right_eq_some,
        Option.some.injEq] at hname
      obtain ⟨hwanted, rfl⟩ := hname
      rw [lookup_selectCells, if_pos (mem_selectedOrder_iff.2 (List.contains_iff_mem.1 hwanted))]
  | setUnit column unit =>
    obtain rfl := Except.ok.inj hmade
    refine List.forall₂_same.2 fun row _ id _ name hname => ?_
    rw [Option.some.inj hname]
  | combine inputs => exact absurd hop not_false

lemma forall₂_comp {α β γ : Type} {R : α → β → Prop} {S : β → γ → Prop} {T : α → γ → Prop}
    (hcomp : ∀ a b c, R a b → S b c → T a c) {l : List α} {l' : List β} {l'' : List γ}
    (h : List.Forall₂ R l l') (h' : List.Forall₂ S l' l'') : List.Forall₂ T l l'' := by
  induction h generalizing l'' with
  | nil =>
    cases h'
    exact .nil
  | cons hfirst _ ih =>
    cases h' with
    | cons hfirst' hrest' => exact .cons (hcomp _ _ _ hfirst hfirst') (ih hrest')

/-! ### What lists of transforms make -/

/-- What a list of transforms of columns makes: descriptions and cells that go on under the same
names, and a dataset to which the next transform can be applied. -/
structure Carried (operations : List Operation) (d made : Dataset) : Prop where
  columns : made.columns = d.columns.filterMap (carry operations)
  cells : List.Forall₂ (CellsFollow (follow operations) d.columnIds) d.rows made.rows
  nodup : made.columnIds.Nodup
  described : KeysDescribed made

namespace Carried

lemma columnIds (h : Carried operations d made) :
    made.columnIds = d.columnIds.filterMap (follow operations) := by
  rw [Dataset.columnIds, h.columns, List.map_filterMap, Dataset.columnIds, List.filterMap_map]
  exact List.filterMap_congr fun column _ => map_id_carry_all operations column

lemma refl (hids : d.columnIds.Nodup) (hkeys : KeysDescribed d) : Carried [] d d where
  columns := (List.filterMap_some (l := d.columns)).symm
  cells := List.forall₂_same.2 fun row _ id _ name hname => by rw [Option.some.inj hname]
  nodup := hids
  described := hkeys

/-- One transform before the others. -/
lemma cons (hkeys : KeysDescribed d) (hop : op.OnColumns)
    (hfresh : ¬RenamesOnto (sources.getD [d]) d op) (hnow : op.apply sources d = .ok now)
    (h : Carried operations now made) : Carried (op :: operations) d made where
  columns := by
    rw [h.columns, columns_of_apply hop hnow, List.filterMap_filterMap]
    rfl
  cells := by
    refine forall₂_comp (fun row middle row' hfirst hrest id hid name hname => ?_)
      (cells_of_apply hkeys hfresh hop hnow) h.cells
    rw [follow, List.foldlM_cons] at hname
    obtain ⟨between, hbetween, hname⟩ := Option.bind_eq_some_iff.1 hname
    have hmem : between ∈ now.columnIds := by
      rw [columnIds_of_apply hop hnow]
      exact List.mem_filterMap.2 ⟨id, hid, hbetween⟩
    rw [hrest between hmem name hname, hfirst id hid between hbetween]
  nodup := h.nodup
  described := h.described

end Carried

/-- Transforms of columns that rename none of them to another one have a result, whatever they are
applied to. -/
lemma exists_carried (hids : d.columnIds.Nodup) (hkeys : KeysDescribed d)
    (hops : ∀ op ∈ operations, op.OnColumns)
    (hfresh : ¬(Step.transform d operations sources).Meets RenamesOnto) :
    ∃ made, transform d operations sources = changed made ∧ Carried operations d made := by
  induction operations generalizing d with
  | nil => exact ⟨d, rfl, .refl hids hkeys⟩
  | cons op operations ih =>
    obtain ⟨hop, hops⟩ := List.forall_mem_cons.1 hops
    obtain ⟨now, hnow⟩ : ∃ now, op.apply sources d = .ok now := by
      cases op with
      | combine inputs => exact absurd hop not_false
      | _ => exact ⟨_, rfl⟩
    rw [meets_cons_iff hnow, not_or] at hfresh
    have hkeys' : KeysDescribed now := by
      refine (keysDescribed_apply_iff hkeys hnow).2 ?_
      cases op with
      | combine inputs => exact absurd hop not_false
      | _ => exact not_false
    obtain ⟨made, hmade, hcarried⟩ :=
      ih ((nodup_apply_iff hids hnow).2 hfresh.1) hkeys' hops hfresh.2
    refine ⟨made, ?_, hcarried.cons hkeys hop hfresh.1 hnow⟩
    rw [transform_cons hnow, hmade]

/-! ### Where a column comes from -/

/-- Of several names that go on under one name there is only one if the names that go on are
distinct. -/
lemma eq_of_nodup_filterMap {step : String → Option String} {ids : List String}
    (h : (ids.filterMap step).Nodup) {a b name : String} (ha : a ∈ ids) (hb : b ∈ ids)
    (hstepa : step a = some name) (hstepb : step b = some name) : a = b := by
  have hsymm : Std.Symm fun a b => ∀ x, step a = some x → ∀ y, step b = some y → x ≠ y :=
    ⟨fun _ _ h x hx y hy heq => h y hy x hx heq.symm⟩
  by_contra hne
  exact (List.pairwise_filterMap.1 h).forall ha hb hne name hstepa name hstepb rfl

/-- The column that goes on under a name, as it was called at the start. -/
def sourceOf (operations : List Operation) (ids : List String) (name : String) : String :=
  (ids.find? fun id => follow operations id == some name).getD name

lemma sourceOf_eq {ids : List String} {name : String}
    (h : (ids.filterMap (follow operations)).Nodup) (hid : id ∈ ids)
    (hname : follow operations id = some name) : sourceOf operations ids name = id := by
  have hsome : (ids.find? fun id => follow operations id == some name).isSome :=
    List.find?_isSome.2 ⟨id, hid, beq_iff_eq.2 hname⟩
  obtain ⟨found, hfound⟩ := Option.isSome_iff_exists.1 hsome
  have hfollow : follow operations found = some name := by
    have hbeq := List.find?_some hfound
    exact beq_iff_eq.1 hbeq
  rw [sourceOf, hfound, Option.getD_some]
  exact eq_of_nodup_filterMap h (List.mem_of_find?_eq_some hfound) hid hfollow hname

lemma map_sublist_of_filterMap {step : String → Option String} {source : String → String}
    {ids : List String} (h : ∀ id ∈ ids, ∀ name, step id = some name → source name = id) :
    ((ids.filterMap step).map source).Sublist ids := by
  induction ids with
  | nil => exact .slnil
  | cons id ids ih =>
    rw [List.forall_mem_cons] at h
    rw [List.filterMap_cons]
    cases hstep : step id with
    | none => exact (ih h.2).cons id
    | some name =>
      rw [List.map_cons, h.1 name hstep]
      exact (ih h.2).cons_cons id

lemma column?_of_mem {column : Column} (hids : d.columnIds.Nodup) (h : column ∈ d.columns) :
    d.column? column.id = some column := by
  obtain ⟨found, hfound⟩ := exists_column?_iff.2 (List.mem_map_of_mem (f := Column.id) h)
  rw [hfound]
  exact congrArg some (List.inj_on_of_nodup_map hids (List.mem_of_find?_eq_some hfound) h
    (id_of_column? hfound))

/-- The columns of a dataset are columns of another one, which a list of transforms has moved:
`source` tells for each where it comes from. -/
structure Moved (operations : List Operation) (d made : Dataset) (source : String → String) :
    Prop where
  survivors : made.columnIds = d.columnIds.filterMap (follow operations)
  follow_source : ∀ id ∈ made.columnIds, follow operations (source id) = some id
  injective : ∀ id ∈ made.columnIds, ∀ other ∈ made.columnIds, source id = source other → id = other
  order : (made.columnIds.map source).Sublist d.columnIds
  described : KeysDescribed made
  row_count : made.rows.length = d.rows.length
  cells : ∀ (n : Nat) (row row' : Row), d.rows[n]? = some row → made.rows[n]? = some row' →
    ∀ id ∈ made.columnIds, row'.lookup id = row.lookup (source id)
  descriptions : ∀ id ∈ made.columnIds, ∃ column column', d.column? (source id) = some column ∧
    made.column? id = some column' ∧ column'.type = column.type ∧
    column'.unit = (unitsGiven operations (source id)).getLast?.elim column.unit cleared

lemma Carried.moved (h : Carried operations d made) (hids : d.columnIds.Nodup) :
    Moved operations d made (sourceOf operations d.columnIds) := by
  have hsource {id name : String} (hid : id ∈ d.columnIds)
      (hname : follow operations id = some name) :
      sourceOf operations d.columnIds name = id := sourceOf_eq (h.columnIds ▸ h.nodup) hid hname
  have hfrom {name : String} (hname : name ∈ made.columnIds) :
      ∃ id ∈ d.columnIds, follow operations id = some name := by
    rw [h.columnIds] at hname
    exact List.mem_filterMap.1 hname
  have hfollow : ∀ name ∈ made.columnIds,
      follow operations (sourceOf operations d.columnIds name) = some name := by
    intro name hname
    obtain ⟨id, hid, hstep⟩ := hfrom hname
    rw [hsource hid hstep, hstep]
  refine ⟨h.columnIds, hfollow, ?_, ?_, h.described, h.cells.length_eq.symm, ?_, ?_⟩
  · intro name hname other hother heq
    have hstep := hfollow name hname
    rw [heq, hfollow other hother] at hstep
    exact (Option.some.inj hstep).symm
  · rw [h.columnIds]
    exact map_sublist_of_filterMap fun id hid name hstep => hsource hid hstep
  · intro n row row' hrow hrow' name hname
    obtain ⟨id, hid, hstep⟩ := hfrom hname
    obtain ⟨hn, rfl⟩ := List.getElem?_eq_some_iff.1 hrow
    obtain ⟨hn', rfl⟩ := List.getElem?_eq_some_iff.1 hrow'
    rw [hsource hid hstep]
    exact h.cells.get hn hn' id hid name hstep
  · intro name hname
    obtain ⟨column', hmem', rfl⟩ := List.mem_map.1 hname
    have hcolumns := h.columns
    rw [hcolumns] at hmem'
    obtain ⟨column, hmem, hcarry⟩ := List.mem_filterMap.1 hmem'
    have hstep : follow operations column.id = some column'.id := by
      rw [← map_id_carry_all, hcarry]
      rfl
    rw [hsource (List.mem_map_of_mem hmem) hstep]
    exact ⟨column, column', column?_of_mem hids hmem, column?_of_mem h.nodup (hcolumns ▸ hmem'),
      type_unit_of_carry_all hcarry⟩

/-- **Where columns move.**  Transforms of the columns of a dataset with distinct column ids, whose
rows have no other keys, succeed if none of them renames a column to the name of another one.  Each
column that is left is one of the columns at the start, in their order and no two the same one,
followed through its names: every row has the cell of that column or has none as the row had before,
the type is that of the column, and so is the unit unless a transform gave one to the column under
the name it had then; the last of these counts, and an empty one is none. -/
theorem moved_of_transform (hids : d.columnIds.Nodup) (hkeys : KeysDescribed d)
    (hops : ∀ op ∈ operations, op.OnColumns)
    (hfresh : ¬(Step.transform d operations sources).Meets RenamesOnto) :
    ∃ made source, transform d operations sources = changed made ∧
      Moved operations d made source := by
  obtain ⟨made, hmade, hcarried⟩ := exists_carried hids hkeys hops hfresh
  exact ⟨made, _, hmade, hcarried.moved hids⟩

/-- A dataset of three columns with cells that are missing. -/
def samples : Dataset :=
  ⟨[[("note", .text "wet"), ("mass", .number (.int 5))],
      [("mass", .number (.int 7)), ("age", .number (.int 2))]],
    [⟨"note", "Note", .string, none⟩, ⟨"mass", "Mass", .number, some "g"⟩,
      ⟨"age", "Age", .number, some "s"⟩]⟩

/-- Transforms that use the name of a dropped column for another one and rename that again. -/
def weighing : List Operation :=
  [.delete "note", .rename "mass" "note", .setUnit "note" (some "kg"), .rename "note" "weight",
    .select ["age", "weight"], .setUnit "age" (some "")]

/-- The samples keep a column of weights and one of ages. -/
theorem moved_of_transform_weighing :
    samples.columnIds.Nodup ∧ KeysDescribed samples ∧ (∀ op ∈ weighing, op.OnColumns) ∧
      ¬(Step.transform samples weighing none).Meets RenamesOnto ∧
      ∃ made source, transform samples weighing none = changed made ∧
        made.columnIds = ["weight", "age"] ∧ Moved weighing samples made source := by
  have hids : samples.columnIds.Nodup := by decide
  have hkeys : KeysDescribed samples := by
    unfold KeysDescribed
    decide
  have hops : ∀ op ∈ weighing, op.OnColumns := by simp [weighing, Operation.OnColumns]
  have hfresh : ¬(Step.transform samples weighing none).Meets RenamesOnto := by
    unfold weighing
    rw [meets_cons_iff rfl, meets_cons_iff rfl, meets_cons_iff rfl, meets_cons_iff rfl,
      meets_cons_iff rfl, meets_cons_iff rfl]
    simp only [RenamesOnto, not_meets_nil, or_false, false_or]
    decide
  obtain ⟨made, source, hmade, hmoved⟩ := moved_of_transform hids hkeys hops hfresh
  refine ⟨hids, hkeys, hops, hfresh, made, source, hmade, ?_, hmoved⟩
  rw [hmoved.survivors]
  decide

end Worksheet.Table
