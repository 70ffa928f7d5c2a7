import Mathlib.Order.MinMax
import Worksheet.Proofs.Table.SchemaIds

/-!
# Row keys

The keys of the rows are described by the schema as long as an operation that brings in a key also
brings in a description.  A formula column and a join do so, a join even for a column that its
lookup dataset does not describe.  A combination makes cells for every column that it lists, and
descriptions only for those that its sources describe.
-/

namespace Worksheet.Table

/-- The schema describes every key of every row. -/
def KeysDescribed (d : Dataset) : Prop := ∀ row ∈ d.rows, Keyed.keys row ⊆ d.columnIds

variable {d : Dataset}

/-! ### Operations on one dataset -/

lemma keysDescribed_withColumn (h : KeysDescribed d) (column : Column) (cells : List Value) :
    KeysDescribed (withColumn d column cells) := by
  intro row hrow key hkey
  rw [columnIds_withColumn, List.mem_append, List.mem_filter, List.mem_singleton, bne_iff_ne]
  by_cases hid : key = column.id
  · exact Or.inr hid
  · rw [withColumn, ← List.map_uncurry_zip_eq_zipWith, List.mem_map] at hrow
    obtain ⟨⟨old, cell⟩, hpair, rfl⟩ := hrow
    have hold := (Keyed.mem_keys_put.1 hkey).resolve_right hid
    exact Or.inl ⟨h old (List.of_mem_zip hpair).1 hold, hid⟩

lemma keysDescribed_deleteColumn (h : KeysDescribed d) (id : String) :
    KeysDescribed (deleteColumn d id) := by
  intro row hrow key hkey
  obtain ⟨old, hold, rfl⟩ := List.mem_map.1 hrow
  obtain ⟨hkey, hne⟩ := Keyed.mem_keys_erase.1 hkey
  rw [columnIds_deleteColumn, List.mem_filter, bne_iff_ne]
  exact ⟨h old hold hkey, hne⟩

lemma mem_keys_renameCell {row : Row} {id newName key : String} :
    key ∈ Keyed.keys (renameCell row id newName) ↔
      (key ∈ Keyed.keys row ∧ key ≠ id) ∨ (id ∈ Keyed.keys row ∧ key = newName) := by
  have hid : id ∈ Keyed.keys row ↔ (row.lookup id).isSome := Keyed.mem_keys_iff
  unfold renameCell
  cases hcell : row.lookup id with
  | some v =>
    have hmem : id ∈ Keyed.keys row := by rw [hid, hcell]; rfl
    rw [Keyed.mem_keys_put, Keyed.mem_keys_erase, and_iff_right hmem]
  | none =>
    have hfree : id ∉ Keyed.keys row := by rw [hid, hcell]; simp
    constructor
    · exact fun hkey => Or.inl ⟨hkey, fun heq => hfree (heq ▸ hkey)⟩
    · rintro (⟨hkey, -⟩ | ⟨hmem, -⟩)
      · exact hkey
      · exact absurd hmem hfree

lemma keysDescribed_renameColumn (h : KeysDescribed d) (id newName : String) :
    KeysDescribed (renameColumn d id newName) := by
  intro row hrow key hkey
  obtain ⟨old, hold, rfl⟩ := List.mem_map.1 hrow
  rw [columnIds_renameColumn, List.mem_map]
  obtain ⟨hkey, hne⟩ | ⟨hid, rfl⟩ := mem_keys_renameCell.1 hkey
  · exact ⟨key, h old hold hkey, if_neg hne⟩
  · exact ⟨id, h old hold hid, if_pos rfl⟩

lemma mem_keys_selectCells {row : Row} {order : List String} {key : String} :
    key ∈ Keyed.keys (selectCells row order) ↔ key ∈ order ∧ key ∈ Keyed.keys row := by
  rw [selectCells, Keyed.mem_keys_ofPairs, Keyed.mem_keys_iff, List.mem_map]
  constructor
  · rintro ⟨pair, hpair, rfl⟩
    obtain ⟨id, hid, hcell⟩ := List.mem_filterMap.1 hpair
    obtain ⟨v, hv, rfl⟩ := Option.map_eq_some_iff.1 hcell
    exact ⟨hid, Option.isSome_iff_exists.2 ⟨v, hv⟩⟩
  · rintro ⟨hid, hcell⟩
    obtain ⟨v, hv⟩ := Option.isSome_iff_exists.1 hcell
    exact ⟨(key, v), List.mem_filterMap.2 ⟨key, hid, by rw [hv]; rfl⟩, rfl⟩

lemma mem_selectedOrder {wanted : List String} {id : String} (h : id ∈ selectedOrder d wanted) :
    id ∈ wanted := by
  rw [selectedOrder, List.mem_append, List.mem_filter, List.mem_filter, Keyed.mem_distinct] at h
  obtain ⟨-, hid⟩ | ⟨hid, -⟩ := h
  · simpa using hid
  · exact hid

lemma keysDescribed_selectColumns (h : KeysDescribed d) (wanted : List String) :
    KeysDescribed (selectColumns d wanted) := by
  cases hempty : wanted.isEmpty with
  | true => rwa [selectColumns, if_pos hempty]
  | false =>
    intro row hrow key hkey
    rw [columnIds_selectColumns hempty, List.mem_filter]
    rw [selectColumns, if_neg (by simp [hempty])] at hrow
    obtain ⟨old, hold, rfl⟩ := List.mem_map.1 hrow
    obtain ⟨horder, hkey⟩ := mem_keys_selectCells.1 hkey
    exact ⟨h old hold hkey, by simpa using mem_selectedOrder horder⟩

/-! ### Joins -/

lemma keys_joinRow (targets : List (String × String)) (partner : Option Row) (row : Row) :
    Keyed.keys (joinRow targets partner row) =
      (targets.map Prod.snd).foldl Keyed.withName (Keyed.keys row) := by
  rw [List.foldl_map, joinRow]
  refine (List.foldl_hom Keyed.keys fun row pair => ?_).symm
  exact (Keyed.keys_put row pair.2 _).symm

/-- Rows and schema of a join get the same targets. -/
lemma keysDescribed_join {main lookup made : Dataset} {keys : JoinKeys} (h : KeysDescribed main)
    (hmade : join main lookup keys = changed made) : KeysDescribed made := by
  rw [dataset_of_join hmade]
  intro row hrow key hkey
  obtain ⟨old, hold, rfl⟩ := List.mem_map.1 hrow
  rw [keys_joinRow, Keyed.mem_foldl_withName] at hkey
  rw [Dataset.columnIds, ids_joinColumns, Keyed.mem_foldl_withName]
  exact hkey.imp_left fun hkey => h old hold hkey

/-! ### Combinations -/

section Combine

variable {sources : List Dataset} {inputs : List CombineInput}

/-- Some input of the combination lists the column, and none that does has a source describing
it. -/
def Undescribed (sources : List Dataset) (inputs : List CombineInput) (id : String) : Prop :=
  (∃ input ∈ inputs, id ∈ input.columns) ∧
    ∀ input ∈ inputs, id ∈ input.columns →
      ∀ source, sources[input.source]? = some source → id ∉ source.columnIds

lemma mem_keys_combineRow {index : Nat} {key : String} :
    key ∈ Keyed.keys (combineRow sources inputs index) ↔ ∃ input ∈ inputs, key ∈ input.columns := by
  rw [combineRow, Keyed.mem_keys_ofPairs, List.mem_map]
  constructor
  · rintro ⟨pair, hpair, rfl⟩
    obtain ⟨input, hinput, hpair⟩ := List.mem_flatMap.1 hpair
    obtain ⟨id, hid, rfl⟩ := List.mem_map.1 hpair
    exact ⟨input, hinput, hid⟩
  · rintro ⟨input, hinput, hkey⟩
    exact ⟨_, List.mem_flatMap.2 ⟨input, hinput, List.mem_map_of_mem hkey⟩, rfl⟩

lemma id_of_column? {id : String} {column : Column} (h : d.column? id = some column) :
    column.id = id := by
  simpa using List.find?_some h

lemma exists_column?_iff {id : String} : (∃ column, d.column? id = some column) ↔
    id ∈ d.columnIds := by
  rw [← Option.isSome_iff_exists, Dataset.column?, List.find?_isSome, Dataset.columnIds,
    List.mem_map]
  simp

lemma mem_ids_combineColumns {id : String} :
    id ∈ (combineColumns sources inputs).map Column.id ↔
      ∃ input ∈ inputs, id ∈ input.columns ∧
        ∃ source, sources[input.source]? = some source ∧ id ∈ source.columnIds := by
  rw [ids_combineColumns, Keyed.mem_distinct, List.mem_map]
  constructor
  · rintro ⟨column, hcolumn, rfl⟩
    obtain ⟨input, hinput, hcolumn⟩ := List.mem_flatMap.1 hcolumn
    obtain ⟨id, hid, hcolumn⟩ := List.mem_filterMap.1 hcolumn
    obtain ⟨source, hsource, hcolumn⟩ := Option.bind_eq_some_iff.1 hcolumn
    rw [id_of_column? hcolumn]
    exact ⟨input, hinput, hid, source, hsource, exists_column?_iff.1 ⟨column, hcolumn⟩⟩
  · rintro ⟨input, hinput, hid, source, hsource, hmem⟩
    obtain ⟨column, hcolumn⟩ := exists_column?_iff.2 hmem
    refine ⟨column, List.mem_flatMap.2 ⟨input, hinput, ?_⟩, id_of_column? hcolumn⟩
    exact List.mem_filterMap.2 ⟨id, hid, Option.bind_eq_some_iff.2 ⟨source, hsource, hcolumn⟩⟩

lemma lt_foldl_max_iff {n start : Nat} : n < sources.foldl (fun n d => max n d.rows.length) start ↔
    n < start ∨ ∃ source ∈ sources, n < source.rows.length := by
  induction sources generalizing start with
  | nil => simp
  | cons source sources ih =>
    rw [List.foldl_cons, ih, lt_max_iff, or_assoc]
    simp

lemma longest_pos_iff : 0 < longest sources ↔ ∃ source ∈ sources, source.rows ≠ [] := by
  rw [longest, lt_foldl_max_iff]
  simp [List.length_pos_iff]

lemma keysDescribed_combine_iff {made : Dataset} (hmade : combine sources inputs = .ok made) :
    KeysDescribed made ↔
      ¬((∃ source ∈ sources, source.rows ≠ []) ∧ ∃ id, Undescribed sources inputs id) := by
  obtain ⟨-, rfl⟩ := combine_eq_ok_iff.1 hmade
  rw [← longest_pos_iff]
  constructor
  · rintro h ⟨hpos, id, hlisted, hfree⟩
    have hkey : id ∈ Keyed.keys (combineRow sources inputs 0) := mem_keys_combineRow.2 hlisted
    have hrow : combineRow sources inputs 0 ∈
        (List.range (longest sources)).map (combineRow sources inputs) :=
      List.mem_map_of_mem (List.mem_range.2 hpos)
    obtain ⟨input, hinput, hid, source, hsource, hmem⟩ :=
      mem_ids_combineColumns.1 (h _ hrow hkey)
    exact hfree input hinput hid source hsource hmem
  · intro hnone row hrow key hkey
    obtain ⟨index, hindex, rfl⟩ := List.mem_map.1 hrow
    have hpos : 0 < longest sources := Nat.zero_lt_of_lt (List.mem_range.1 hindex)
    refine mem_ids_combineColumns.2 ?_
    by_contra hfree
    refine hnone ⟨hpos, key, mem_keys_combineRow.1 hkey, ?_⟩
    exact fun input hinput hid source hsource hmem =>
      hfree ⟨input, hinput, hid, source, hsource, hmem⟩

end Combine

/-! ### Sessions -/

/-- The transform combines sources some of which have rows, and lists a column that none of the
inputs listing it has a description of. -/
def LeavesUndescribed (sources : List Dataset) (_ : Dataset) : Operation → Prop
  | .combine inputs =>
    (∃ source ∈ sources, source.rows ≠ []) ∧ ∃ id, Undescribed sources inputs id
  | _ => False

lemma keysDescribed_apply_iff {sources : Option (List Dataset)} {op : Operation} {made : Dataset}
    (h : KeysDescribed d) (hmade : op.apply sources d = .ok made) :
    KeysDescribed made ↔ ¬LeavesUndescribed (sources.getD [d]) d op := by
  cases op with
  | delete id =>
    obtain rfl := Except.ok.inj hmade
    exact iff_of_true (keysDescribed_deleteColumn h id) not_false
  | rename id newName =>
    obtain rfl := Except.ok.inj hmade
    exact iff_of_true (keysDescribed_renameColumn h id newName) not_false
  | select wanted =>
    obtain rfl := Except.ok.inj hmade
    exact iff_of_true (keysDescribed_selectColumns h wanted) not_false
  | setUnit id unit =>
    obtain rfl := Except.ok.inj hmade
    refine iff_of_true (fun row hrow => ?_) not_false
    rw [columnIds_setUnit]
    exact h row hrow
  | combine inputs => exact keysDescribed_combine_iff hmade

lemma keysDescribed_preserved : Preserved KeysDescribed LeavesUndescribed where
  column h hmade := by
    obtain ⟨column, cells, -, hdataset⟩ := dataset_of_addColumn hmade
    rw [hdataset]
    exact keysDescribed_withColumn h column cells
  filter h hmade := by
    obtain ⟨hcolumns, hrows⟩ := dataset_of_filter hmade
    intro row hrow
    rw [Dataset.columnIds, hcolumns]
    exact h row (hrows.subset hrow)
  join h _ hmade := keysDescribed_join h hmade
  operation h _ hmade := keysDescribed_apply_iff h hmade

/-- **When row keys stay inside the schema.**  If the datasets that a session starts with describe
all keys of their rows, so do all that it makes, exactly if no combination of it with rows to
combine lists a column that none of the inputs listing it has a description of. -/
theorem keysDescribed_iff {known : Dataset → Prop} {steps : List Step}
    (hsession : Session known steps) (hknown : ∀ d, known d → KeysDescribed d) :
    (∀ step ∈ steps, ∀ made, step.Makes made → KeysDescribed made) ↔
      ∀ step ∈ steps, ¬step.Meets LeavesUndescribed :=
  keysDescribed_preserved.session_iff hsession hknown

/-- A session that combines a column with one that the dataset does not have. -/
def combiningSession : List Step :=
  [.transform twoColumns [.combine [⟨0, ["a", "c"]⟩]] none]

/-- The session makes a dataset with a key that its schema does not describe. -/
theorem keysDescribed_iff_combining :
    Session (fun d => d = twoColumns) combiningSession ∧ KeysDescribed twoColumns ∧
      ∃ step ∈ combiningSession, ∃ made, step.Makes made ∧ ¬KeysDescribed made := by
  have hsession : Session (fun d => d = twoColumns) combiningSession :=
    ⟨fun d hd => List.mem_singleton.1 hd, trivial⟩
  have hdescribed : KeysDescribed twoColumns := by
    unfold KeysDescribed
    decide
  have hlacks : Undescribed [twoColumns] [⟨0, ["a", "c"]⟩] "c" := by
    refine ⟨⟨_, List.mem_singleton_self _, by decide⟩, fun input hinput _ source hsource => ?_⟩
    rw [List.mem_singleton.1 hinput] at hsource
    obtain rfl := Option.some.inj hsource
    decide
  have hmeets : (Step.transform twoColumns [.combine [⟨0, ["a", "c"]⟩]] none).Meets
      LeavesUndescribed :=
    ⟨[], .combine [⟨0, ["a", "c"]⟩], [], twoColumns, _, rfl, rfl, rfl,
      ⟨twoColumns, List.mem_singleton_self _, by simp [twoColumns]⟩, "c", hlacks⟩
  have hiff := keysDescribed_iff hsession fun d hd => hd ▸ hdescribed
  have hbroken := mt hiff.1 fun hgood => hgood _ List.mem_cons_self hmeets
  simp only [not_forall, exists_prop] at hbroken
  exact ⟨hsession, hdescribed, hbroken⟩

end Worksheet.Table
