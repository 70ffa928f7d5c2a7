import Worksheet.Proofs.Keyed
import Worksheet.Proofs.Table.Session

/-!
# Column ids

What each operation makes of the ids of the described columns.  All but one keep ids distinct: a
formula column takes the place of one with its id, a join and a combination describe a column only
if none with its id is there.  A renamed column keeps its place without a look at the others, so
that it may get the id of another column.
-/

namespace Worksheet.Table

variable {d : Dataset} {id : String}

/-! ### The ids after each operation -/

lemma columnIds_withColumn (d : Dataset) (column : Column) (cells : List Value) :
    (withColumn d column cells).columnIds =
      d.columnIds.filter (fun id => id != column.id) ++ [column.id] := by
  rw [withColumn, Dataset.columnIds, Dataset.columnIds, List.map_append, List.filter_map]
  rfl

lemma columnIds_deleteColumn (d : Dataset) (id : String) :
    (deleteColumn d id).columnIds = d.columnIds.filter fun other => other != id := by
  rw [deleteColumn, Dataset.columnIds, Dataset.columnIds, List.filter_map]
  rfl

lemma columnIds_renameColumn (d : Dataset) (id newName : String) :
    (renameColumn d id newName).columnIds =
      d.columnIds.map fun other => if other = id then newName else other := by
  rw [renameColumn, Dataset.columnIds, Dataset.columnIds, List.map_map, List.map_map]
  refine List.map_congr_left fun column _ => ?_
  rw [Function.comp_apply, Function.comp_apply]
  by_cases h : column.id = id
  · rw [if_pos h, if_pos (by simpa using h)]
  · rw [if_neg h, if_neg (by simpa using h)]

lemma columnIds_selectColumns {wanted : List String} (h : wanted.isEmpty = false) :
    (selectColumns d wanted).columnIds = d.columnIds.filter wanted.contains := by
  rw [selectColumns, if_neg (by simp [h]), Dataset.columnIds, Dataset.columnIds, List.filter_map]
  rfl

lemma columnIds_setUnit (d : Dataset) (id : String) (unit : Option String) :
    (setUnit d id unit).columnIds = d.columnIds := by
  rw [setUnit, Dataset.columnIds, Dataset.columnIds, List.map_map]
  refine List.map_congr_left fun column _ => ?_
  rw [Function.comp_apply]
  split <;> rfl

/-- A schema with one column more, unless one with its id is there already. -/
def withDescription (columns : List Column) (column : Column) : List Column :=
  if columns.any fun old => old.id == column.id then columns else columns ++ [column]

lemma ids_withDescription (columns : List Column) (column : Column) :
    (withDescription columns column).map Column.id =
      Keyed.withName (columns.map Column.id) column.id := by
  have hany : (columns.any fun old => old.id == column.id) = true ↔
      column.id ∈ columns.map Column.id := by simp
  unfold withDescription Keyed.withName
  by_cases h : column.id ∈ columns.map Column.id
  · rw [if_pos h, if_pos (hany.2 h)]
  · rw [if_neg h, if_neg (mt hany.1 h), List.map_append]
    rfl

lemma joinedColumn_id (lookup : Dataset) (name target : String) :
    (joinedColumn lookup name target).id = target := by
  unfold joinedColumn
  split <;> rfl

/-- A join adds the ids of its targets. -/
lemma ids_joinColumns (lookup : Dataset) (targets : List (String × String))
    (columns : List Column) :
    (joinColumns lookup targets columns).map Column.id =
      (targets.map Prod.snd).foldl Keyed.withName (columns.map Column.id) := by
  rw [List.foldl_map, joinColumns]
  refine (List.foldl_hom (List.map Column.id) fun columns pair => ?_).symm
  have hadd := ids_withDescription columns (joinedColumn lookup pair.1 pair.2)
  rw [withDescription, joinedColumn_id] at hadd
  exact hadd.symm

/-- A combination that succeeds has sources for all its inputs. -/
lemma combine_eq_ok_iff {sources : List Dataset} {inputs : List CombineInput} {made : Dataset} :
    combine sources inputs = .ok made ↔
      (∀ input ∈ inputs, input.source < sources.length) ∧
        made = ⟨(List.range (longest sources)).map (combineRow sources inputs),
          combineColumns sources inputs⟩ := by
  rw [combine]
  cases hfind : inputs.find? fun input => sources.length ≤ input.source with
  | some input =>
    have hsource := List.find?_some hfind
    have hmem := List.mem_of_find?_eq_some hfind
    simp only [reduceCtorEq, false_iff, not_and]
    intro hinputs
    exact absurd (hinputs input hmem) (by simpa using hsource)
  | none =>
    have hinputs : ∀ input ∈ inputs, input.source < sources.length := fun input hinput => by
      simpa using List.find?_eq_none.1 hfind input hinput
    rw [Except.ok.injEq, and_iff_right hinputs, eq_comm]

/-- The columns that the inputs of a combination describe. -/
def described (sources : List Dataset) (inputs : List CombineInput) : List Column :=
  inputs.flatMap fun input => input.columns.filterMap fun id =>
    sources[input.source]?.bind fun d => d.column? id

/-- A combination has the ids of what its inputs describe, each once. -/
lemma ids_combineColumns (sources : List Dataset) (inputs : List CombineInput) :
    (combineColumns sources inputs).map Column.id =
      Keyed.distinct ((described sources inputs).map Column.id) := by
  rw [Keyed.distinct_eq_foldl, List.foldl_map]
  exact (List.foldl_hom (List.map Column.id) fun columns column =>
    (ids_withDescription columns column).symm).symm

/-! ### Which operations keep ids distinct -/

/-- The transform renames a column to the id of another one. -/
def RenamesOnto (_ : List Dataset) (d : Dataset) : Operation → Prop
  | .rename id newName => id ∈ d.columnIds ∧ newName ≠ id ∧ newName ∈ d.columnIds
  | _ => False

/-- Renaming keeps names distinct unless it gives one of them the name of another. -/
lemma nodup_map_rename_iff {names : List String} (h : names.Nodup) {name newName : String} :
    (names.map fun other => if other = name then newName else other).Nodup ↔
      ¬(name ∈ names ∧ newName ≠ name ∧ newName ∈ names) := by
  constructor
  · rintro hmap ⟨hname, hne, hnew⟩
    refine hne (List.inj_on_of_nodup_map hmap hnew hname ?_)
    rw [if_neg hne, if_pos rfl]
  · intro hfree
    -- two names that become the same are the renamed one and the one that had its new name
    have hnew {other : String} (hname : name ∈ names) (hother : other ∈ names)
        (heq : other = newName) : other = name := by
      by_contra hne
      exact hfree ⟨hname, heq ▸ hne, heq ▸ hother⟩
    refine List.Nodup.map_on (fun a ha b hb heq => ?_) h
    by_cases hna : a = name
    · by_cases hnb : b = name
      · rw [hna, hnb]
      · rw [if_pos hna, if_neg hnb] at heq
        rw [hna, hnew (hna ▸ ha) hb heq.symm]
    · by_cases hnb : b = name
      · rw [if_neg hna, if_pos hnb] at heq
        rw [hnb, hnew (hnb ▸ hb) ha heq]
      · rwa [if_neg hna, if_neg hnb] at heq

lemma nodup_apply_iff {sources : Option (List Dataset)} {op : Operation} {made : Dataset}
    (h : d.columnIds.Nodup) (hmade : op.apply sources d = .ok made) :
    made.columnIds.Nodup ↔ ¬RenamesOnto (sources.getD [d]) d op := by
  cases op with
  | delete id =>
    obtain rfl := Except.ok.inj hmade
    rw [columnIds_deleteColumn]
    exact iff_of_true (h.filter _) not_false
  | rename id newName =>
    obtain rfl := Except.ok.inj hmade
    rw [columnIds_renameColumn]
    exact nodup_map_rename_iff h
  | select wanted =>
    obtain rfl := Except.ok.inj hmade
    refine iff_of_true ?_ not_false
    cases hempty : wanted.isEmpty with
    | true => rwa [selectColumns, if_pos hempty]
    | false =>
      rw [columnIds_selectColumns hempty]
      exact h.filter _
  | setUnit id unit =>
    obtain rfl := Except.ok.inj hmade
    rw [columnIds_setUnit]
    exact iff_of_true h not_false
  | combine inputs =>
    obtain ⟨-, rfl⟩ := combine_eq_ok_iff.1 hmade
    rw [Dataset.columnIds, ids_combineColumns]
    exact iff_of_true (Keyed.nodup_distinct _) not_false

lemma nodup_columnIds_preserved :
    Preserved (fun d => d.columnIds.Nodup) RenamesOnto where
  column h hmade := by
    obtain ⟨column, cells, -, hdataset⟩ := dataset_of_addColumn hmade
    rw [hdataset, columnIds_withColumn]
    refine List.nodup_append.2 ⟨h.filter _, List.nodup_singleton _, ?_⟩
    rintro id hid _ hcolumn rfl
    exact absurd hcolumn (by simpa using (List.mem_filter.1 hid).2)
  filter h hmade := by
    rw [Dataset.columnIds, (dataset_of_filter hmade).1]
    exact h
  join h _ hmade := by
    rw [dataset_of_join hmade, Dataset.columnIds, ids_joinColumns]
    exact Keyed.nodup_foldl_withName h
  operation h _ hmade := nodup_apply_iff h hmade

/-- **When column ids stay distinct.**  If the datasets that a session starts with have distinct
column ids, so have all that it makes, exactly if no transform of it renames a column to the id of
another one. -/
theorem columnIds_nodup_iff {known : Dataset → Prop} {steps : List Step}
    (hsession : Session known steps) (hknown : ∀ d, known d → d.columnIds.Nodup) :
    (∀ step ∈ steps, ∀ made, step.Makes made → made.columnIds.Nodup) ↔
      ∀ step ∈ steps, ¬step.Meets RenamesOnto :=
  nodup_columnIds_preserved.session_iff hsession hknown

/-- A dataset of two columns. -/
def twoColumns : Dataset :=
  ⟨[[("a", .number (.int 1)), ("b", .number (.int 2))]],
    [⟨"a", "a", .number, none⟩, ⟨"b", "b", .number, none⟩]⟩

/-- A session that renames one of the columns to the other. -/
def renamingSession : List Step := [.transform twoColumns [.rename "a" "b"] none]

/-- The session makes a dataset whose column ids are not distinct. -/
theorem columnIds_nodup_iff_renaming :
    Session (fun d => d = twoColumns) renamingSession ∧ twoColumns.columnIds.Nodup ∧
      ∃ step ∈ renamingSession, ∃ made, step.Makes made ∧ ¬made.columnIds.Nodup := by
  have hsession : Session (fun d => d = twoColumns) renamingSession :=
    ⟨fun d hd => List.mem_singleton.1 hd, trivial⟩
  have hnodup : twoColumns.columnIds.Nodup := by decide
  have hmeets : (Step.transform twoColumns [.rename "a" "b"] none).Meets RenamesOnto :=
    ⟨[], .rename "a" "b", [], twoColumns, _, rfl, rfl, rfl, by decide, by decide, by decide⟩
  have hiff := columnIds_nodup_iff hsession fun d hd => hd ▸ hnodup
  have hbroken := mt hiff.1 fun hgood => hgood _ List.mem_cons_self hmeets
  simp only [not_forall, exists_prop] at hbroken
  exact ⟨hsession, hnodup, hbroken⟩

end Worksheet.Table
