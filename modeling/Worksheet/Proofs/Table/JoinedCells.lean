import Mathlib.Data.Finset.Card
import Worksheet.Proofs.Table.RowKeys

/-!
# What a join keeps

A join writes each target column under a name of its own choice: the name of the column, or that
name with a suffix where the main dataset uses the name already.  Whether the suffixed name is free
is not looked at.  So a join may write over cells of the main dataset, or bring two targets together
in one column; it does neither, and loses nothing, exactly if the suffixed names that it resorts to
are free and are not targets themselves.
-/

namespace Worksheet.Table

variable {main lookup : Dataset} {keys : JoinKeys}

/-- The column that a target is written to. -/
def outputName (main : Dataset) (name : String) : String :=
  if usesName main name then name ++ "_lookup" else name

/-- The cell that a row gets for a target: that of its partner, empty if there is none. -/
def copiedCell (partner : Option Row) (name : String) : Value :=
  (partner.bind fun partner => partner.lookup name).getD .null

/-- Nothing is lost: each target has a column of its own that is new to the main dataset, every row
keeps its cells, and has the cells of its partner in these columns. -/
structure Lossless (main lookup : Dataset) (keys : JoinKeys) (made : Dataset)
    (column : String → String) : Prop where
  apart : ∀ a ∈ keys.targets, ∀ b ∈ keys.targets, column a = column b → a = b
  fresh : ∀ name ∈ keys.targets, ¬ usesName main (column name)
  rows : List.Forall₂ (fun row joined =>
    (∀ key v, row.lookup key = some v → joined.lookup key = some v) ∧
      ∀ name ∈ keys.targets, joined.lookup (column name) =
        some (copiedCell (partner? keys lookup.rows row) name)) main.rows made.rows

/-- No suffixed name that the join resorts to is used by the main dataset or a target itself. -/
def SuffixesFree (main : Dataset) (keys : JoinKeys) : Prop :=
  ∀ name ∈ keys.targets, usesName main name →
    ¬ usesName main (name ++ "_lookup") ∧ name ++ "_lookup" ∉ keys.targets

instance (main : Dataset) (keys : JoinKeys) : Decidable (SuffixesFree main keys) :=
  inferInstanceAs (Decidable (∀ name ∈ keys.targets, _ → _))

/-! ### One row -/

/-- The columns that a row gets, with their cells. -/
def copiedCells (main : Dataset) (keys : JoinKeys) (partner : Option Row) :
    List (String × Value) :=
  (Keyed.distinct keys.targets).map fun name => (outputName main name, copiedCell partner name)

lemma joinRow_targetNames (partner : Option Row) (row : Row) :
    joinRow (targetNames main keys) partner row =
      Keyed.putAll row (copiedCells main keys partner) := by
  rw [joinRow, targetNames, Keyed.putAll, copiedCells, List.foldl_map, List.foldl_map]
  rfl

lemma mem_keys_copiedCells {partner : Option Row} {key : String} :
    key ∈ Keyed.keys (copiedCells main keys partner) ↔
      ∃ name ∈ keys.targets, outputName main name = key := by
  simp [Keyed.keys, copiedCells]

lemma nodup_map_outputName (hapart : ∀ a ∈ keys.targets, ∀ b ∈ keys.targets,
    outputName main a = outputName main b → a = b) :
    ((Keyed.distinct keys.targets).map (outputName main)).Nodup := by
  refine (List.nodup_map_iff_inj_on (Keyed.nodup_distinct _)).2 fun a ha b hb => ?_
  exact hapart a (Keyed.mem_distinct.1 ha) b (Keyed.mem_distinct.1 hb)

lemma nodup_keys_copiedCells (partner : Option Row) (hapart : ∀ a ∈ keys.targets,
    ∀ b ∈ keys.targets, outputName main a = outputName main b → a = b) :
    (Keyed.keys (copiedCells main keys partner)).Nodup := by
  rw [Keyed.keys, copiedCells, List.map_map]
  exact nodup_map_outputName hapart

lemma lookup_joinRow (partner : Option Row) (row : Row) (key : String) :
    (joinRow (targetNames main keys) partner row).lookup key =
      ((copiedCells main keys partner).reverse.lookup key).or (row.lookup key) := by
  rw [joinRow_targetNames, Keyed.lookup_putAll]

/-- A cell under another name is left alone. -/
lemma lookup_joinRow_of_not_output (partner : Option Row) (row : Row) {key : String}
    (h : ∀ name ∈ keys.targets, outputName main name ≠ key) :
    (joinRow (targetNames main keys) partner row).lookup key = row.lookup key := by
  have hnone : (copiedCells main keys partner).reverse.lookup key = none := by
    rw [← Option.not_isSome_iff_eq_none, ← Keyed.mem_keys_iff, Keyed.keys, List.map_reverse,
      List.mem_reverse, ← Keyed.keys, mem_keys_copiedCells]
    rintro ⟨name, hname, heq⟩
    exact h name hname heq
  rw [lookup_joinRow, hnone, Option.none_or]

/-- A target that shares its column with no other target has the cell of the partner there. -/
lemma lookup_joinRow_outputName (partner : Option Row) (row : Row) {name : String}
    (hapart : ∀ a ∈ keys.targets, ∀ b ∈ keys.targets,
      outputName main a = outputName main b → a = b)
    (hname : name ∈ keys.targets) :
    (joinRow (targetNames main keys) partner row).lookup (outputName main name) =
      some (copiedCell partner name) := by
  have hkeys : (Keyed.keys (copiedCells main keys partner).reverse).Nodup := by
    rw [Keyed.keys, List.map_reverse, List.nodup_reverse]
    exact nodup_keys_copiedCells partner hapart
  have hcell : (copiedCells main keys partner).reverse.lookup (outputName main name) =
      some (copiedCell partner name) := by
    rw [Keyed.lookup_eq_some_iff_of_nodup hkeys, List.mem_reverse]
    exact List.mem_map.2 ⟨name, Keyed.mem_distinct.2 hname, rfl⟩
  rw [lookup_joinRow, hcell, Option.some_or]

/-! ### The names of the columns -/

lemma usesName_of_lookup {row : Row} {key : String} {v : Value} (hrow : row ∈ main.rows)
    (h : row.lookup key = some v) : usesName main key := by
  rw [usesName, Bool.or_eq_true, List.any_eq_true]
  refine Or.inr ⟨row, hrow, ?_⟩
  rw [Keyed.has_iff_mem_keys, Keyed.mem_keys_iff, h]
  rfl

lemma ne_suffixed (name : String) : name ++ "_lookup" ≠ name := by
  intro h
  have hlength := congrArg String.length h
  rw [String.length_append] at hlength
  exact absurd hlength (by simp)

lemma outputName_of_used {name : String} (h : usesName main name) :
    outputName main name = name ++ "_lookup" := if_pos h

lemma outputName_of_not_used {name : String} (h : ¬ usesName main name) :
    outputName main name = name := if_neg h

/-- Free suffixes are just what makes the columns new to the main dataset and different for
different targets. -/
lemma suffixesFree_iff : SuffixesFree main keys ↔
    (∀ name ∈ keys.targets, ¬ usesName main (outputName main name)) ∧
      ∀ a ∈ keys.targets, ∀ b ∈ keys.targets, outputName main a = outputName main b → a = b := by
  constructor
  · intro h
    -- a suffixed column and one that is not suffixed are never the same
    have hmixed : ∀ a ∈ keys.targets, ∀ b ∈ keys.targets, usesName main a →
        ¬ usesName main b → outputName main a ≠ outputName main b := by
      intro a ha b hb hused hfree heq
      rw [outputName_of_used hused, outputName_of_not_used hfree] at heq
      exact (h a ha hused).2 (heq ▸ hb)
    refine ⟨fun name hname => ?_, fun a ha b hb heq => ?_⟩
    · by_cases hused : usesName main name
      · rw [outputName_of_used hused]
        exact (h name hname hused).1
      · rwa [outputName_of_not_used hused]
    · by_cases hua : usesName main a <;> by_cases hub : usesName main b
      · rw [outputName_of_used hua, outputName_of_used hub, ← String.toList_inj,
          String.toList_append, String.toList_append, List.append_cancel_right_eq,
          String.toList_inj] at heq
        exact heq
      · exact absurd heq (hmixed a ha b hb hua hub)
      · exact absurd heq.symm (hmixed b hb a ha hub hua)
      · rwa [outputName_of_not_used hua, outputName_of_not_used hub] at heq
  · rintro ⟨hfresh, hapart⟩ name hname hused
    have hsuffixed : ¬ usesName main (name ++ "_lookup") := by
      rw [← outputName_of_used hused]
      exact hfresh name hname
    refine ⟨hsuffixed, fun htarget => ne_suffixed name ?_⟩
    refine hapart _ htarget _ hname ?_
    rw [outputName_of_not_used hsuffixed, outputName_of_used hused]

/-! ### The join as a whole -/

lemma rows_ne_nil_of_join {made : Dataset} (h : join main lookup keys = changed made) :
    main.rows ≠ [] := by
  rintro hnil
  have hempty : validateJoin main lookup keys = some .emptyMain := by
    rw [validateJoin, hnil]
    rfl
  rw [join, hempty] at h
  exact absurd h (by simp [changed])

/-- Columns that hold the cells of the targets are among those that the join makes. -/
lemma exists_outputName {made : Dataset} {column : String → String}
    (hjoin : join main lookup keys = changed made) (h : Lossless main lookup keys made column)
    {name : String} (hname : name ∈ keys.targets) :
    ∃ target ∈ keys.targets, outputName main target = column name := by
  obtain ⟨row, rows, hrows⟩ := List.exists_cons_of_ne_nil (rows_ne_nil_of_join hjoin)
  have hpairs := h.rows
  rw [dataset_of_join hjoin, hrows, List.map_cons] at hpairs
  have hcell := (List.forall₂_cons.1 hpairs).1.2 name hname
  by_contra hnone
  rw [not_exists] at hnone
  rw [lookup_joinRow_of_not_output _ _ fun target htarget heq =>
    hnone target ⟨htarget, heq⟩] at hcell
  exact h.fresh name hname (usesName_of_lookup (by rw [hrows]; exact List.mem_cons_self) hcell)

/-- Whatever the columns are in which the targets are found, there are no more of them than
targets, so that the join has made all of its columns new and different. -/
lemma suffixesFree_of_lossless {made : Dataset} {column : String → String}
    (hjoin : join main lookup keys = changed made) (h : Lossless main lookup keys made column) :
    SuffixesFree main keys := by
  classical
  let targets := keys.targets.toFinset
  have hcolumns : targets.image column ⊆
      (targets.image (outputName main)).filter fun name => ¬ usesName main name := by
    intro name hname
    obtain ⟨target, htarget, rfl⟩ := Finset.mem_image.1 hname
    have htarget := List.mem_toFinset.1 htarget
    obtain ⟨origin, horigin, heq⟩ := exists_outputName hjoin h htarget
    exact Finset.mem_filter.2
      ⟨Finset.mem_image.2 ⟨origin, List.mem_toFinset.2 horigin, heq⟩, h.fresh target htarget⟩
  have hcard : (targets.image column).card = targets.card :=
    Finset.card_image_of_injOn fun a ha b hb =>
      h.apart a (List.mem_toFinset.1 ha) b (List.mem_toFinset.1 hb)
  have hle := Finset.card_le_card hcolumns
  have hfilter := Finset.card_filter_le (targets.image (outputName main))
    fun name => ¬ usesName main name
  have himage := Finset.card_image_le (s := targets) (f := outputName main)
  refine suffixesFree_iff.2 ⟨fun name hname => ?_, fun a ha b hb heq => ?_⟩
  · have hall : ∀ output ∈ targets.image (outputName main), ¬ usesName main output :=
      Finset.filter_card_eq (by omega)
    exact hall _ (Finset.mem_image_of_mem _ (List.mem_toFinset.2 hname))
  · have hinj : Set.InjOn (outputName main) targets := Finset.card_image_iff.1 (by omega)
    exact hinj (List.mem_toFinset.2 ha) (List.mem_toFinset.2 hb) heq

/-- **When a join loses nothing.**  The rows that a join makes hold all cells of the main rows
and, in columns of their own, the cells of the partners, if and only if none of the suffixed names
that it resorts to is used by the main dataset or is itself a target. -/
theorem join_lossless_iff {made : Dataset} (hjoin : join main lookup keys = changed made) :
    (∃ column, Lossless main lookup keys made column) ↔ SuffixesFree main keys := by
  refine ⟨fun ⟨column, h⟩ => suffixesFree_of_lossless hjoin h, fun hfree => ?_⟩
  obtain ⟨hfresh, hapart⟩ := suffixesFree_iff.1 hfree
  refine ⟨outputName main, hapart, hfresh, ?_⟩
  rw [dataset_of_join hjoin, List.forall₂_map_right_iff, List.forall₂_same]
  refine fun row hrow => ⟨fun key v hcell => ?_, fun name hname => ?_⟩
  · rw [lookup_joinRow_of_not_output, hcell]
    rintro name hname rfl
    exact hfresh name hname (usesName_of_lookup hrow hcell)
  · exact lookup_joinRow_outputName _ _ hapart hname

/-- A document with a name of its own. -/
def documents : Dataset where
  rows := [[("id", .int 1), ("name", .text "plan")]]
  columns := [⟨"id", "id", .number, none⟩, ⟨"name", "name", .string, none⟩]

/-- The name of a person for it. -/
def person (name : String) : Dataset where
  rows := [[("id", .int 1), ("name", .text name)]]
  columns := [⟨"name", "name", .string, none⟩]

/-- The documents with the name of their owner. -/
def ownedDocuments : Dataset where
  rows := [[("id", .int 1), ("name", .text "plan"), ("name_lookup", .text "owner")]]
  columns := documents.columns ++ [⟨"name_lookup", "name_lookup", .string, none⟩]

/-- The first of two joins puts the name of the owner beside that of the document; the second
writes the name of the editor over it. -/
theorem join_lossless_iff_twice :
    join documents (person "owner") ⟨"id", "id", ["name"]⟩ = changed ownedDocuments ∧
    (∃ column, Lossless documents (person "owner") ⟨"id", "id", ["name"]⟩ ownedDocuments column) ∧
    ∃ made, join ownedDocuments (person "editor") ⟨"id", "id", ["name"]⟩ = changed made ∧
      made.rows = [[("id", .int 1), ("name", .text "plan"), ("name_lookup", .text "editor")]] ∧
      ¬ ∃ column, Lossless ownedDocuments (person "editor") ⟨"id", "id", ["name"]⟩ made column := by
  have hfirst : join documents (person "owner") ⟨"id", "id", ["name"]⟩ = changed ownedDocuments :=
    rfl
  refine ⟨hfirst, (join_lossless_iff hfirst).2 (by decide), _, rfl, rfl, ?_⟩
  rw [join_lossless_iff rfl]
  decide

end Worksheet.Table
