import Mathlib.Data.List.Induction
import Worksheet.Proofs.Value.Key
import Worksheet.Table.Join

/-!
# Rows under keys

What the index of the lookup rows finds for a cell: the last of the rows that have its key.  Keys in
an index are never empty and never lists or records, and between such keys being equal as members of
lists is an equivalence, so that a row put under one key is found under every equal one and replaces
all that were found there before.
-/

namespace Worksheet.Table

/-- Whether a lookup row has the key of a main cell. -/
def hasKey (rightKey : String) (cell : Value) (row : Row) : Bool :=
  match (row.lookup rightKey).getD .null with
  | .null => false
  | key => (keyOf key).alike (keyOf cell)

/-- The lookup row that belongs to a main row. -/
def partner? (keys : JoinKeys) (lookup : List Row) (row : Row) : Option Row :=
  lookup.reverse.find? (hasKey keys.rightKey ((row.lookup keys.leftKey).getD .null))

/-! ### The last of some rows -/

/-- What a search from the end finds has nothing of the kind behind it. -/
lemma reverse_find?_eq_some_iff {α : Type} {p : α → Bool} {l : List α} {a : α} :
    l.reverse.find? p = some a ↔ ∃ before after, l = before ++ a :: after ∧ p a = true ∧
      ∀ later ∈ after, p later = false := by
  rw [List.find?_eq_some_iff_append]
  constructor
  · rintro ⟨ha, after, before, hsplit, hafter⟩
    refine ⟨before.reverse, after.reverse, ?_, ha, fun later hlater => ?_⟩
    · rw [← List.reverse_reverse l, hsplit, List.reverse_append, List.reverse_cons,
        List.append_assoc, List.singleton_append]
    · simpa using hafter later (List.mem_reverse.1 hlater)
  · rintro ⟨before, after, rfl, ha, hafter⟩
    refine ⟨ha, after.reverse, before.reverse, ?_, fun later hlater => ?_⟩
    · rw [List.reverse_append, List.reverse_cons, List.append_assoc, List.singleton_append]
    · simp [hafter later (List.mem_reverse.1 hlater)]

/-! ### Cells as keys -/

lemma isCompound_keyOf (v : Value) : (keyOf v).isCompound = false := by
  cases v <;> rfl

lemma keyOf_ne_null {v : Value} (h : v ≠ .null) : keyOf v ≠ .null := by
  cases v with
  | null => exact absurd rfl h
  | _ => exact Value.noConfusion

lemma key?_keyOf (v : Value) : (keyOf v).key? = v.key? := by
  cases v <;> rfl

/-- A cell that is not empty has the key of another if both are known by the same. -/
lemma alike_keyOf_iff {v w : Value} (h : v ≠ .null) :
    (keyOf v).alike (keyOf w) = true ↔ Coincide v.key? w.key? := by
  rw [Value.alike_iff (isCompound_keyOf v) (isCompound_keyOf w) (keyOf_ne_null h), key?_keyOf,
    key?_keyOf]

lemma hasKey_iff {rightKey : String} {cell : Value} {row : Row} :
    hasKey rightKey cell row = true ↔
      cellIn row rightKey ≠ .null ∧ Coincide (cellIn row rightKey).key? cell.key? := by
  rw [hasKey, ← cellIn]
  split
  · simp [*]
  · rw [alike_keyOf_iff ‹_›, and_iff_right ‹_›]

/-! ### Putting rows into an index -/

namespace RowIndex

/-- The keys of the index are those of cells that are not empty. -/
def Proper (index : RowIndex) : Prop := ∀ entry ∈ index, ∃ v, v ≠ .null ∧ keyOf v = entry.1

variable {index : RowIndex} {v : Value} {row : Row}

lemma find?_cons (key : Value) (row : Row) (index : RowIndex) (k : Value) :
    find? ((key, row) :: index) k = if key.alike k then some row else index.find? k := by
  rw [find?, List.find?_cons]
  cases key.alike k <;> rfl

lemma Proper.put (h : index.Proper) (hv : v ≠ .null) (row : Row) :
    (index.put (keyOf v) row).Proper := by
  induction index with
  | nil => exact fun entry hentry => ⟨v, hv, by rw [List.mem_singleton.1 hentry]⟩
  | cons first rest ih =>
    obtain ⟨hfirst, hrest⟩ := List.forall_mem_cons.1 h
    rw [RowIndex.put]
    split
    · exact List.forall_mem_cons.2 ⟨hfirst, hrest⟩
    · exact List.forall_mem_cons.2 ⟨hfirst, ih hrest⟩

/-- A row is found under every key that is equal to the one that it is put under. -/
lemma Proper.find?_put (h : index.Proper) (hv : v ≠ .null) (row : Row) (w : Value) :
    (index.put (keyOf v) row).find? (keyOf w) =
      if (keyOf v).alike (keyOf w) then some row else index.find? (keyOf w) := by
  induction index with
  | nil => rw [RowIndex.put, find?_cons]
  | cons first rest ih =>
    obtain ⟨key, old⟩ := first
    obtain ⟨⟨u, hu, rfl⟩, hrest⟩ := List.forall_mem_cons.1 h
    rw [RowIndex.put]
    by_cases huv : (keyOf u).alike (keyOf v) = true
    · -- the row takes the place of an old one under the same key
      have hsame : (keyOf u).alike (keyOf w) = true ↔ (keyOf v).alike (keyOf w) = true := by
        rw [alike_keyOf_iff hu, alike_keyOf_iff hv]
        exact ((alike_keyOf_iff hu).1 huv).iff_left
      rw [if_pos huv, find?_cons, find?_cons]
      by_cases hw : (keyOf v).alike (keyOf w) = true
      · rw [if_pos (hsame.2 hw), if_pos hw]
      · rw [if_neg (hsame.not.2 hw), if_neg hw, if_neg (hsame.not.2 hw)]
    · rw [if_neg huv, find?_cons, find?_cons, ih hrest]
      by_cases hu' : (keyOf u).alike (keyOf w) = true
      · have hw : ¬ (keyOf v).alike (keyOf w) = true := by
          rw [alike_keyOf_iff hu] at huv hu'
          rw [alike_keyOf_iff hv]
          exact fun hw => huv (hu'.trans hw.symm)
        rw [if_pos hu', if_neg hw, if_pos hu']
      · rw [if_neg hu', if_neg hu']

end RowIndex

/-! ### The index of the lookup rows -/

section Index

variable {rightKey : String} {index : RowIndex} {row : Row}

lemma enter_of_null (h : cellIn row rightKey = .null) : enter rightKey index row = index := by
  rw [enter, h]

lemma enter_of_ne_null (h : cellIn row rightKey ≠ .null) :
    enter rightKey index row = index.put (keyOf (cellIn row rightKey)) row := by
  rw [enter]
  split
  · exact absurd ‹_› h
  · rfl

lemma RowIndex.Proper.enter (h : index.Proper) (rightKey : String) (row : Row) :
    (Table.enter rightKey index row).Proper := by
  by_cases hcell : cellIn row rightKey = .null
  · rwa [enter_of_null hcell]
  · rw [enter_of_ne_null hcell]
    exact h.put hcell row

/-- One more lookup row is what is found for the cells whose key it has. -/
lemma find?_enter (h : index.Proper) (rightKey : String) (row : Row) (cell : Value) :
    (enter rightKey index row).find? (keyOf cell) =
      if hasKey rightKey cell row then some row else index.find? (keyOf cell) := by
  by_cases hcell : cellIn row rightKey = .null
  · have hnot : ¬ hasKey rightKey cell row = true := fun hkey => (hasKey_iff.1 hkey).1 hcell
    rw [enter_of_null hcell, if_neg hnot]
  · have hkey : hasKey rightKey cell row = (keyOf (cellIn row rightKey)).alike (keyOf cell) := by
      rw [Bool.eq_iff_iff, hasKey_iff, alike_keyOf_iff hcell, and_iff_right hcell]
    rw [enter_of_ne_null hcell, h.find?_put hcell, hkey]

lemma indexRows_concat (rightKey : String) (rows : List Row) (row : Row) :
    indexRows rightKey (rows ++ [row]) = enter rightKey (indexRows rightKey rows) row :=
  List.foldl_concat _ _ _ _

lemma proper_indexRows (rightKey : String) (rows : List Row) :
    (indexRows rightKey rows).Proper := by
  induction rows using List.reverseRecOn with
  | nil => exact fun entry hentry => absurd hentry List.not_mem_nil
  | append_singleton rows row ih =>
    rw [indexRows_concat]
    exact ih.enter rightKey row

/-- What the index finds for a cell is the last row with its key. -/
lemma find?_indexRows (rightKey : String) (rows : List Row) (cell : Value) :
    (indexRows rightKey rows).find? (keyOf cell) =
      rows.reverse.find? (hasKey rightKey cell) := by
  induction rows using List.reverseRecOn with
  | nil => rfl
  | append_singleton rows row ih =>
    rw [indexRows_concat, find?_enter (proper_indexRows rightKey rows), ih, List.reverse_concat,
      List.find?_cons]
    cases hasKey rightKey cell row <;> rfl

lemma find?_indexRows_eq_partner? (keys : JoinKeys) (lookup : List Row) (row : Row) :
    (indexRows keys.rightKey lookup).find? (keyOf (cellIn row keys.leftKey)) =
      partner? keys lookup row :=
  find?_indexRows keys.rightKey lookup (cellIn row keys.leftKey)

end Index

end Worksheet.Table
