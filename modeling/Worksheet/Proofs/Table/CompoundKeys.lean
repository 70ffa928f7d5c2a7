import Worksheet.Proofs.Table.JoinedCells

/-!
# Lists and records as keys

A join keys a list or a record by its text, among the keys of genuine texts.  So two of them match
if their texts are equal, as they should, but a text that reads like a list also matches that list.
A join keeps texts apart from lists and records exactly if each lookup row whose key could be
mistaken so has a later row with the same key, which counts in its place.
-/

namespace Worksheet.Table

variable {main lookup : Dataset} {keys : JoinKeys}

/-- The cell of a lookup row has the key of the cell of a main row. -/
def SameKey (cell other : Value) : Prop := other ≠ .null ∧ Coincide other.key? cell.key?

/-- One of two cells is a text, and the other is a list or a record. -/
def Mixed (cell other : Value) : Prop :=
  (∃ s, cell = .text s ∧ other.isCompound = true) ∨
    (∃ s, other = .text s ∧ cell.isCompound = true)

/-- One of two cells is a text that reads like the other, which is a list or a record. -/
def Mistakable (cell other : Value) : Prop :=
  (cell = .text other.written ∧ other.isCompound = true) ∨
    (other = .text cell.written ∧ cell.isCompound = true)

/-- No main row with a text as its key has a partner with a list or a record, nor the other way
round. -/
def KindsApart (main lookup : Dataset) (keys : JoinKeys) : Prop :=
  ∀ row ∈ main.rows, ∀ other, partner? keys lookup.rows row = some other →
    ¬ Mixed (cellIn row keys.leftKey) (cellIn other keys.rightKey)

/-! ### Keys of lists and records -/

lemma key?_of_isCompound {v : Value} (h : v.isCompound = true) :
    v.key? = some (.text v.written) := by
  cases v with
  | list => rfl
  | record => rfl
  | _ => exact absurd h (by simp [Value.isCompound])

lemma ne_null_of_isCompound {v : Value} (h : v.isCompound = true) : v ≠ .null := by
  rintro rfl
  exact absurd h (by simp [Value.isCompound])

/-- The text of a list or a record begins with its bracket or its brace. -/
lemma head_written {v : Value} (h : v.isCompound = true) :
    v.written.toList.head? = some '[' ∨ v.written.toList.head? = some '\x7b' := by
  cases v with
  | list items =>
    rw [Value.written, String.toList_append, String.toList_append]
    exact Or.inl rfl
  | record fields =>
    rw [Value.written, String.toList_append, String.toList_append]
    exact Or.inr rfl
  | _ => exact absurd h (by simp [Value.isCompound])

lemma coincide_some_iff {α : Type} {a : α} {y : Option α} : Coincide (some a) y ↔ y = some a := by
  constructor
  · rintro ⟨b, hb, hy⟩
    rw [hy, hb]
  · exact fun hy => ⟨a, rfl, hy⟩

/-- A key that is a text belongs to that text, or to a list or a record that reads like it. -/
lemma key?_eq_text_iff {v : Value} {s : String} :
    v.key? = some (.text s) ↔ v = .text s ∨ v.isCompound = true ∧ v.written = s := by
  have hnumber : ∀ x : Number, x.key? ≠ some (.text s) := fun x hx =>
    Number.not_coincide_text x s ⟨_, hx, rfl⟩
  cases v with
  | null => simp [Value.key?, Value.isCompound]
  | bool b => simp [Value.key?, Value.isCompound, hnumber]
  | number x => simp [Value.key?, Value.isCompound, hnumber]
  | text t => simp [Value.key?, Value.isCompound]
  | list items => simp [Value.key?, Value.isCompound]
  | record fields => simp [Value.key?, Value.isCompound]

/-- A list or a record in a main row has the keys of its text and of what reads like it. -/
lemma sameKey_iff_of_compound_cell {cell other : Value} (h : cell.isCompound = true) :
    SameKey cell other ↔
      other = .text cell.written ∨ other.isCompound = true ∧ other.written = cell.written := by
  have hcoincide : Coincide other.key? cell.key? ↔ other.key? = some (.text cell.written) := by
    rw [key?_of_isCompound h]
    exact Iff.trans ⟨Coincide.symm, Coincide.symm⟩ coincide_some_iff
  rw [SameKey, hcoincide, key?_eq_text_iff, and_iff_right_iff_imp]
  rintro (rfl | ⟨hother, -⟩)
  · exact Value.noConfusion
  · exact ne_null_of_isCompound hother

/-- The same for a list or a record in a lookup row. -/
lemma sameKey_iff_of_compound_other {cell other : Value} (h : other.isCompound = true) :
    SameKey cell other ↔
      cell = .text other.written ∨ cell.isCompound = true ∧ cell.written = other.written := by
  rw [SameKey, and_iff_right (ne_null_of_isCompound h), key?_of_isCompound h, coincide_some_iff,
    key?_eq_text_iff]

lemma Mistakable.sameKey {cell other : Value} (h : Mistakable cell other) : SameKey cell other := by
  rcases h with ⟨hcell, hother⟩ | ⟨hother, hcell⟩
  · exact (sameKey_iff_of_compound_other hother).2 (Or.inl hcell)
  · exact (sameKey_iff_of_compound_cell hcell).2 (Or.inl hother)

/-- A text and a list or a record have one key only if the text can be mistaken for it. -/
lemma mixed_and_sameKey_iff {cell other : Value} :
    Mixed cell other ∧ SameKey cell other ↔ Mistakable cell other := by
  constructor
  · rintro ⟨⟨s, rfl, hother⟩ | ⟨s, rfl, hcell⟩, hsame⟩
    · rcases (sameKey_iff_of_compound_other hother).1 hsame with heq | ⟨hcell, -⟩
      · exact Or.inl ⟨heq, hother⟩
      · exact absurd hcell (by simp [Value.isCompound])
    · rcases (sameKey_iff_of_compound_cell hcell).1 hsame with heq | ⟨hother, -⟩
      · exact Or.inr ⟨heq, hcell⟩
      · exact absurd hother (by simp [Value.isCompound])
  · intro h
    refine ⟨?_, h.sameKey⟩
    rcases h with ⟨hcell, hother⟩ | ⟨hother, hcell⟩
    · exact Or.inl ⟨_, hcell, hother⟩
    · exact Or.inr ⟨_, hother, hcell⟩

/-! ### Partners -/

/-- The partner of a row is the last lookup row with its key. -/
lemma partner?_eq_some_iff {rows : List Row} {row other : Row} :
    partner? keys rows row = some other ↔ ∃ before after, rows = before ++ other :: after ∧
      SameKey (cellIn row keys.leftKey) (cellIn other keys.rightKey) ∧
      ∀ later ∈ after, ¬ SameKey (cellIn row keys.leftKey) (cellIn later keys.rightKey) := by
  have hkey : ∀ other, hasKey keys.rightKey (cellIn row keys.leftKey) other = true ↔
      SameKey (cellIn row keys.leftKey) (cellIn other keys.rightKey) := fun _ => hasKey_iff
  rw [partner?, ← cellIn, reverse_find?_eq_some_iff]
  simp only [hkey, ← Bool.not_eq_true]

/-- Kinds are kept apart if what could be mistaken is not the last under its key. -/
lemma kindsApart_iff : KindsApart main lookup keys ↔
    ∀ row ∈ main.rows, ∀ before other after, lookup.rows = before ++ other :: after →
      Mistakable (cellIn row keys.leftKey) (cellIn other keys.rightKey) →
      ∃ later ∈ after, SameKey (cellIn row keys.leftKey) (cellIn later keys.rightKey) := by
  constructor
  · intro hapart row hrow before other after hsplit hmistakable
    by_contra hlast
    have hpartner : partner? keys lookup.rows row = some other :=
      partner?_eq_some_iff.2 ⟨before, after, hsplit, hmistakable.sameKey, fun later hlater hsame =>
        hlast ⟨later, hlater, hsame⟩⟩
    exact hapart row hrow other hpartner (mixed_and_sameKey_iff.2 hmistakable).1
  · intro hlater row hrow other hpartner hmixed
    obtain ⟨before, after, hsplit, hsame, hlast⟩ := partner?_eq_some_iff.1 hpartner
    obtain ⟨later, hmem, hkey⟩ :=
      hlater row hrow before other after hsplit (mixed_and_sameKey_iff.1 ⟨hmixed, hsame⟩)
    exact hlast later hmem hkey

/-- **Lists and records as keys.**  A valid join gives each main row the cells of its partner, the
last lookup row with the same key.  A list or a record has the same key as the lists and records
that are written like it, and as the text that reads so, and no other; such a text begins with a
bracket or a brace.  The join keeps texts apart from lists and records exactly if every lookup row
that could be mistaken for a main row of the other kind is followed by one with the same key. -/
theorem kindsApart_of_join_iff (hvalid : validateJoin main lookup keys = none) :
    (∃ made, join main lookup keys = changed made ∧ made.rows = main.rows.map fun row =>
      joinRow (targetNames main keys) (partner? keys lookup.rows row) row) ∧
    (∀ row other, partner? keys lookup.rows row = some other ↔
      ∃ before after, lookup.rows = before ++ other :: after ∧
        SameKey (cellIn row keys.leftKey) (cellIn other keys.rightKey) ∧
        ∀ later ∈ after, ¬ SameKey (cellIn row keys.leftKey) (cellIn later keys.rightKey)) ∧
    (∀ v : Value, v.isCompound = true →
      (∀ w, SameKey v w ↔ w = .text v.written ∨ w.isCompound = true ∧ w.written = v.written) ∧
      (∀ w, SameKey w v ↔ w = .text v.written ∨ w.isCompound = true ∧ w.written = v.written) ∧
      (v.written.toList.head? = some '[' ∨ v.written.toList.head? = some '\x7b')) ∧
    (KindsApart main lookup keys ↔
      ∀ row ∈ main.rows, ∀ before other after, lookup.rows = before ++ other :: after →
        Mistakable (cellIn row keys.leftKey) (cellIn other keys.rightKey) →
        ∃ later ∈ after, SameKey (cellIn row keys.leftKey) (cellIn later keys.rightKey)) := by
  refine ⟨⟨_, by rw [join, hvalid], ?_⟩, fun _ _ => partner?_eq_some_iff, fun v hv =>
    ⟨fun _ => sameKey_iff_of_compound_cell hv, fun _ => sameKey_iff_of_compound_other hv,
      head_written hv⟩, kindsApart_iff⟩
  exact List.map_congr_left fun row _ => by rw [find?_indexRows_eq_partner?]

/-- A row with a text that reads like a list. -/
def quotedPair : Dataset where
  rows := [[("id", .text "[1, 2]")]]
  columns := [⟨"id", "id", .string, none⟩]

/-- A row under that list. -/
def pairs : Dataset where
  rows := [[("id", .list [.int 1, .int 2]), ("name", .text "pair")]]
  columns := [⟨"id", "id", .string, none⟩, ⟨"name", "name", .string, none⟩]

/-- A join of their names. -/
def byPair : JoinKeys := ⟨"id", "id", ["name"]⟩

/-- The text gets the name of the list. -/
theorem kindsApart_of_join_iff_pair :
    validateJoin quotedPair pairs byPair = none ∧
    ¬ KindsApart quotedPair pairs byPair ∧
    (∃ made, join quotedPair pairs byPair = changed made ∧
      made.rows = [[("id", .text "[1, 2]"), ("name", .text "pair")]]) ∧
    SameKey (.list [.int 1, .int 2]) (.list [.int 1, .int 2]) := by
  have hvalid : validateJoin quotedPair pairs byPair = none := by decide
  have hcompound : (Value.list [.int 1, .int 2]).isCompound = true := rfl
  have hwritten : (Value.list [.int 1, .int 2]).written = "[1, 2]" := by decide
  obtain ⟨⟨made, hmade, hrows⟩, -, hkeys, hapart⟩ := kindsApart_of_join_iff hvalid
  refine ⟨hvalid, fun h => ?_, ⟨made, hmade, hrows.trans rfl⟩,
    ((hkeys _ hcompound).1 _).2 (Or.inr ⟨hcompound, rfl⟩)⟩
  have hmistakable : Mistakable (.text "[1, 2]") (.list [.int 1, .int 2]) :=
    Or.inl ⟨by rw [hwritten], hcompound⟩
  obtain ⟨later, hlater, -⟩ :=
    hapart.1 h _ List.mem_cons_self [] _ [] rfl hmistakable
  exact absurd hlater List.not_mem_nil

end Worksheet.Table
