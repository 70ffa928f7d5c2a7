import Worksheet.Proofs.Table.JoinedCells

/-!
# A join as a nested loop

What a join through an index makes, said without the index: for each main row all lookup rows are
compared with it, and the last one that matches is its partner.  The index is right because rows are
put into it by an equivalence of keys; equality by content agrees with that equivalence between
plain keys only, which is where the nested loop is the specification.
-/

namespace Worksheet.Table

variable {main lookup : Dataset} {keys : JoinKeys}

/-- A lookup cell that is not empty is equal by content to a main cell. -/
def Matches (cell other : Value) : Prop := other ≠ .null ∧ cell.same other = true

/-- The last of the rows whose key matches a cell, or nothing if there is none. -/
inductive LastMatch (rightKey : String) (cell : Value) : List Row → Option Row → Prop
  | absent {rows : List Row} (h : ∀ row ∈ rows, ¬Matches cell (cellIn row rightKey)) :
    LastMatch rightKey cell rows none
  | found {before : List Row} {row : Row} {after : List Row}
    (h : Matches cell (cellIn row rightKey))
    (hlast : ∀ later ∈ after, ¬Matches cell (cellIn later rightKey)) :
    LastMatch rightKey cell (before ++ row :: after) (some row)

/-- The description of a copied column under its new name: that of the lookup column, or a text
without a unit if there is none. -/
def copiedColumn (lookup : Dataset) (name target : String) : Column where
  id := target
  name := target
  type := ((lookup.column? name).map Column.type).getD .string
  unit := (lookup.column? name).bind Column.unit

/-- The rows and the schema of a left join by a nested loop: every main row is followed by the cells
of its partner, and the main schema by the descriptions of the copied columns. -/
structure NestedLoop (main lookup : Dataset) (keys : JoinKeys) (made : Dataset) : Prop where
  rows : List.Forall₂ (fun row joined => ∃ partner,
    LastMatch keys.rightKey (cellIn row keys.leftKey) lookup.rows partner ∧
      (cellIn row keys.leftKey = .null → partner = none) ∧
      joined = row ++ copiedCells main keys partner) main.rows made.rows
  columns : made.columns = main.columns ++ (Keyed.distinct keys.targets).map fun name =>
    copiedColumn lookup name (outputName main name)

/-! ### Partners -/

lemma not_matches_null (other : Value) : ¬Matches .null other := by
  rintro ⟨hne, hsame⟩
  cases other with
  | null => exact hne rfl
  | _ => exact absurd hsame (by simp [Value.same, Value.numeral?, Value.alike])

lemma LastMatch.eq_none {rightKey : String} {rows : List Row} {partner : Option Row}
    (h : LastMatch rightKey .null rows partner) : partner = none := by
  cases h with
  | absent => rfl
  | found hmatch => exact absurd hmatch (not_matches_null _)

/-- Plain keys match if they are known by the same. -/
lemma matches_iff {cell other : Value} (hcell : cell.IsPlainKey) (hother : other.IsPlainKey) :
    Matches cell other ↔ other ≠ .null ∧ Coincide other.key? cell.key? := by
  refine and_congr_right fun hne => ?_
  rw [hcell.same_iff hother]
  obtain ⟨k, hk⟩ := Option.isSome_iff_exists.1 (hother.isSome_key? hne)
  constructor
  · exact fun heq => ⟨k, hk, heq.trans hk⟩
  · rintro ⟨k', hother', hcell'⟩
    rw [hcell', hother']

lemma lastMatch_of_find? {rightKey : String} {cell : Value} {rows : List Row}
    {p : Row → Bool} (h : ∀ row ∈ rows, p row = true ↔ Matches cell (cellIn row rightKey)) :
    LastMatch rightKey cell rows (rows.reverse.find? p) := by
  cases hfind : rows.reverse.find? p with
  | none =>
    refine .absent fun row hrow hmatch => ?_
    exact List.find?_eq_none.1 hfind row (List.mem_reverse.2 hrow) ((h row hrow).2 hmatch)
  | some row =>
    obtain ⟨before, after, rfl, hp, hafter⟩ := reverse_find?_eq_some_iff.1 hfind
    refine .found ((h row (by simp)).1 hp) fun other hother hmatch => ?_
    have hfalse := hafter other hother
    rw [(h other (by simp [hother])).2 hmatch] at hfalse
    exact absurd hfalse (by simp)

lemma lastMatch_partner? {row : Row} (hrow : (cellIn row keys.leftKey).IsPlainKey)
    (hlookup : ∀ other ∈ lookup.rows, (cellIn other keys.rightKey).IsPlainKey) :
    LastMatch keys.rightKey (cellIn row keys.leftKey) lookup.rows
      (partner? keys lookup.rows row) :=
  lastMatch_of_find? fun other hother => by
    rw [hasKey_iff, ← cellIn, matches_iff hrow (hlookup other hother)]

/-! ### Cells and columns at the end -/

lemma not_usesName_iff {name : String} : ¬usesName main name ↔
    name ∉ main.columnIds ∧ ∀ row ∈ main.rows, name ∉ Keyed.keys row := by
  simp [usesName, Keyed.has_iff_mem_keys]

/-- Targets with new columns of their own add their cells at the end of a row. -/
lemma joinRow_eq_append {row : Row} (partner : Option Row) (hrow : row ∈ main.rows)
    (hapart : ∀ a ∈ keys.targets, ∀ b ∈ keys.targets,
      outputName main a = outputName main b → a = b)
    (hfresh : ∀ name ∈ keys.targets, ¬usesName main (outputName main name)) :
    joinRow (targetNames main keys) partner row = row ++ copiedCells main keys partner := by
  rw [joinRow_targetNames]
  refine Keyed.putAll_of_fresh (nodup_keys_copiedCells partner hapart) fun key hkey => ?_
  obtain ⟨name, hname, rfl⟩ := mem_keys_copiedCells.1 hkey
  exact (not_usesName_iff.1 (hfresh name hname)).2 row hrow

lemma joinedColumn_eq_copiedColumn (lookup : Dataset) (name target : String) :
    joinedColumn lookup name target = copiedColumn lookup name target := by
  rw [joinedColumn, copiedColumn]
  cases lookup.column? name <;> rfl

/-- Descriptions of new columns go to the end of a schema. -/
lemma joinColumns_of_fresh {targets : List (String × String)} {columns : List Column}
    (htargets : (targets.map Prod.snd).Nodup)
    (hfresh : ∀ target ∈ targets.map Prod.snd, target ∉ columns.map Column.id) :
    joinColumns lookup targets columns =
      columns ++ targets.map fun pair => joinedColumn lookup pair.1 pair.2 := by
  induction targets generalizing columns with
  | nil => exact (List.append_nil _).symm
  | cons pair targets ih =>
    obtain ⟨name, target⟩ := pair
    obtain ⟨hpair, hrest⟩ := List.nodup_cons.1 htargets
    have hnew : ¬(columns.any fun column => column.id == target) = true := by
      have := hfresh target List.mem_cons_self
      simpa using this
    have step : joinColumns lookup ((name, target) :: targets) columns =
        joinColumns lookup targets (columns ++ [joinedColumn lookup name target]) :=
      congrArg (joinColumns lookup targets) (if_neg hnew)
    rw [step, ih hrest, List.append_assoc, List.singleton_append, List.map_cons]
    intro target htarget
    rw [List.map_append, List.mem_append, List.map_singleton, joinedColumn_id,
      List.mem_singleton]
    rintro (hold | rfl)
    · exact hfresh target (List.mem_cons_of_mem _ htarget) hold
    · exact hpair htarget

lemma joinColumns_eq_append
    (hapart : ∀ a ∈ keys.targets, ∀ b ∈ keys.targets,
      outputName main a = outputName main b → a = b)
    (hfresh : ∀ name ∈ keys.targets, ¬usesName main (outputName main name)) :
    joinColumns lookup (targetNames main keys) main.columns =
      main.columns ++ (Keyed.distinct keys.targets).map fun name =>
        copiedColumn lookup name (outputName main name) := by
  have hnames : (targetNames main keys).map Prod.snd =
      (Keyed.distinct keys.targets).map (outputName main) := by
    rw [targetNames, List.map_map]
    rfl
  rw [joinColumns_of_fresh]
  · rw [targetNames, List.map_map]
    refine congrArg _ (List.map_congr_left fun name _ => ?_)
    exact joinedColumn_eq_copiedColumn lookup name (outputName main name)
  · rw [hnames]
    exact nodup_map_outputName hapart
  · rw [hnames]
    intro target htarget
    obtain ⟨name, hname, rfl⟩ := List.mem_map.1 htarget
    exact (not_usesName_iff.1 (hfresh name (Keyed.mem_distinct.1 hname))).1

/-- **A join is a nested loop.**  Where all keys are nothing, truth values, texts or numbers, and
the targets have new columns of their own, a valid join succeeds with the main rows in order, each
followed by the cells of the last lookup row with an equal key, and with the main schema followed by
the descriptions of the copied columns.  Equal keys are equal texts, or numbers and truth values of
one exact value. -/
theorem join_eq_nestedLoop (hvalid : validateJoin main lookup keys = none)
    (hmain : ∀ row ∈ main.rows, (cellIn row keys.leftKey).IsPlainKey)
    (hlookup : ∀ row ∈ lookup.rows, (cellIn row keys.rightKey).IsPlainKey)
    (hapart : ∀ a ∈ keys.targets, ∀ b ∈ keys.targets,
      outputName main a = outputName main b → a = b)
    (hfresh : ∀ name ∈ keys.targets, ¬usesName main (outputName main name)) :
    (∃ made, join main lookup keys = changed made ∧ NestedLoop main lookup keys made) ∧
      ∀ a b : Value, a.IsPlainKey → b.IsPlainKey → (a.same b = true ↔ a.key? = b.key?) := by
  refine ⟨⟨_, by rw [join, hvalid], ?_, joinColumns_eq_append hapart hfresh⟩,
    fun a b ha hb => ha.same_iff hb⟩
  rw [List.forall₂_map_right_iff, List.forall₂_same]
  intro row hrow
  have hlast := lastMatch_partner? (hmain row hrow) hlookup
  rw [find?_indexRows_eq_partner?]
  refine ⟨partner? keys lookup.rows row, hlast, fun hnull => ?_,
    joinRow_eq_append _ hrow hapart hfresh⟩
  rw [hnull] at hlast
  exact hlast.eq_none

/-- Rows with a truth value, a double, nothing and no cell at all under their key. -/
def staff : Dataset where
  rows := [[("id", .bool true), ("name", .text "a")], [("id", .float 2.0)], [("id", .null)],
    [("name", .text "d")]]
  columns := [⟨"id", "id", .number, none⟩]

/-- Rooms under the numbers one, two and one again, and under nothing. -/
def rooms : Dataset where
  rows := [[("no", .float 1.0), ("name", .text "old")], [("no", .int 2), ("floor", .int 0)],
    [("no", .int 1), ("name", .text "new")], [("no", .null), ("name", .text "none")]]
  columns := [⟨"floor", "Floor", .number, some "m"⟩]

/-- A join that lists one target twice. -/
def byRoom : JoinKeys := ⟨"id", "no", ["name", "floor", "name"]⟩

/-- The staff with the names and floors of their rooms. -/
def roomedStaff : Dataset where
  rows := [
    [("id", .bool true), ("name", .text "a"), ("name_lookup", .text "new"), ("floor", .null)],
    [("id", .float 2.0), ("name_lookup", .null), ("floor", .int 0)],
    [("id", .null), ("name_lookup", .null), ("floor", .null)],
    [("name", .text "d"), ("name_lookup", .null), ("floor", .null)]]
  columns := [⟨"id", "id", .number, none⟩, ⟨"name_lookup", "name_lookup", .string, none⟩,
    ⟨"floor", "floor", .number, some "m"⟩]

/-- A target that is listed twice is copied once, under another name than that of the main cells;
the later of two rows with one key counts, and what is under no key is found by no row. -/
theorem join_eq_nestedLoop_rooms :
    join staff rooms byRoom = changed roomedStaff ∧
      NestedLoop staff rooms byRoom roomedStaff ∧
      (Value.bool true).key? = (Value.float 1.0).key? := by
  obtain ⟨⟨made, hmade, hloop⟩, hsame⟩ :=
    @join_eq_nestedLoop staff rooms byRoom rfl (by decide) (by decide) (by decide) (by decide)
  have hjoin : join staff rooms byRoom = changed roomedStaff := rfl
  obtain rfl := changed_inj (hjoin.symm.trans hmade)
  exact ⟨hjoin, hloop, (hsame (.bool true) (.float 1.0) trivial rfl).1 rfl⟩

end Worksheet.Table
