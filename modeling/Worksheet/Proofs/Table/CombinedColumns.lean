import Worksheet.Proofs.Table.RowKeys

/-!
# Where combined columns come from

Several inputs of a combination may list one column.  The cells of the column are those of the last
input that lists it, even where its source has no such column, and the description is that of the
first whose source describes it.  So cells and description come from one source, whatever the
sources have in them, exactly if the two inputs take the column from the same source.
-/

namespace Worksheet.Table

variable {sources : List Dataset} {inputs : List CombineInput} {id : String}

/-- The input lists the column. -/
def CombineInput.lists (id : String) (input : CombineInput) : Bool := input.columns.contains id

/-- The input lists the column, and its source describes it; `ids` are the described columns of the
sources. -/
def CombineInput.describes (ids : List (List String)) (id : String) (input : CombineInput) : Bool :=
  input.lists id && (ids[input.source]?.getD []).contains id

/-- The source of the first input that describes a column. -/
def describedBy (ids : List (List String)) (inputs : List CombineInput) (id : String) :
    Option Nat :=
  (inputs.find? (CombineInput.describes ids id)).map CombineInput.source

/-- The source of the last input that lists a column. -/
def suppliedBy (inputs : List CombineInput) (id : String) : Option Nat :=
  (inputs.reverse.find? (CombineInput.lists id)).map CombineInput.source

/-- What a source describes a column as. -/
def descriptionIn (sources : List Dataset) (n : Nat) (id : String) : Option Column :=
  sources[n]?.bind fun source => source.column? id

/-- The cell of a source in one of its rows, empty if it is too short. -/
def cellAt (sources : List Dataset) (n index : Nat) (id : String) : Value :=
  cellIn ((sources[n]?.bind fun source => source.rows[index]?).getD []) id

/-- A column has its description and all its cells from one of the sources. -/
def OneSource (sources : List Dataset) (made : Dataset) (id : String) : Prop :=
  ∃ n < sources.length, made.column? id = descriptionIn sources n id ∧
    ∀ index row, made.rows[index]? = some row → row.lookup id = some (cellAt sources n index id)

/-! ### Descriptions -/

/-- Of columns with one id the first counts. -/
lemma find?_foldl_withDescription (columns new : List Column) (id : String) :
    (new.foldl withDescription columns).find? (fun column => column.id == id) =
      (columns ++ new).find? fun column => column.id == id := by
  induction new generalizing columns with
  | nil => rw [List.foldl_nil, List.append_nil]
  | cons column new ih =>
    rw [List.foldl_cons, ih, withDescription]
    split
    · rename_i hknown
      -- the new column is behind one with its id
      rw [List.find?_append, List.find?_append, List.find?_cons]
      split
      · rename_i hid
        obtain ⟨old, hold, heq⟩ := List.any_eq_true.1 hknown
        have hfound : (columns.find? fun column => column.id == id).isSome := by
          refine List.find?_isSome.2 ⟨old, hold, ?_⟩
          rw [beq_iff_eq] at hid heq ⊢
          exact heq.trans hid
        rw [Option.or_of_isSome hfound, Option.or_of_isSome hfound]
      · rfl
    · rw [List.append_assoc, List.singleton_append]

lemma column?_combineColumns (sources : List Dataset) (inputs : List CombineInput) (id : String)
    (rows : List Row) :
    Dataset.column? ⟨rows, combineColumns sources inputs⟩ id =
      (described sources inputs).find? fun column => column.id == id :=
  find?_foldl_withDescription [] _ id

/-- What one input describes a column as. -/
lemma find?_filterMap_column? (source : Option Dataset) (names : List String) (id : String) :
    (names.filterMap fun name => source.bind fun d => d.column? name).find?
        (fun column => column.id == id) =
      if id ∈ names then source.bind fun d => d.column? id else none := by
  induction names with
  | nil => rfl
  | cons name names ih =>
    rw [List.filterMap_cons]
    cases hcolumn : source.bind fun d => d.column? name with
    | none =>
      rw [ih]
      by_cases hname : id = name
      · subst hname
        rw [hcolumn, ite_self, ite_self]
      · simp [hname]
    | some column =>
      obtain ⟨d, -, hfound⟩ := Option.bind_eq_some_iff.1 hcolumn
      obtain rfl := id_of_column? hfound
      rw [List.find?_cons, ih]
      by_cases hname : column.id = id
      · subst hname
        simp [hcolumn]
      · rw [beq_false_of_ne hname]
        simp [Ne.symm hname]

/-- An input describes what it lists and its source has a description of. -/
lemma describes_iff {input : CombineInput} :
    input.describes (sources.map Dataset.columnIds) id = true ↔
      input.lists id = true ∧ (descriptionIn sources input.source id).isSome := by
  rw [CombineInput.describes, Bool.and_eq_true, and_congr_right_iff]
  intro _
  rw [List.getElem?_map, descriptionIn, List.contains_iff_mem]
  cases sources[input.source]? with
  | none => simp
  | some source =>
    rw [Option.map_some, Option.getD_some, Option.bind_some, ← exists_column?_iff,
      Option.isSome_iff_exists]

lemma find?_described (sources : List Dataset) (inputs : List CombineInput) (id : String) :
    ((described sources inputs).find? fun column => column.id == id) =
      (describedBy (sources.map Dataset.columnIds) inputs id).bind fun n =>
        descriptionIn sources n id := by
  induction inputs with
  | nil => rfl
  | cons input inputs ih =>
    have hhead := find?_filterMap_column? sources[input.source]? input.columns id
    rw [← descriptionIn] at hhead
    rw [described, List.flatMap_cons, List.find?_append, hhead, ← described, ih, describedBy,
      describedBy, List.find?_cons]
    cases hdescribes : input.describes (sources.map Dataset.columnIds) id with
    | true =>
      obtain ⟨hlists, hsome⟩ := describes_iff.1 hdescribes
      have hmem : id ∈ input.columns := List.contains_iff_mem.1 hlists
      rw [if_pos hmem, Option.or_of_isSome hsome]
      rfl
    | false =>
      have hnone : (if id ∈ input.columns then descriptionIn sources input.source id else none) =
          none := by
        rw [ite_eq_right_iff]
        intro hmem
        by_contra hne
        rw [describes_iff.2 ⟨List.contains_iff_mem.2 hmem, Option.isSome_iff_ne_none.2 hne⟩]
          at hdescribes
        exact absurd hdescribes (by simp)
      rw [hnone, Option.none_or]

/-! ### Cells -/

/-- What one input writes into a row. -/
lemma lookup_reverse_map (names : List String) (f : String → Value) (id : String) :
    (names.map fun name => (name, f name)).reverse.lookup id =
      if id ∈ names then some (f id) else none := by
  split
  · rename_i hmem
    rw [← List.map_reverse]
    exact Keyed.lookup_map_of_mem (fun name => name) f (List.mem_reverse.2 hmem) fun _ _ heq => heq
  · rename_i hmem
    rw [Keyed.lookup_reverse_eq_none_iff, List.map_map]
    simpa using hmem

lemma lookup_combineRow (sources : List Dataset) (inputs : List CombineInput) (index : Nat)
    (id : String) :
    (combineRow sources inputs index).lookup id =
      (suppliedBy inputs id).map fun n => cellAt sources n index id := by
  rw [combineRow, Keyed.lookup_ofPairs]
  induction inputs using List.reverseRecOn with
  | nil => rfl
  | append_singleton inputs input ih =>
    rw [List.flatMap_append, List.flatMap_singleton, List.reverse_append, List.lookup_append,
      lookup_reverse_map, ih, suppliedBy, suppliedBy, List.reverse_concat, List.find?_cons]
    cases hlists : input.lists id with
    | true =>
      rw [if_pos (List.contains_iff_mem.1 hlists), Option.some_or]
      rfl
    | false =>
      have hmem : id ∉ input.columns := fun hmem => by
        rw [CombineInput.lists, List.contains_iff_mem.2 hmem] at hlists
        exact absurd hlists (by simp)
      rw [if_neg hmem, Option.none_or]

/-! ### Both together -/

lemma length_of_combine {made : Dataset} (hmade : combine sources inputs = .ok made) :
    made.rows.length = longest sources := by
  obtain ⟨-, rfl⟩ := combine_eq_ok_iff.1 hmade
  rw [List.length_map, List.length_range]

lemma column?_of_combine {made : Dataset} (hmade : combine sources inputs = .ok made)
    (id : String) :
    made.column? id = (describedBy (sources.map Dataset.columnIds) inputs id).bind fun n =>
      descriptionIn sources n id := by
  obtain ⟨-, rfl⟩ := combine_eq_ok_iff.1 hmade
  rw [column?_combineColumns, find?_described]

lemma lookup_of_combine {made : Dataset} (hmade : combine sources inputs = .ok made) (id : String)
    {index : Nat} {row : Row} (hrow : made.rows[index]? = some row) :
    row.lookup id = (suppliedBy inputs id).map fun n => cellAt sources n index id := by
  obtain ⟨-, rfl⟩ := combine_eq_ok_iff.1 hmade
  rw [List.getElem?_map, Option.map_eq_some_iff] at hrow
  obtain ⟨n, hn, rfl⟩ := hrow
  obtain ⟨hindex, rfl⟩ := List.getElem?_eq_some_iff.1 hn
  rw [List.getElem_range]
  exact lookup_combineRow sources inputs index id

lemma exists_descriptionIn {m : Nat}
    (h : describedBy (sources.map Dataset.columnIds) inputs id = some m) :
    ∃ column, descriptionIn sources m id = some column := by
  obtain ⟨input, hinput, rfl⟩ := Option.map_eq_some_iff.1 h
  exact Option.isSome_iff_exists.1 (describes_iff.1 (List.find?_some hinput)).2

/-- What some input describes some input lists. -/
lemma exists_suppliedBy {ids : List (List String)} {m : Nat}
    (h : describedBy ids inputs id = some m) :
    ∃ input ∈ inputs, suppliedBy inputs id = some input.source := by
  obtain ⟨first, hfirst, -⟩ := Option.map_eq_some_iff.1 h
  have hdescribes : first.describes ids id = true := List.find?_some hfirst
  have hlists : first.lists id = true := (Bool.and_eq_true_iff.1 hdescribes).1
  have hsome : (inputs.reverse.find? (CombineInput.lists id)).isSome :=
    List.find?_isSome.2 ⟨first, List.mem_reverse.2 (List.mem_of_find?_eq_some hfirst), hlists⟩
  obtain ⟨last, hlast⟩ := Option.isSome_iff_exists.1 hsome
  exact ⟨last, List.mem_reverse.1 (List.mem_of_find?_eq_some hlast), by rw [suppliedBy, hlast]; rfl⟩

/-- An output column is described by some source. -/
lemma exists_describedBy {made : Dataset} (hmade : combine sources inputs = .ok made)
    (hid : id ∈ made.columnIds) : ∃ m, m < sources.length ∧
      describedBy (sources.map Dataset.columnIds) inputs id = some m ∧
      made.column? id = descriptionIn sources m id := by
  have hcolumn := column?_of_combine hmade id
  obtain ⟨column, hfound⟩ := exists_column?_iff.2 hid
  rw [hfound] at hcolumn
  obtain ⟨m, hm, hdescription⟩ := Option.bind_eq_some_iff.1 hcolumn.symm
  refine ⟨m, ?_, hm, by rw [hfound, hdescription]⟩
  obtain ⟨input, hinput, rfl⟩ := Option.map_eq_some_iff.1 hm
  exact (combine_eq_ok_iff.1 hmade).1 input (List.mem_of_find?_eq_some hinput)

/-- A dataset that is told apart by its cell in one column and by its units: the cell is `n`, and
the units have that many letters. -/
def tellTale (id : String) (n : Nat) (names : List String) : Dataset where
  rows := [[(id, .int n)]]
  columns := names.map fun name =>
    { id := name, name := name, unit := some (String.ofList (List.replicate n 'u')) }

/-- Such datasets in a row, with the given columns. -/
def tellTales (id : String) (ids : List (List String)) : List Dataset := ids.mapIdx (tellTale id)

lemma columnIds_tellTales (id : String) (ids : List (List String)) :
    (tellTales id ids).map Dataset.columnIds = ids := by
  refine List.ext_getElem (by simp [tellTales]) fun n _ _ => ?_
  simp [tellTales, tellTale, Dataset.columnIds, Function.comp_def]

lemma unit_descriptionIn_tellTales {ids : List (List String)} {n : Nat} {column : Column}
    (h : descriptionIn (tellTales id ids) n id = some column) :
    column.unit = some (String.ofList (List.replicate n 'u')) := by
  obtain ⟨source, hsource, hcolumn⟩ := Option.bind_eq_some_iff.1 h
  rw [tellTales, List.getElem?_mapIdx, Option.map_eq_some_iff] at hsource
  obtain ⟨names, -, rfl⟩ := hsource
  obtain ⟨name, -, rfl⟩ := List.mem_map.1 (List.mem_of_find?_eq_some hcolumn)
  rfl

lemma cellAt_tellTales {ids : List (List String)} {n : Nat} (h : n < ids.length) :
    cellAt (tellTales id ids) n 0 id = .int n := by
  simp [cellAt, cellIn, tellTales, tellTale, h]

lemma exists_row_of_tellTales {ids : List (List String)} {n : Nat} (h : n < ids.length)
    {made : Dataset} (hmade : combine (tellTales id ids) inputs = .ok made) :
    ∃ row, made.rows[0]? = some row := by
  obtain ⟨-, rfl⟩ := combine_eq_ok_iff.1 hmade
  have hmem : tellTale id n ids[n] ∈ tellTales id ids :=
    List.mem_mapIdx.2 ⟨n, h, rfl⟩
  have hlongest := longest_pos_iff.2 ⟨_, hmem, List.cons_ne_nil _ _⟩
  exact ⟨_, by rw [List.getElem?_map, List.getElem?_range hlongest]; rfl⟩

/-- The unit of a column that such datasets are combined to. -/
lemma column?_of_tellTales {ids : List (List String)} {made : Dataset} {m : Nat}
    (hmade : combine (tellTales id ids) inputs = .ok made)
    (hm : describedBy ids inputs id = some m) :
    ∃ column, made.column? id = some column ∧
      column.unit = some (String.ofList (List.replicate m 'u')) := by
  have hdescribed := hm
  rw [← columnIds_tellTales id ids] at hdescribed
  obtain ⟨column, hfound⟩ := exists_descriptionIn hdescribed
  refine ⟨column, ?_, unit_descriptionIn_tellTales hfound⟩
  rw [column?_of_combine hmade, hdescribed, Option.bind_some, hfound]

/-- If such a column comes from one source, its unit tells that source, and so does its cell. -/
lemma eq_of_oneSource {ids : List (List String)} {made : Dataset} {m k : Nat}
    (hmade : combine (tellTales id ids) inputs = .ok made)
    (hm : describedBy ids inputs id = some m) (hk : suppliedBy inputs id = some k)
    (hlt : k < ids.length) (hone : OneSource (tellTales id ids) made id) : m = k := by
  obtain ⟨n, hn, hfrom, hcells⟩ := hone
  have hn : n < ids.length := by simpa [tellTales] using hn
  obtain ⟨column, hcolumn, hunit⟩ := column?_of_tellTales hmade hm
  have hmn : m = n := by
    rw [hcolumn] at hfrom
    rw [unit_descriptionIn_tellTales hfrom.symm] at hunit
    have hletters := congrArg List.length (String.ofList_inj.1 (Option.some.inj hunit))
    rw [List.length_replicate, List.length_replicate] at hletters
    exact hletters.symm
  have hkn : k = n := by
    obtain ⟨row, hrow⟩ := exists_row_of_tellTales hlt hmade
    have hcell := hcells 0 row hrow
    rw [lookup_of_combine hmade id hrow, hk, Option.map_some, cellAt_tellTales hlt,
      cellAt_tellTales hn] at hcell
    simpa using hcell
  rw [hmn, hkn]

/-- **Where combined columns come from.**  A combination that succeeds has as many rows as the
longest source.  It describes a column as the first source does that an input takes it from and that
has a description of it, and the cells of every row are those of the source that the last input
listing the column takes it from.  Whatever sources with the given columns have in them, the
description and the cells of every described column come from one of them exactly if these two are
the same source for each of these columns. -/
theorem oneSource_of_combine_iff (inputs : List CombineInput) :
    (∀ sources made, combine sources inputs = .ok made →
      made.rows.length = longest sources ∧ ∀ id,
        (made.column? id = (describedBy (sources.map Dataset.columnIds) inputs id).bind fun n =>
          descriptionIn sources n id) ∧
        ∀ index row, made.rows[index]? = some row →
          row.lookup id = (suppliedBy inputs id).map fun n => cellAt sources n index id) ∧
    ∀ ids : List (List String), (∀ input ∈ inputs, input.source < ids.length) →
      ((∀ sources made, sources.map Dataset.columnIds = ids → combine sources inputs = .ok made →
          ∀ id ∈ made.columnIds, OneSource sources made id) ↔
        ∀ id, (describedBy ids inputs id).isSome →
          describedBy ids inputs id = suppliedBy inputs id) := by
  refine ⟨fun sources made hmade => ⟨length_of_combine hmade, fun id =>
    ⟨column?_of_combine hmade id, fun index row => lookup_of_combine hmade id⟩⟩,
    fun ids hinputs => ⟨fun hone id hdescribed => ?_, ?_⟩⟩
  · -- sources that tell by a cell and by a unit where they come from
    have hids := columnIds_tellTales id ids
    obtain ⟨m, hm⟩ := Option.isSome_iff_exists.1 hdescribed
    obtain ⟨input, hinput, hsupplied⟩ := exists_suppliedBy hm
    obtain ⟨made, hmade⟩ : ∃ made, combine (tellTales id ids) inputs = .ok made :=
      ⟨_, combine_eq_ok_iff.2 ⟨by simpa [tellTales] using hinputs, rfl⟩⟩
    obtain ⟨column, hcolumn, -⟩ := column?_of_tellTales hmade hm
    have hid : id ∈ made.columnIds := exists_column?_iff.1 ⟨column, hcolumn⟩
    rw [hm, hsupplied, eq_of_oneSource hmade hm hsupplied (hinputs input hinput)
      (hone _ made hids hmade id hid)]
  · rintro hsame sources made rfl hmade id hid
    obtain ⟨m, hm, hdescribed, hcolumn⟩ := exists_describedBy hmade hid
    have hsupplied : suppliedBy inputs id = some m := by
      rw [← hsame id (by rw [hdescribed]; rfl), hdescribed]
    refine ⟨m, hm, hcolumn, fun index row hrow => ?_⟩
    rw [lookup_of_combine hmade id hrow, hsupplied, Option.map_some]

/-- A price in a currency. -/
def priced (currency : String) (price : Int) : Dataset where
  rows := [[("price", .int price)]]
  columns := [⟨"price", "price", .number, some currency⟩]

/-- The price from two sources. -/
def bothPrices : List CombineInput := [⟨0, ["price"]⟩, ⟨1, ["price"]⟩]

/-- Seven dollars are combined to seven euros. -/
theorem oneSource_of_combine_iff_prices :
    (∃ made, combine [priced "EUR" 5, priced "USD" 7] bothPrices = .ok made ∧
      made.column? "price" = some ⟨"price", "price", .number, some "EUR"⟩ ∧
      ∃ row, made.rows[0]? = some row ∧ row.lookup "price" = some (.int 7)) ∧
    (∀ input ∈ bothPrices, input.source < [["price"], ["price"]].length) ∧
    ∃ sources made, sources.map Dataset.columnIds = [["price"], ["price"]] ∧
      combine sources bothPrices = .ok made ∧
      ∃ id ∈ made.columnIds, ¬ OneSource sources made id := by
  obtain ⟨hparts, hone⟩ := oneSource_of_combine_iff bothPrices
  have hinputs : ∀ input ∈ bothPrices, input.source < [["price"], ["price"]].length := by decide
  have hmade : combine [priced "EUR" 5, priced "USD" 7] bothPrices =
      .ok ⟨[[("price", .int 7)]], [⟨"price", "price", .number, some "EUR"⟩]⟩ := rfl
  obtain ⟨hcolumn, hcells⟩ := (hparts _ _ hmade).2 "price"
  refine ⟨⟨_, hmade, hcolumn, _, rfl, hcells 0 _ rfl⟩, hinputs, ?_⟩
  · have hbroken := mt (hone _ hinputs).1 fun h =>
      absurd (h "price" (by decide)) (by decide)
    simp only [not_forall, exists_prop] at hbroken
    exact hbroken

end Worksheet.Table
