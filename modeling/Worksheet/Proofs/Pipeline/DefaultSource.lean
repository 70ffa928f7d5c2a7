import Worksheet.Proofs.Pipeline.Breakdown
import Worksheet.Proofs.Table.RowCount

/-!
# The source of a combination by default

A combination that is given no sources takes its columns from the dataset that the transforms before
it have made, and not from the one that the list of transforms is applied to.  Both have as many
rows and count as one source, so that a combination fails on both or on none.  It makes the same of
both exactly if the columns that it lists have not changed.  A node of a pipeline does give its
source to its transforms.
-/

namespace Worksheet.Table

variable {d d' now made : Dataset} {op : Operation} {operations : List Operation}
  {inputs : List CombineInput} {sources : Option (List Dataset)} {fault : TableFault} {id : String}

/-! ### What fails -/

/-- The failure of a transform to which one source is given. -/
def Operation.missing? : Operation → Option TableFault
  | .combine inputs =>
    (inputs.find? fun input => 1 ≤ input.source).map fun input => .missingSource input.source
  | _ => none

lemma apply_eq_error_iff (hsources : (sources.getD [d]).length = 1) :
    op.apply sources d = .error fault ↔ op.missing? = some fault := by
  cases op with
  | combine inputs =>
    rw [Operation.apply, combine, hsources, Operation.missing?]
    cases inputs.find? fun input => 1 ≤ input.source <;> simp
  | _ => simp [Operation.apply, Operation.missing?]

/-- With one source, a list of transforms fails as the first one that fails does, whatever the
dataset is. -/
lemma transform_eq_error_iff (hsources : ∀ now, (sources.getD [now]).length = 1) :
    transform d operations sources = .error fault ↔
      operations.findSome? Operation.missing? = some fault := by
  induction operations generalizing d with
  | nil => simp [transform, changed]
  | cons op operations ih =>
    rw [List.findSome?_cons]
    cases hnow : op.apply sources d with
    | error fault' =>
      have hfault : transform d (op :: operations) sources = .error fault' := by
        rw [transform, List.foldlM_cons, hnow]
        rfl
      rw [hfault, (apply_eq_error_iff (hsources d)).1 hnow, Except.error.injEq, Option.some.injEq]
    | ok now =>
      have hnone : op.missing? = none := by
        refine Option.eq_none_iff_forall_ne_some.2 fun fault' hfault => ?_
        rw [(apply_eq_error_iff (hsources d)).2 hfault] at hnow
        exact absurd hnow (by simp)
      rw [transform_cons hnow, ih, hnone]

lemma transform_none_eq_error_iff :
    transform d operations none = .error fault ↔
      transform d operations (some [d]) = .error fault := by
  rw [transform_eq_error_iff fun _ => rfl, transform_eq_error_iff fun _ => rfl]

/-! ### What a combination of one source makes -/

/-- A column is the same in two datasets: they describe it alike, and their rows have the same cells
in it, an empty one where they have none. -/
structure SameColumn (d d' : Dataset) (id : String) : Prop where
  description : d'.column? id = d.column? id
  cells : d'.rows.map (fun row => cellIn row id) = d.rows.map fun row => cellIn row id

lemma source_eq_zero (hmade : combine [d] inputs = .ok made) :
    ∀ input ∈ inputs, input.source = 0 :=
  fun input hinput => Nat.lt_one_iff.1 ((combine_eq_ok_iff.1 hmade).1 input hinput)

/-- A combination of one source leaves the columns that it lists as they are. -/
lemma sameColumn_of_combine (hmade : combine [d] inputs = .ok made) {input : CombineInput}
    (hinput : input ∈ inputs) (hid : id ∈ input.columns) : SameColumn d made id := by
  have hsource := source_eq_zero hmade
  have hlists : input.lists id = true := List.contains_iff_mem.2 hid
  constructor
  · rw [column?_of_combine hmade]
    cases hdescribed : describedBy ([d].map Dataset.columnIds) inputs id with
    | none =>
      -- the listed column is not described
      rw [Option.bind_none]
      by_contra hne
      refine List.find?_eq_none.1 (Option.map_eq_none_iff.1 hdescribed) input hinput ?_
      refine describes_iff.2 ⟨hlists, ?_⟩
      rw [hsource input hinput]
      exact Option.isSome_iff_ne_none.2 (Ne.symm hne)
    | some n =>
      obtain ⟨first, hfirst, rfl⟩ := Option.map_eq_some_iff.1 hdescribed
      rw [Option.bind_some, hsource first (List.mem_of_find?_eq_some hfirst)]
      rfl
  · have hsupplied : suppliedBy inputs id = some 0 := by
      have hsome : (inputs.reverse.find? (CombineInput.lists id)).isSome :=
        List.find?_isSome.2 ⟨input, List.mem_reverse.2 hinput, hlists⟩
      obtain ⟨last, hlast⟩ := Option.isSome_iff_exists.1 hsome
      rw [suppliedBy, hlast, Option.map_some,
        hsource last (List.mem_reverse.1 (List.mem_of_find?_eq_some hlast))]
    have hlength : made.rows.length = d.rows.length :=
      (length_of_combine hmade).trans (Nat.zero_max _)
    refine List.ext_getElem (by simpa using hlength) fun index hindex hindex' => ?_
    rw [List.length_map] at hindex hindex'
    have hcell := lookup_of_combine hmade id (List.getElem?_eq_getElem hindex)
    rw [hsupplied, Option.map_some] at hcell
    rw [List.getElem_map, List.getElem_map, cellIn, hcell, Option.getD_some, cellAt]
    simp [hindex']

lemma combineRow_congr (hsource : ∀ input ∈ inputs, input.source = 0)
    (hsame : ∀ input ∈ inputs, ∀ id ∈ input.columns, SameColumn d d' id) (index : Nat) :
    combineRow [d'] inputs index = combineRow [d] inputs index := by
  rw [combineRow, combineRow]
  refine congrArg Keyed.ofPairs (List.flatMap_congr fun input hinput => ?_)
  refine List.map_congr_left fun id hid => ?_
  have hcells := congrArg (fun cells => cells[index]?) (hsame input hinput id hid).cells
  simp only [List.getElem?_map] at hcells
  have hcell : cellIn (d'.rows[index]?.getD []) id = cellIn (d.rows[index]?.getD []) id := by
    rw [← Option.getD_map (fun row => cellIn row id), hcells, Option.getD_map]
  rw [hsource input hinput]
  exact congrArg (fun v => (id, v)) hcell

lemma combineColumns_congr (hsource : ∀ input ∈ inputs, input.source = 0)
    (hsame : ∀ input ∈ inputs, ∀ id ∈ input.columns, SameColumn d d' id) :
    combineColumns [d'] inputs = combineColumns [d] inputs := by
  have hdescribed : described [d'] inputs = described [d] inputs := by
    refine List.flatMap_congr fun input hinput => List.filterMap_congr fun id hid => ?_
    rw [hsource input hinput]
    exact (hsame input hinput id hid).description
  exact congrArg (fun columns => columns.foldl withDescription []) hdescribed

/-- A combination makes the same of two datasets exactly if they have the same columns as far as it
lists them. -/
lemma combine_eq_combine_iff (hsource : ∀ input ∈ inputs, input.source = 0)
    (hlength : d'.rows.length = d.rows.length) :
    combine [d'] inputs = combine [d] inputs ↔
      ∀ input ∈ inputs, ∀ id ∈ input.columns, SameColumn d d' id := by
  have hok (source : Dataset) : combine [source] inputs = .ok
      ⟨(List.range (longest [source])).map (combineRow [source] inputs),
        combineColumns [source] inputs⟩ :=
    combine_eq_ok_iff.2 ⟨fun input hinput => by simp [hsource input hinput], rfl⟩
  constructor
  · intro heq input hinput id hid
    have hsame := sameColumn_of_combine (hok d) hinput hid
    have hsame' := sameColumn_of_combine (heq.trans (hok d)) hinput hid
    exact ⟨hsame'.description.symm.trans hsame.description, hsame'.cells.symm.trans hsame.cells⟩
  · intro hsame
    have hlongest : longest [d'] = longest [d] := by
      simp only [longest, List.foldl_cons, List.foldl_nil, hlength]
    rw [hok, hok, hlongest, combineColumns_congr hsource hsame,
      funext (combineRow_congr hsource hsame)]

/-! ### Lists of transforms -/

lemma length_of_apply_none (hmade : op.apply none d = .ok made) :
    made.rows.length = d.rows.length := by
  rcases length_of_apply hmade with hlength | hlength
  · exact hlength
  · exact hlength.trans (Nat.zero_max _)

/-- Transforms without sources keep the number of rows. -/
lemma length_of_transform (hmade : transform d operations none = changed made) :
    made.rows.length = d.rows.length := by
  rw [transform_eq_changed_iff] at hmade
  exact foldlM_invariant (fun now => now.rows.length = d.rows.length)
    (fun op _ now made hlength hmade => (length_of_apply_none hmade).trans hlength) rfl hmade

/-- The transform combines columns that are no longer what they were in `d`. -/
def ReadsChanged (d : Dataset) (_ : List Dataset) (now : Dataset) : Operation → Prop
  | .combine inputs => ∃ input ∈ inputs, ∃ id ∈ input.columns, ¬SameColumn d now id
  | _ => False

/-- One transform that succeeds without sources. -/
lemma apply_eq_iff (hlength : now.rows.length = d.rows.length)
    (hmade : op.apply none now = .ok made) :
    op.apply (some [d]) now = .ok made ↔ ¬ReadsChanged d [now] now op := by
  cases op with
  | combine inputs =>
    have hcombine : combine [now] inputs = .ok made := hmade
    show combine [d] inputs = .ok made ↔ _
    rw [← hcombine, eq_comm, combine_eq_combine_iff (source_eq_zero hmade) hlength]
    simp [ReadsChanged]
  | _ => exact iff_of_true hmade not_false

/-- Transforms without sources agree at every step with those on the dataset itself exactly if no
combination reads a column that has changed. -/
lemma transform_none_iff :
    (∀ done, done <+: operations → transform d done none = transform d done (some [d])) ↔
      ¬(Step.transform d operations none).Meets (ReadsChanged d) := by
  constructor
  · rintro hsame ⟨done, op, rest, now, made, rfl, hnow, hmade, hbad⟩
    have hnow' : transform d done (some [d]) = changed now := by
      rw [← hsame done (List.prefix_append _ _), hnow]
    have hlast : transform d (done ++ [op]) (some [d]) = changed made := by
      rw [← hsame _ ⟨rest, by simp⟩]
      exact transform_concat_iff.2 ⟨now, hnow, hmade⟩
    obtain ⟨between, hbetween, hmade'⟩ := transform_concat_iff.1 hlast
    obtain rfl := changed_inj (hnow'.symm.trans hbetween)
    exact (apply_eq_iff (length_of_transform hnow) hmade).1 hmade' hbad
  · intro hgood done hdone
    induction done using List.reverseRecOn with
    | nil => rfl
    | append_singleton done op ih =>
      obtain ⟨rest, rfl⟩ := hdone
      cases hlast : transform d (done ++ [op]) none with
      | error fault => exact (transform_none_eq_error_iff.1 hlast).symm
      | ok success =>
        obtain ⟨made, -, hchanged⟩ := exists_of_bind_eq_ok hlast
        obtain ⟨now, hnow, hmade⟩ := transform_concat_iff.1 (hlast.trans hchanged.symm)
        have hnow' : transform d done (some [d]) = changed now := by
          rw [← ih ⟨op :: rest, by simp⟩, hnow]
        have hmade' := (apply_eq_iff (length_of_transform hnow) hmade).2 fun hbad =>
          hgood ⟨done, op, rest, now, made, by simp, hnow, hmade, hbad⟩
        rw [← hchanged]
        exact (transform_concat_iff.2 ⟨now, hnow', hmade'⟩).symm

end Worksheet.Table

namespace Worksheet.Pipeline

open Calculation (inbound)
open Table (Operation ReadsChanged Step changed transform)

variable {s : Setup} {states : List (String × State)} {id : String} {d : Dataset}
  {operations : List Operation}

/-- A node takes one dataset, which the state of its source has. -/
def TakesOnly (s : Setup) (states : List (String × State)) (id : String) (task : Task)
    (d : Dataset) : Prop :=
  ∃ edge state, datasetEdges s.feeds task (inbound s.edges id) = [edge] ∧
    states.lookup edge.source = some state ∧ state.status = .success ∧ state.dataset = some d

/-- A node with transforms is given the dataset that it takes as their only source. -/
lemma state_of_transform (h : run s {} = .ok states)
    (htask : s.tasks.lookup id = some (.transform operations)) (hid : id ∉ s.graph.circular)
    (htakes : TakesOnly s states id (.transform operations) d) :
    states.lookup id = some (if operations.isEmpty then {}
      else .ofOutcome (transform d operations (some [d]))) := by
  obtain ⟨edge, source, hedges, hsource, hsuccess, hdataset⟩ := htakes
  have hkey : id ∈ Keyed.keys s.tasks := by
    rw [Keyed.mem_keys_iff, htask]
    rfl
  obtain ⟨task, state, htask', hstate, hrun⟩ := lookup_of_not_circular h hkey hid
  obtain rfl := Option.some.inj (htask.symm.trans htask')
  have hsupply : (states.lookup edge.source).bind State.supply? = some (some d) := by
    rw [hsource, Option.bind_some, State.supply?, if_pos (beq_iff_eq.2 hsuccess), hdataset]
  have hsources : [edge].mapM (fun edge => (states.lookup edge.source).bind State.supply?) =
      some [some d] := by
    rw [List.mapM_cons, hsupply]
    rfl
  simp only [runNode, hedges, hsources] at hrun
  have htransform := (runSources_some _ d [] (.transform operations)).symm.trans hrun
  rw [runTask] at htransform
  rw [hstate]
  split at htransform
  · rename_i hempty
    rw [if_pos hempty, Except.ok.inj htransform]
  · rename_i hempty
    rw [if_neg hempty, Except.ok.inj htransform]

/-- **The source of a combination by default.**  Without sources, transforms of a dataset fail
exactly as they do with the dataset as their only source.  They make the same of it at every step
exactly if no combination among them lists a column that is no longer what it was in the dataset.  A
node of a pipeline that takes one dataset has the state that its transforms come to with this
dataset as their only source, unless it has no transforms and so is not set up. -/
theorem defaultSource_iff (d : Dataset) (operations : List Operation) :
    (∀ fault, transform d operations none = .error fault ↔
      transform d operations (some [d]) = .error fault) ∧
    ((∀ done, done <+: operations → transform d done none = transform d done (some [d])) ↔
      ¬(Step.transform d operations none).Meets (ReadsChanged d)) ∧
    ∀ (s : Setup) (states : List (String × State)) (id : String), run s {} = .ok states →
      s.tasks.lookup id = some (.transform operations) → id ∉ s.graph.circular →
      TakesOnly s states id (.transform operations) d →
      states.lookup id = some (if operations.isEmpty then {}
        else .ofOutcome (transform d operations (some [d]))) :=
  ⟨fun _ => Table.transform_none_eq_error_iff, Table.transform_none_iff,
    fun _ _ _ h htask hid htakes => state_of_transform h htask hid htakes⟩

/-- A dataset of one column. -/
def oneColumn : Dataset := ⟨[[("a", .int 1)]], [⟨"a", "a", .number, none⟩]⟩

/-- Transforms that combine a column under the name that it had at the start. -/
def renamedAway : List Operation := [.rename "a" "b", .combine [⟨0, ["a"]⟩]]

/-- A node with these transforms behind the dataset. -/
def renamedBehind : Setup where
  nodes := [⟨"data", .dataset oneColumn⟩, ⟨"combined", .transform renamedAway⟩]
  edges := [⟨"data", "combined", none⟩]

/-- Without sources the transforms leave nothing of the column; behind the dataset, the node finds
it. -/
theorem defaultSource_iff_renamedAway :
    (∃ done, done <+: renamedAway ∧
      transform oneColumn done none ≠ transform oneColumn done (some [oneColumn])) ∧
    transform oneColumn renamedAway none = changed ⟨[[("a", .null)]], []⟩ ∧
    ∃ states, run renamedBehind {} = .ok states ∧
      states.lookup "combined" = some (.ofOutcome (changed oneColumn)) := by
  obtain ⟨-, hiff, hnode⟩ := defaultSource_iff oneColumn renamedAway
  have hmeets : (Step.transform oneColumn renamedAway none).Meets (ReadsChanged oneColumn) := by
    refine ⟨[.rename "a" "b"], .combine [⟨0, ["a"]⟩], [], _, _, rfl, rfl, rfl, ⟨0, ["a"]⟩,
      List.mem_singleton_self _, "a", List.mem_singleton_self _, fun hsame => ?_⟩
    exact absurd hsame.description (by decide)
  have hdiffer := mt hiff.1 fun hgood => hgood hmeets
  simp only [not_forall, exists_prop] at hdiffer
  have hlookup := hnode renamedBehind _ "combined" rfl rfl (by decide)
    ⟨⟨"data", "combined", none⟩, .ready oneColumn, rfl, rfl, rfl, rfl⟩
  exact ⟨hdiffer, rfl, _, rfl, hlookup⟩

end Worksheet.Pipeline
