import Worksheet.Proofs.Pipeline.Run

/-!
# What the states of a full run say

A finished run has one state for each node.  The nodes that cannot run are in error as circular,
the others have the state that their rule gives on the final states of their sources, and a node
has succeeded only where every source that it takes a dataset from has.  Each state is of one of
three forms: a success with a dataset and the count of its rows, an error with a message, or idle.
-/

namespace Worksheet.Pipeline

open Dependency (Graph)
open Calculation (inbound)

/-! ### Well-formed states -/

/-- A state is a success with a dataset and the number of its rows, an error with what is wrong, or
idle; and it has nothing of the other forms. -/
structure State.WellFormed (state : State) : Prop where
  success : state.status = .success →
    state.error = none ∧ ∃ d, state.dataset = some d ∧ state.rowCount = d.rows.length
  error : state.status = .error → state.dataset = none ∧ state.error.isSome
  idle : state.status = .idle → state.dataset = none ∧ state.error = none

lemma wellFormed_idle : State.WellFormed {} where
  success h := absurd h (by decide)
  error h := absurd h (by decide)
  idle _ := ⟨rfl, rfl⟩

lemma wellFormed_failed (message : String) : (State.failed message).WellFormed where
  success h := absurd h (by simp [State.failed])
  error _ := ⟨rfl, rfl⟩
  idle h := absurd h (by simp [State.failed])

lemma wellFormed_ofOutcome (outcome : Table.Outcome) : (State.ofOutcome outcome).WellFormed := by
  cases outcome with
  | ok result =>
    refine ⟨fun _ => ⟨rfl, result.dataset, rfl, rfl⟩, fun h => ?_, fun h => ?_⟩
    · exact absurd h (by simp [State.ofOutcome, State.ready])
    · exact absurd h (by simp [State.ofOutcome, State.ready])
  | error fault =>
    refine ⟨fun h => ?_, fun _ => ⟨rfl, rfl⟩, fun h => ?_⟩
    · exact absurd h (by simp [State.ofOutcome])
    · exact absurd h (by simp [State.ofOutcome])

/-! ### The states of rules -/

/-- The states that the rule of a node gives: idle, or what the outcome of a table operation
leaves. -/
def State.Ruled (state : State) : Prop := state = {} ∨ ∃ outcome, state = .ofOutcome outcome

lemma ruled_idle : State.Ruled {} := Or.inl rfl

lemma ruled_ofOutcome (outcome : Table.Outcome) : (State.ofOutcome outcome).Ruled :=
  Or.inr ⟨outcome, rfl⟩

lemma ruled_ready (d : Dataset) : (State.ready d).Ruled := Or.inr ⟨Table.changed d, rfl⟩

/-- A fault that belongs to no row. -/
lemma ruled_failed {fault : Table.TableFault} (h : fault.row = -1) :
    (State.failed fault.message).Ruled := by
  refine Or.inr ⟨.error fault, ?_⟩
  rw [State.ofOutcome, h]
  rfl

lemma ruled_noSource : (State.failed noSourceMessage).Ruled := ruled_failed rfl

lemma State.Ruled.wellFormed {state : State} (h : state.Ruled) : state.WellFormed := by
  obtain rfl | ⟨outcome, rfl⟩ := h
  · exact wellFormed_idle
  · exact wellFormed_ofOutcome outcome

lemma ruled_runTask (scalars : List (String × ScalarInput)) (first : Dataset)
    (others : List Dataset) (task : Task) :
    Gives State.Ruled (runTask scalars first others task) := by
  cases task with
  | dataset d => exact .ok (ruled_ready d)
  | filter criteria =>
    cases criteria with
    | none => exact .ok ruled_idle
    | some criteria => exact .bind fun outcome _ => .ok (ruled_ofOutcome outcome)
  | formula formula newColumn unitOverride =>
    rw [runTask]
    split
    · exact .ok ruled_idle
    · exact .bind fun outcome _ => .ok (ruled_ofOutcome outcome)
  | transform operations =>
    rw [runTask]
    split
    · exact .ok ruled_idle
    · exact .ok (ruled_ofOutcome _)
  | join keys mainHandle lookupHandle =>
    cases others with
    | nil => exact .ok ruled_noSource
    | cons lookup others => exact .ok (ruled_ofOutcome _)

/-! Whatever a node does before it asks its first dataset for anything, and whatever it does without
it, leaves it idle or in error. -/

/-- The property holds of idle nodes, and of those in error as a whole. -/
structure State.Dataless (motive : State → Prop) : Prop where
  idle : motive {}
  failed : ∀ {fault : Table.TableFault}, fault.row = -1 → motive (.failed fault.message)

namespace State.Dataless

variable {motive : State → Prop} {task : Task}

lemma noSource (h : Dataless motive) : motive (.failed noSourceMessage) := h.failed rfl

lemma gives_combineAbsent (h : Dataless motive) (count : Nat) (inputs : List Table.CombineInput) :
    Gives motive (combineAbsent count inputs) := by
  unfold combineAbsent
  split
  · exact .ok (h.failed rfl)
  · exact .error _

lemma gives_runAbsent (h : Dataless motive) (hown : ∀ d, task = .dataset d → motive (.ready d))
    (count : Nat) : Gives motive (runAbsent count task) := by
  cases task with
  | dataset d => exact .ok (hown d rfl)
  | filter criteria =>
    cases criteria with
    | none => exact .ok h.idle
    | some criteria => exact .error _
  | formula formula newColumn unitOverride =>
    rw [runAbsent]
    split
    · exact .ok h.idle
    · exact .error _
  | transform operations =>
    rw [runAbsent]
    unfold transformAbsent
    split
    · exact .ok h.idle
    · exact h.gives_combineAbsent count _
    · exact .error _
  | join keys mainHandle lookupHandle =>
    rw [runAbsent]
    split
    · exact .ok h.noSource
    · exact .error _

lemma gives_askAbsent? (h : Dataless motive) {count : Nat} {first : Dataset}
    {asked : Except Breakdown State} (hask : askAbsent? count first task = some asked) :
    Gives motive asked := by
  unfold askAbsent? at hask
  split at hask
  · obtain ⟨inputs, -, rfl⟩ := Option.map_eq_some_iff.1 hask
    exact h.gives_combineAbsent count inputs
  · split at hask
    · exact absurd hask (by simp)
    · obtain rfl := Option.some.inj hask
      exact .error _
  · exact absurd hask (by simp)

lemma gives_runSources (h : Dataless motive) (hown : ∀ d, task = .dataset d → motive (.ready d))
    {scalars : List (String × ScalarInput)} {sources : List (Option Dataset)}
    (hrun : ∀ first others, sources = some first :: others →
      Gives motive (runTask scalars first (others.filterMap id) task)) :
    Gives motive (runSources scalars sources task) := by
  unfold runSources
  split
  · exact .ok h.noSource
  · exact h.gives_runAbsent hown _
  · rename_i first others
    have hpresent : Gives motive
        ((runTask scalars first (others.filterMap id) task).mapError Breakdown.arithmetic) :=
      (hrun first others rfl).mapError _
    split
    · exact hpresent
    · cases hask : askAbsent? (some first :: others).length first task with
      | none => exact hpresent
      | some asked => exact h.gives_askAbsent? hask

/-- Such a property holds of the state of a node if it holds of what its task makes of datasets. -/
lemma gives_runNode (h : Dataless motive) (hown : ∀ d, task = .dataset d → motive (.ready d))
    {feeds : List (String × Feed)} {state? : String → Option State} {edges : List Edge}
    (hrun : ∀ first others,
      (datasetEdges feeds task edges).mapM (fun e => (state? e.source).bind State.supply?) =
        some (some first :: others) →
      Gives motive (runTask (scalarInputs feeds edges) first (others.filterMap id) task)) :
    Gives motive (runNode feeds state? edges task) := by
  unfold runNode
  split
  · exact .ok (hown _ rfl)
  · split
    · rename_i sources hsources
      exact h.gives_runSources hown fun first others heq => hrun first others (heq ▸ hsources)
    · exact .ok h.noSource

end State.Dataless

lemma dataless_ruled : State.Dataless State.Ruled := ⟨ruled_idle, ruled_failed⟩

/-- Whatever its sources are, a node comes to such a state, if to any. -/
lemma ruled_runNode (feeds : List (String × Feed)) (state? : String → Option State)
    (edges : List Edge) (task : Task) :
    Gives State.Ruled (runNode feeds state? edges task) :=
  dataless_ruled.gives_runNode (fun d _ => ruled_ready d) fun first _ _ =>
    ruled_runTask _ first _ task

/-- Whatever its sources are, a node comes to a well-formed state, if to any. -/
lemma wellFormed_runNode (feeds : List (String × Feed)) (state? : String → Option State)
    (edges : List Edge) (task : Task) :
    Gives State.WellFormed (runNode feeds state? edges task) :=
  fun state h => (ruled_runNode feeds state? edges task state h).wellFormed

/-! ### What a success needs -/

/-- The node has a state, and this is a success. -/
def Succeeded (state? : String → Option State) (id : String) : Prop :=
  ∃ state, state? id = some state ∧ state.status = .success

/-- What a task works on has succeeded: both sides of a join, and for all others the sources of all
inbound edges that are not scalars, of which there is at least one. -/
def Fed (feeds : List (String × Feed)) (state? : String → Option State) (edges : List Edge) :
    Task → Prop
  | .dataset _ => True
  | .join _ mainHandle lookupHandle => ∃ main lookup,
    joinSides mainHandle lookupHandle (edges.filter fun e => !Keyed.has feeds e.source) =
      [main, lookup] ∧ Succeeded state? main.source ∧ Succeeded state? lookup.source
  | _ => (∃ e ∈ edges, e.source ∉ Keyed.keys feeds) ∧
    ∀ e ∈ edges, e.source ∉ Keyed.keys feeds → Succeeded state? e.source

lemma succeeded_of_supply? {state? : String → Option State} {id : String}
    {source : Option Dataset} (h : (state? id).bind State.supply? = some source) :
    Succeeded state? id := by
  obtain ⟨state, hstate, hsupply⟩ := Option.bind_eq_some_iff.1 h
  refine ⟨state, hstate, ?_⟩
  rw [State.supply?] at hsupply
  split at hsupply
  · rename_i hstatus
    exact beq_iff_eq.1 hstatus
  · exact absurd hsupply (by simp)

/-- Where all sources supply something, all have succeeded. -/
lemma succeeded_of_mapM {state? : String → Option State} {edges : List Edge}
    {sources : List (Option Dataset)}
    (h : edges.mapM (fun e => (state? e.source).bind State.supply?) = some sources) :
    sources.length = edges.length ∧ ∀ e ∈ edges, Succeeded state? e.source := by
  have hsupplies := forall₂_of_mapM_option h
  refine ⟨hsupplies.length_eq.symm, fun e he => ?_⟩
  obtain ⟨source, -, hsource⟩ := exists_of_mem_forall₂ hsupplies.flip he
  exact succeeded_of_supply? hsource

lemma failed_ne_success (message : String) : (State.failed message).status ≠ .success := by
  simp [State.failed]

/-- A task that succeeds has a source, and a join has two. -/
lemma sources_of_success {scalars : List (String × ScalarInput)}
    {sources : List (Option Dataset)} {task : Task} {state : State}
    (h : runSources scalars sources task = .ok state) (hsuccess : state.status = .success) :
    sources ≠ [] ∧ ∀ keys main lookup, task = .join keys main lookup → 2 ≤ sources.length := by
  match sources, h with
  | [], h =>
    obtain rfl := Except.ok.inj h
    exact absurd hsuccess (failed_ne_success _)
  | [source], h =>
    refine ⟨List.cons_ne_nil _ _, ?_⟩
    rintro keys main lookup rfl
    -- with or without a dataset, one source is too few
    cases source with
    | none =>
      obtain rfl := Except.ok.inj h
      exact absurd hsuccess (failed_ne_success _)
    | some first =>
      obtain rfl := Except.ok.inj h
      exact absurd hsuccess (failed_ne_success _)
  | _ :: _ :: _, _ =>
    refine ⟨List.cons_ne_nil _ _, fun _ _ _ _ => ?_⟩
    simp

lemma length_takeSide_toList (named : Option Edge) (left : List Edge) :
    (takeSide named left).1.toList.length ≤ 1 := by
  cases (takeSide named left).1 <;> simp

/-- There are at most two sides. -/
lemma length_joinSides_le (mainHandle lookupHandle : String) (edges : List Edge) :
    (joinSides mainHandle lookupHandle edges).length ≤ 2 := by
  rw [joinSides, List.length_append]
  exact Nat.add_le_add (length_takeSide_toList _ _) (length_takeSide_toList _ _)

/-- **A node succeeds only on sources that have succeeded.** -/
lemma fed_of_runNode {feeds : List (String × Feed)} {state? : String → Option State}
    {edges : List Edge} {task : Task} {state : State}
    (h : runNode feeds state? edges task = .ok state) (hsuccess : state.status = .success) :
    Fed feeds state? edges task := by
  have hsources : (∃ d, task = .dataset d) ∨ ∃ sources,
      (datasetEdges feeds task edges).mapM (fun e => (state? e.source).bind State.supply?) =
        some sources ∧ runSources (scalarInputs feeds edges) sources task = .ok state := by
    unfold runNode at h
    split at h
    · exact Or.inl ⟨_, rfl⟩
    · split at h
      · rename_i sources hmap
        exact Or.inr ⟨sources, hmap, h⟩
      · obtain rfl := Except.ok.inj h
        exact absurd hsuccess (failed_ne_success _)
  obtain ⟨d, rfl⟩ | ⟨sources, hmap, hrun⟩ := hsources
  · trivial
  obtain ⟨hlength, hsucceeded⟩ := succeeded_of_mapM hmap
  obtain ⟨hne, htwo⟩ := sources_of_success hrun hsuccess
  -- for all tasks but a join, the edges that bring datasets are those that bring no scalar
  have hplain : datasetEdges feeds task edges = edges.filter (fun e => !Keyed.has feeds e.source) →
      (∃ e ∈ edges, e.source ∉ Keyed.keys feeds) ∧
        ∀ e ∈ edges, e.source ∉ Keyed.keys feeds → Succeeded state? e.source := by
    intro hedges
    have hmem : ∀ e, e ∈ datasetEdges feeds task edges ↔
        e ∈ edges ∧ e.source ∉ Keyed.keys feeds := by
      intro e
      rw [hedges, List.mem_filter, Bool.not_eq_true', ← Bool.not_eq_true, Keyed.has_iff_mem_keys]
    obtain ⟨e, he⟩ := List.exists_mem_of_ne_nil (datasetEdges feeds task edges) (by
      rintro hnil
      rw [hnil, List.length_nil] at hlength
      exact hne (List.eq_nil_of_length_eq_zero hlength))
    exact ⟨⟨e, (hmem e).1 he⟩, fun e he hfeed => hsucceeded e ((hmem e).2 ⟨he, hfeed⟩)⟩
  cases task with
  | dataset d => trivial
  | filter criteria => exact hplain rfl
  | formula formula newColumn unitOverride => exact hplain rfl
  | transform operations => exact hplain rfl
  | join keys mainHandle lookupHandle =>
    have hle := length_joinSides_le mainHandle lookupHandle
      (edges.filter fun e => !Keyed.has feeds e.source)
    have hge := htwo keys mainHandle lookupHandle rfl
    rw [hlength] at hge
    obtain ⟨main, lookup, hsides⟩ := List.length_eq_two.1 (Nat.le_antisymm hle hge)
    have hedges : datasetEdges feeds (.join keys mainHandle lookupHandle) edges =
        [main, lookup] := hsides
    rw [hedges] at hsucceeded
    exact ⟨main, lookup, hsides, hsucceeded main (by simp), hsucceeded lookup (by simp)⟩

/-! ### The states of a run -/

variable {s : Setup} {states : List (String × State)} {id : String}

lemma mem_keys_tasks : id ∈ Keyed.keys s.tasks ↔ id ∈ s.nodes.map Node.id := by
  rw [Setup.tasks, Keyed.keys_ofPairs, Keyed.mem_distinct, List.map_map]
  rfl

/-- Where ids are distinct, the task of an id is that of the node with this id. -/
lemma lookup_tasks (hids : (s.nodes.map Node.id).Nodup) {node : Node} (hnode : node ∈ s.nodes) :
    s.tasks.lookup node.id = some node.task := by
  have hkeys : (Keyed.keys (s.nodes.map fun node => (node.id, node.task)).reverse).Nodup := by
    rw [Keyed.keys, List.map_reverse, List.map_map, List.nodup_reverse]
    exact hids
  rw [Setup.tasks, Keyed.lookup_ofPairs, Keyed.lookup_eq_some_iff_of_nodup hkeys,
    List.mem_reverse]
  exact List.mem_map_of_mem hnode

/-- The step of a node puts a state under its id. -/
lemma exists_put_of_step {reuse : Reuse} {states' : List (String × State)} {task : Task}
    (htask : s.tasks.lookup id = some task) (h : step s reuse states id = .ok states') :
    ∃ state, states' = Keyed.put states id state := by
  cases hkept : reuse.kept? s.graph id with
  | none =>
    obtain ⟨state, -, rfl⟩ := ok_of_step_ok htask hkept h
    exact ⟨state, rfl⟩
  | some state =>
    rw [step_of_kept htask hkept] at h
    exact ⟨state, (Except.ok.inj h).symm⟩

/-- A step puts a state under its own id or does nothing. -/
lemma step_eq_ok {reuse : Reuse} {states' : List (String × State)}
    (h : step s reuse states id = .ok states') :
    states' = states ∨ ∃ state, states' = Keyed.put states id state := by
  cases htask : s.tasks.lookup id with
  | none =>
    rw [step_of_no_task htask] at h
    exact Or.inl (Except.ok.inj h).symm
  | some task => exact Or.inr (exists_put_of_step htask h)

/-- Steps touch no state but those of their own ids. -/
lemma lookup_of_not_mem {reuse : Reuse} {ids : List String} {states' : List (String × State)}
    (h : ids.foldlM (step s reuse) states = .ok states') (hid : id ∉ ids) :
    states'.lookup id = states.lookup id := by
  refine foldlM_invariant (fun after => after.lookup id = states.lookup id) ?_ rfl h
  intro k hk before after hbefore hstep
  have hne : id ≠ k := by
    rintro rfl
    exact hid hk
  rcases step_eq_ok hstep with rfl | ⟨state, rfl⟩
  · exact hbefore
  · rw [Keyed.lookup_put_of_ne _ hne, hbefore]

lemma keys_circularStates (s : Setup) :
    Keyed.keys (circularStates s) = s.graph.circular.filter fun id => Keyed.has s.tasks id := by
  rw [circularStates, Keyed.keys, List.map_map]
  exact List.map_id _

lemma nodup_keys_circularStates (s : Setup) : (Keyed.keys (circularStates s)).Nodup := by
  rw [keys_circularStates]
  exact ((graph_proper s).nodup.filter _).filter _

lemma nodup_keys_of_run (h : run s {} = .ok states) : (Keyed.keys states).Nodup := by
  refine foldlM_invariant (fun states => (Keyed.keys states).Nodup) ?_ ?_ h
  · intro id _ before after hbefore hstep
    rcases step_eq_ok hstep with rfl | ⟨state, rfl⟩
    · exact hbefore
    · rw [Keyed.keys_put]
      exact Keyed.nodup_withName hbefore id
  · exact nodup_keys_circularStates s

lemma lookup_of_no_task {reuse : Reuse} (h : run s reuse = .ok states)
    (hid : s.tasks.lookup id = none) : states.lookup id = none := by
  refine foldlM_invariant (fun states => states.lookup id = none) ?_
    ((settled_circularStates s).no_task id hid) h
  intro k _ before after hbefore hstep
  by_cases hk : id = k
  · subst hk
    rw [step_of_no_task hid, Except.ok.injEq] at hstep
    exact hstep ▸ hbefore
  · rcases step_eq_ok hstep with rfl | ⟨state, rfl⟩
    · exact hbefore
    · rw [Keyed.lookup_put_of_ne _ hk, hbefore]

/-- A state that is kept is the state in the end. -/
lemma lookup_of_kept {reuse : Reuse} {task : Task} {state : State} (h : run s reuse = .ok states)
    (hid : id ∈ s.graph.order) (htask : s.tasks.lookup id = some task)
    (hkept : reuse.kept? s.graph id = some state) : states.lookup id = some state := by
  obtain ⟨before, after, horder⟩ := List.append_of_mem hid
  have hnodup := Graph.order_nodup (graph_proper s)
  rw [horder] at hnodup
  rw [run, horder, List.foldlM_append] at h
  obtain ⟨start, -, hrest⟩ := exists_of_bind_eq_ok h
  rw [List.foldlM_cons, step_of_kept htask hkept] at hrest
  have hafter := (List.nodup_cons.1 (List.nodup_append.1 hnodup).2.1).1
  rw [lookup_of_not_mem hrest hafter, Keyed.lookup_put_self]

/-- Nothing happens to the nodes that cannot run. -/
lemma lookup_of_not_mem_order {reuse : Reuse} (h : run s reuse = .ok states)
    (hid : id ∉ s.graph.order) : states.lookup id = (circularStates s).lookup id :=
  lookup_of_not_mem h hid

lemma lookup_circularStates (hid : id ∈ s.graph.circular) (htask : id ∈ Keyed.keys s.tasks) :
    (circularStates s).lookup id = some (.failed circularMessage) := by
  rw [Keyed.lookup_eq_some_iff_of_nodup (nodup_keys_circularStates s), circularStates,
    List.mem_map]
  exact ⟨id, List.mem_filter.2 ⟨hid, Keyed.has_iff_mem_keys.2 htask⟩, rfl⟩

lemma mem_order_or_circular (hid : id ∈ Keyed.keys s.tasks) :
    id ∈ s.graph.order ∨ id ∈ s.graph.circular := by
  have hnode : id ∈ s.graph.nodes := by
    rw [graph_eq, Graph.mem_nodes_ofEdges]
    exact List.mem_append_left _ hid
  by_cases horder : id ∈ s.graph.order
  · exact Or.inl horder
  · exact Or.inr (Graph.mem_circular.2 ⟨hnode, horder⟩)

lemma lookup_of_circular {reuse : Reuse} (h : run s reuse = .ok states)
    (htask : id ∈ Keyed.keys s.tasks) (hid : id ∈ s.graph.circular) :
    states.lookup id = some (.failed circularMessage) := by
  rw [lookup_of_not_mem_order h (Graph.mem_circular.1 hid).2, lookup_circularStates hid htask]

lemma lookup_of_not_circular (h : run s {} = .ok states) (htask : id ∈ Keyed.keys s.tasks)
    (hid : id ∉ s.graph.circular) : ∃ task state,
      s.tasks.lookup id = some task ∧ states.lookup id = some state ∧
        runNode s.feeds (fun id => states.lookup id) (inbound s.edges id) task = .ok state := by
  obtain ⟨task, hlookup⟩ := Option.isSome_iff_exists.1 (Keyed.mem_keys_iff.1 htask)
  obtain ⟨state, hstate, hrun⟩ :=
    (settled_of_run h).ran id ((mem_order_or_circular htask).resolve_right hid) task hlookup
  exact ⟨task, state, hlookup, hstate, hrun⟩

lemma mem_keys_of_run (h : run s {} = .ok states) (id : String) :
    id ∈ Keyed.keys states ↔ id ∈ Keyed.keys s.tasks := by
  constructor
  · intro hid
    rw [Keyed.mem_keys_iff] at hid ⊢
    by_contra hnone
    rw [(settled_of_run h).no_task id (Option.not_isSome_iff_eq_none.1 hnone)] at hid
    exact absurd hid (by simp)
  · intro htask
    rw [Keyed.mem_keys_iff]
    by_cases hid : id ∈ s.graph.circular
    · rw [lookup_of_circular h htask hid]
      rfl
    · obtain ⟨task, state, -, hstate, -⟩ := lookup_of_not_circular h htask hid
      rw [hstate]
      rfl

/-- A state of a full run is the circular one or what the rule of its node gives. -/
lemma state_cases (h : run s {} = .ok states) {state : State}
    (hstate : states.lookup id = some state) :
    (id ∈ s.graph.circular ∧ state = .failed circularMessage) ∨
      ∃ task, s.tasks.lookup id = some task ∧
        runNode s.feeds (fun id => states.lookup id) (inbound s.edges id) task = .ok state := by
  have htask : id ∈ Keyed.keys s.tasks := by
    rw [← mem_keys_of_run h, Keyed.mem_keys_iff, hstate]
    rfl
  by_cases hid : id ∈ s.graph.circular
  · rw [lookup_of_circular h htask hid, Option.some.injEq] at hstate
    exact Or.inl ⟨hid, hstate.symm⟩
  · obtain ⟨task, state', htask', hstate', hrun⟩ := lookup_of_not_circular h htask hid
    rw [hstate', Option.some.injEq] at hstate
    exact Or.inr ⟨task, htask', hstate ▸ hrun⟩

/-- Whichever nodes have run so far, all states are well-formed. -/
lemma wellFormed_of_steps {ids : List String}
    (h : ids.foldlM (step s {}) (circularStates s) = .ok states) :
    ∀ id state, states.lookup id = some state → state.WellFormed := by
  refine foldlM_invariant
    (fun states => ∀ id state, states.lookup id = some state → state.WellFormed) ?_ ?_ h
  · intro k _ before after hbefore hstep id state hstate
    cases htask : s.tasks.lookup k with
    | none =>
      rw [step_of_no_task htask, Except.ok.injEq] at hstep
      exact hbefore id state (hstep ▸ hstate)
    | some task =>
      obtain ⟨new, hrun, rfl⟩ := ok_of_step_ok htask rfl hstep
      by_cases hid : id = k
      · subst hid
        rw [Keyed.lookup_put_self, Option.some.injEq] at hstate
        exact hstate ▸ wellFormed_runNode _ _ _ _ new hrun
      · rw [Keyed.lookup_put_of_ne _ hid] at hstate
        exact hbefore id state hstate
  · intro id state hstate
    rw [Keyed.lookup_eq_some_iff_of_nodup (nodup_keys_circularStates s)] at hstate
    obtain ⟨k, -, heq⟩ := List.mem_map.1 hstate
    obtain ⟨-, rfl⟩ := Prod.mk.inj heq
    exact wellFormed_failed _

/-- What the states of a full run are. -/
structure Consistent (s : Setup) (states : List (String × State)) : Prop where
  /-- There is one state for each node. -/
  nodup : (Keyed.keys states).Nodup
  mem_keys_iff : ∀ id, id ∈ Keyed.keys states ↔ id ∈ s.nodes.map Node.id
  circular : ∀ node ∈ s.nodes, node.id ∈ s.graph.circular →
    states.lookup node.id = some (.failed circularMessage)
  /-- The rule of a node that is not circular. -/
  ran : ∀ node ∈ s.nodes, node.id ∉ s.graph.circular → ∃ state,
    states.lookup node.id = some state ∧
      runNode s.feeds (fun id => states.lookup id) (inbound s.edges node.id) node.task = .ok state
  /-- A success needs the success of all that it works on. -/
  fed : ∀ node ∈ s.nodes, Succeeded (fun id => states.lookup id) node.id →
    Fed s.feeds (fun id => states.lookup id) (inbound s.edges node.id) node.task
  wellFormed : ∀ id state, states.lookup id = some state → state.WellFormed

/-- **The states of a full run are consistent with the graph.** -/
theorem consistent_of_run (hids : (s.nodes.map Node.id).Nodup) (h : run s {} = .ok states) :
    Consistent s states where
  nodup := nodup_keys_of_run h
  mem_keys_iff id := (mem_keys_of_run h id).trans mem_keys_tasks
  circular node hnode hid :=
    lookup_of_circular h (mem_keys_tasks.2 (List.mem_map_of_mem hnode)) hid
  ran node hnode hid := by
    obtain ⟨task, state, htask, hstate, hrun⟩ :=
      lookup_of_not_circular h (mem_keys_tasks.2 (List.mem_map_of_mem hnode)) hid
    rw [lookup_tasks hids hnode, Option.some.injEq] at htask
    exact ⟨state, hstate, htask ▸ hrun⟩
  fed := by
    rintro node hnode ⟨state, hstate, hsuccess⟩
    obtain ⟨-, rfl⟩ | ⟨task, htask, hrun⟩ := state_cases h hstate
    · exact absurd hsuccess (failed_ne_success _)
    · rw [lookup_tasks hids hnode, Option.some.injEq] at htask
      exact fed_of_runNode (htask ▸ hrun) hsuccess
  wellFormed := wellFormed_of_steps h

/-- Amounts, one of them missing. -/
def amounts : Dataset where
  rows := [[("id", .int 1), ("litres", .text "10")], [("id", .int 2), ("litres", .null)]]
  columns := [⟨"id", "id", .number, none⟩, ⟨"litres", "litres", .number, some "L"⟩]

/-- A price for the first of them. -/
def prices : Dataset where
  rows := [[("key", .int 1), ("price", .int 3)]]
  columns := [⟨"key", "key", .number, none⟩, ⟨"price", "price", .number, none⟩]

/-- A join listed before its sides, the main one without a handle; a column of what it costs, with
a scalar; a filter and a transform that are not set up, one of them behind no node; and a node that
reads itself. -/
def costs : Setup where
  nodes := [⟨"cost", .formula "[litres]*[Rate]" "cost" none⟩,
    ⟨"join", .join ⟨"id", "key", ["price"]⟩ "main" "lookup"⟩, ⟨"amounts", .dataset amounts⟩,
    ⟨"prices", .dataset prices⟩, ⟨"open", .filter none⟩, ⟨"stray", .transform []⟩,
    ⟨"ring", .transform []⟩]
  edges := [⟨"prices", "join", some "lookup"⟩, ⟨"amounts", "join", none⟩, ⟨"rate", "cost", none⟩,
    ⟨"join", "cost", none⟩, ⟨"amounts", "open", none⟩, ⟨"nowhere", "stray", none⟩,
    ⟨"ring", "ring", none⟩]
  feeds := [("rate", { label := "Rate", value := 2.0, unit := "EUR/L" })]

/-- The scalar takes part without a state, and nothing is made of a source that is not there. -/
theorem consistent_of_run_costs :
    (costs.nodes.map Node.id).Nodup ∧ ∃ states, run costs {} = .ok states ∧
      Consistent costs states ∧
      states.map (fun entry => (entry.1, entry.2.status, entry.2.rowCount)) =
        [("ring", .error, 0), ("amounts", .success, 2), ("prices", .success, 1),
         ("stray", .error, 0), ("open", .idle, 0), ("join", .success, 2),
         ("cost", .success, 2)] := by
  have hids : (costs.nodes.map Node.id).Nodup := by decide
  exact ⟨hids, _, rfl, consistent_of_run hids rfl, rfl⟩

end Worksheet.Pipeline
