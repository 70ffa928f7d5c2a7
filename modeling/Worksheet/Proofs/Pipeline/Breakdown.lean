import Worksheet.Proofs.Pipeline.States
import Worksheet.Proofs.Table.Overflow

/-!
# When a run breaks off

A fault that a table operation reports becomes the state of its node, and the run goes on.  A fault
of arithmetic outside of any row becomes nobody's state: it ends the run, and all nodes lose their
results.  This happens exactly when a filter or a formula column gets its turn and the dataset that
it receives overflows it; else every node has a state in the end.
-/

namespace Worksheet.Pipeline

open Calculation (inbound)

/-- The dataset breaks off the task. -/
def Task.Overflows (d : Dataset) : Task → Prop
  | .filter (some criteria) => criteria.Overflows d.rows
  | .formula text newColumn _ =>
    Table.validate text newColumn = none ∧ ∃ a ∈ Table.aggregates text, a.Overflows d.rows
  | _ => False

/-- All sources of the node have succeeded, and the first of them gives this dataset. -/
def Receives (feeds : List (String × Feed)) (state? : String → Option State) (edges : List Edge)
    (task : Task) (d : Dataset) : Prop :=
  ∃ first rest, datasetEdges feeds task edges = first :: rest ∧
    (∀ e ∈ first :: rest, Succeeded state? e.source) ∧
    ∃ state, state? first.source = some state ∧ state.dataset = some d

/-! ### One node -/

lemma not_blank_of_validate {formula newColumn : String}
    (h : Table.validate formula newColumn = none) :
    ¬(Text.isBlankText formula || Text.isBlankText newColumn) := by
  unfold Table.validate at h
  split at h
  · exact absurd h (by simp)
  · split at h
    · exact absurd h (by simp)
    · split at h
      · exact absurd h (by simp)
      · simp_all

lemma fails_runTask {scalars : List (String × ScalarInput)} {first : Dataset}
    {others : List Dataset} {task : Task} :
    Fails (runTask scalars first others task) ↔ task.Overflows first := by
  cases task with
  | dataset d => exact iff_of_false (not_fails_ok _) not_false
  | filter criteria =>
    cases criteria with
    | none => exact iff_of_false (not_fails_ok _) not_false
    | some criteria => rw [runTask, fails_bind_pure, Table.fails_filter, Task.Overflows]
  | formula text newColumn unitOverride =>
    rw [runTask, Task.Overflows]
    split
    · rename_i hblank
      exact iff_of_false (not_fails_ok _) fun h => not_blank_of_validate h.1 hblank
    · rw [fails_bind_pure, Table.fails_addColumn]
  | transform operations =>
    rw [runTask]
    split <;> exact iff_of_false (not_fails_ok _) not_false
  | join keys mainHandle lookupHandle =>
    cases others <;> exact iff_of_false (not_fails_ok _) not_false

lemma runSources_some (scalars : List (String × ScalarInput)) (first : Dataset)
    (others : List Dataset) (task : Task) :
    runSources scalars (some first :: others.map some) task =
      (runTask scalars first others task).mapError .arithmetic := by
  have hothers : (others.map some).filterMap id = others := by simp
  rw [runSources, if_pos (by simp), hothers]

section Sources

variable {state? : String → Option State}

/-- Sources that have succeeded supply datasets. -/
lemma exists_mapM_supply (hstates : ∀ id state, state? id = some state → state.WellFormed)
    {edges : List Edge} (h : ∀ e ∈ edges, Succeeded state? e.source) : ∃ ds : List Dataset,
      edges.mapM (fun e => (state? e.source).bind State.supply?) = some (ds.map some) ∧
        List.Forall₂ (fun e d => ∃ state, state? e.source = some state ∧ state.dataset = some d)
          edges ds := by
  induction edges with
  | nil => exact ⟨[], rfl, .nil⟩
  | cons edge edges ih =>
    obtain ⟨ds, hmap, hds⟩ := ih fun e he => h e (List.mem_cons_of_mem edge he)
    obtain ⟨state, hstate, hsuccess⟩ := h edge List.mem_cons_self
    obtain ⟨-, d, hd, -⟩ := (hstates _ state hstate).success hsuccess
    have hsupply : (state? edge.source).bind State.supply? = some (some d) := by
      rw [hstate, Option.bind_some, State.supply?, if_pos (beq_iff_eq.2 hsuccess), hd]
    refine ⟨d :: ds, ?_, .cons ⟨state, hstate, hd⟩ hds⟩
    rw [List.mapM_cons, hsupply, hmap]
    rfl

variable {feeds : List (String × Feed)} {edges : List Edge} {task : Task}

/-- A node that receives a dataset runs its task on it. -/
lemma runNode_of_receives (hstates : ∀ id state, state? id = some state → state.WellFormed)
    {d : Dataset} (h : Receives feeds state? edges task d) (htask : ∀ d, task ≠ .dataset d) :
    ∃ others, runNode feeds state? edges task =
      (runTask (scalarInputs feeds edges) d others task).mapError .arithmetic := by
  obtain ⟨first, rest, hedges, hsucceeded, state, hstate, hd⟩ := h
  obtain ⟨ds, hmap, hds⟩ := exists_mapM_supply hstates hsucceeded
  obtain ⟨d', others, ⟨state', hstate', hd'⟩, -, rfl⟩ := List.forall₂_cons_left_iff.1 hds
  rw [hstate, Option.some.injEq] at hstate'
  rw [← hstate', hd, Option.some.injEq] at hd'
  refine ⟨others, ?_⟩
  rw [← runSources_some, hd', ← List.map_cons]
  unfold runNode
  split
  · exact absurd rfl (htask _)
  · rw [hedges, hmap]

/-- A node that breaks off has received a dataset. -/
lemma receives_of_runNode_eq_error
    (hstates : ∀ id state, state? id = some state → state.WellFormed) {breakdown : Breakdown}
    (h : runNode feeds state? edges task = .error breakdown) :
    (∃ d, Receives feeds state? edges task d) ∧ ∀ d, task ≠ .dataset d := by
  unfold runNode at h
  split at h
  · exact absurd h (by simp)
  · rename_i htask
    refine ⟨?_, htask⟩
    split at h
    · rename_i sources hmap
      obtain ⟨-, hsucceeded⟩ := succeeded_of_mapM hmap
      obtain ⟨ds, hmap', hds⟩ := exists_mapM_supply hstates hsucceeded
      rw [hmap, Option.some.injEq] at hmap'
      subst hmap'
      cases hedges : datasetEdges feeds task edges with
      | nil =>
        rw [hedges] at hds
        cases hds
        exact absurd h (by simp [runSources])
      | cons first rest =>
        rw [hedges] at hds hsucceeded
        obtain ⟨d, -, hfirst, -⟩ := List.forall₂_cons_left_iff.1 hds
        exact ⟨d, first, rest, hedges, hsucceeded, hfirst⟩
    · exact absurd h (by simp)

lemma fails_runNode (hstates : ∀ id state, state? id = some state → state.WellFormed) :
    Fails (runNode feeds state? edges task) ↔
      ∃ d, Receives feeds state? edges task d ∧ task.Overflows d := by
  constructor
  · rintro ⟨breakdown, h⟩
    obtain ⟨⟨d, hd⟩, htask⟩ := receives_of_runNode_eq_error hstates h
    obtain ⟨others, heq⟩ := runNode_of_receives hstates hd htask
    have hfails : Fails (runNode feeds state? edges task) := ⟨breakdown, h⟩
    rw [heq, fails_mapError, fails_runTask] at hfails
    exact ⟨d, hd, hfails⟩
  · rintro ⟨d, hd, hoverflows⟩
    have htask : ∀ d, task ≠ .dataset d := by
      rintro d rfl
      exact hoverflows
    obtain ⟨others, heq⟩ := runNode_of_receives hstates hd htask
    rw [heq, fails_mapError, fails_runTask]
    exact hoverflows

/-- No node asks an absent dataset. -/
lemma arithmetic_of_runNode_eq_error
    (hstates : ∀ id state, state? id = some state → state.WellFormed) {breakdown : Breakdown}
    (h : runNode feeds state? edges task = .error breakdown) :
    ∃ fault, breakdown = .arithmetic fault := by
  obtain ⟨⟨d, hd⟩, htask⟩ := receives_of_runNode_eq_error hstates h
  obtain ⟨others, heq⟩ := runNode_of_receives hstates hd htask
  rw [heq] at h
  cases hrun : runTask (scalarInputs feeds edges) d others task with
  | error fault =>
    rw [hrun] at h
    exact ⟨fault, (Except.error.inj h).symm⟩
  | ok state =>
    rw [hrun] at h
    exact absurd h (by simp [Except.mapError])

end Sources

/-! ### A run -/

variable {s : Setup}

/-- The states that a node finds when its turn comes: those after the nodes before it in order. -/
def Finds (s : Setup) (id : String) (states : List (String × State)) : Prop :=
  ∃ before after, s.graph.order = before ++ id :: after ∧
    before.foldlM (step s {}) (circularStates s) = .ok states

/-- The node gets its turn, and then the dataset that it receives overflows its task. -/
def BreaksOff (s : Setup) (node : Node) : Prop :=
  ∃ states d, Finds s node.id states ∧
    Receives s.feeds (fun id => states.lookup id) (inbound s.edges node.id) node.task d ∧
    node.task.Overflows d

lemma Finds.wellFormed {id : String} {states : List (String × State)} (h : Finds s id states) :
    ∀ id state, states.lookup id = some state → state.WellFormed := by
  obtain ⟨before, after, -, hbefore⟩ := h
  exact wellFormed_of_steps hbefore

/-- A run breaks off as a node does when its turn comes. -/
lemma run_eq_error_iff {breakdown : Breakdown} :
    run s {} = .error breakdown ↔ ∃ id states task,
      Finds s id states ∧ s.tasks.lookup id = some task ∧
        runNode s.feeds (fun id => states.lookup id) (inbound s.edges id) task =
          .error breakdown := by
  have hstep {id : String} {states : List (String × State)} :
      step s {} states id = .error breakdown ↔ ∃ task, s.tasks.lookup id = some task ∧
        runNode s.feeds (fun id => states.lookup id) (inbound s.edges id) task =
          .error breakdown := by
    cases htask : s.tasks.lookup id with
    | none => simp [step_of_no_task htask]
    | some task =>
      rw [step_of_not_kept htask rfl, map_eq_error_iff]
      simp
  rw [run, foldlM_eq_error_iff]
  simp only [hstep]
  constructor
  · rintro ⟨before, id, after, states, horder, hbefore, task, htask, hrun⟩
    exact ⟨id, states, task, ⟨before, after, horder, hbefore⟩, htask, hrun⟩
  · rintro ⟨id, states, task, ⟨before, after, horder, hbefore⟩, htask, hrun⟩
    exact ⟨before, id, after, states, horder, hbefore, task, htask, hrun⟩

lemma arithmetic_of_run_eq_error {breakdown : Breakdown} (h : run s {} = .error breakdown) :
    ∃ fault, breakdown = .arithmetic fault := by
  obtain ⟨id, states, task, hfinds, -, hrun⟩ := run_eq_error_iff.1 h
  exact arithmetic_of_runNode_eq_error hfinds.wellFormed hrun

lemma fails_run (hids : (s.nodes.map Node.id).Nodup) :
    Fails (run s {}) ↔ ∃ node ∈ s.nodes, BreaksOff s node := by
  constructor
  · rintro ⟨breakdown, h⟩
    obtain ⟨id, states, task, hfinds, htask, hrun⟩ := run_eq_error_iff.1 h
    have hkey : id ∈ Keyed.keys s.tasks := by
      rw [Keyed.mem_keys_iff, htask]
      rfl
    obtain ⟨node, hnode, rfl⟩ := List.mem_map.1 (mem_keys_tasks.1 hkey)
    rw [lookup_tasks hids hnode, Option.some.injEq] at htask
    subst htask
    obtain ⟨d, hd, hoverflows⟩ := (fails_runNode hfinds.wellFormed).1 ⟨breakdown, hrun⟩
    exact ⟨node, hnode, states, d, hfinds, hd, hoverflows⟩
  · rintro ⟨node, hnode, states, d, hfinds, hd, hoverflows⟩
    obtain ⟨breakdown, hrun⟩ := (fails_runNode hfinds.wellFormed).2 ⟨d, hd, hoverflows⟩
    exact ⟨breakdown,
      run_eq_error_iff.2 ⟨node.id, states, node.task, hfinds, lookup_tasks hids hnode, hrun⟩⟩

/-- **When a run has a state for every node.**  It has one unless a node breaks off, and then it ends
with a fault of arithmetic. -/
theorem run_complete_iff (hids : (s.nodes.map Node.id).Nodup) :
    ((∃ states, run s {} = .ok states ∧
      ∀ node ∈ s.nodes, ∃ state, states.lookup node.id = some state) ↔
      ∀ node ∈ s.nodes, ¬BreaksOff s node) ∧
    ∀ breakdown, run s {} = .error breakdown → ∃ fault, breakdown = .arithmetic fault := by
  refine ⟨?_, fun breakdown => arithmetic_of_run_eq_error⟩
  have hbreaks : (∀ node ∈ s.nodes, ¬BreaksOff s node) ↔ ¬Fails (run s {}) := by
    rw [fails_run hids]
    simp only [not_exists, not_and]
  rw [hbreaks, not_fails_iff]
  refine exists_congr fun states => and_iff_left_of_imp fun h node hnode => ?_
  have hkey : node.id ∈ Keyed.keys states :=
    (mem_keys_of_run h node.id).2 (mem_keys_tasks.2 (List.mem_map_of_mem hnode))
  exact Option.isSome_iff_exists.1 (Keyed.mem_keys_iff.1 hkey)

/-- The least amount beyond the range of doubles. -/
def amount : Dataset where
  rows := [[("litres", .int Double.integerBound)]]
  columns := [⟨"litres", "litres", .number, none⟩]

/-- A filter on it, and next to it a transform that has nothing to do with the amount. -/
def filtered : Setup where
  nodes := [⟨"amount", .dataset amount⟩, ⟨"rest", .transform [.delete "litres"]⟩,
    ⟨"positive", .filter (some ⟨"litres", ">", .int 0, .value⟩)⟩]
  edges := [⟨"amount", "positive", none⟩, ⟨"amount", "rest", none⟩]

/-- The transform loses its result to the filter. -/
theorem run_complete_iff_filtered :
    (filtered.nodes.map Node.id).Nodup ∧
      run filtered {} = .error (.arithmetic .integerTooLarge) ∧
      ∃ node ∈ filtered.nodes, BreaksOff filtered node := by
  have hids : (filtered.nodes.map Node.id).Nodup := by decide
  have hunit : (run filtered {}).map (fun _ => ()) = .error (.arithmetic .integerTooLarge) := by
    decide +kernel
  have hrun := map_eq_error_iff.1 hunit
  refine ⟨hids, hrun, ?_⟩
  by_contra hnone
  obtain ⟨states, hstates, -⟩ :=
    (run_complete_iff hids).1.2 fun node hnode hbreaks => hnone ⟨node, hnode, hbreaks⟩
  rw [hrun] at hstates
  exact absurd hstates (by simp)

end Worksheet.Pipeline
