import Worksheet.Proofs.Pipeline.Equations
import Worksheet.Proofs.Pipeline.Reuse
import Worksheet.Proofs.Pipeline.Sides

/-!
# Running again after a removal

When a node or a feed has been removed, no edge of the graph starts at it any more, so that a run
which names it as changed finds nothing that depends on it: every node that is not circular keeps
its earlier state.  These states are those of a run from scratch exactly when they solve its
equations.  A node that takes a dataset from what was removed has to be in error for want of a
source, and it is only where it has been so before; all other equations hold still, unless the
removal has opened a cycle.
-/

namespace Worksheet.Pipeline

open Dependency (Graph)
open Calculation (inbound mem_inbound)
open Relation

/-- The setup without the nodes and the feed under one id; edges that touched it stay. -/
def Setup.without (s : Setup) (c : String) : Setup where
  nodes := s.nodes.filter fun node => node.id != c
  edges := s.edges
  feeds := Keyed.erase s.feeds c

/-- Among the edges into a node, one that starts at `source` brings its task a dataset. -/
def Task.Takes (feeds : List (String × Feed)) (edges : List Edge) (source : String)
    (task : Task) : Prop :=
  (∀ d, task ≠ .dataset d) ∧ ∃ e ∈ datasetEdges feeds task edges, e.source = source

/-! ### Rules without the removed source -/

section Rule

variable {feeds feeds' : List (String × Feed)} {state? state'? : String → Option State}
  {edges : List Edge} {task : Task} {c : String}

/-- A task that takes a dataset from what has no state is in error for want of a source. -/
lemma runNode_of_takes (h : task.Takes feeds edges c) (hc : state? c = none) :
    runNode feeds state? edges task = .ok (.failed noSourceMessage) := by
  obtain ⟨htask, e, he, rfl⟩ := h
  have hmap : ((datasetEdges feeds task edges).mapM fun e =>
      (state? e.source).bind State.supply?) = none := by
    cases hmap : (datasetEdges feeds task edges).mapM fun e =>
        (state? e.source).bind State.supply? with
    | none => rfl
    | some sources =>
      obtain ⟨state, hstate, -⟩ := (succeeded_of_mapM hmap).2 e he
      rw [hc] at hstate
      exact absurd hstate (by simp)
  unfold runNode
  split
  · exact absurd rfl (htask _)
  · rw [hmap]

/-- What has no feed brings a dataset, if it brings anything, to a task with any number of
sources. -/
lemma takes_of_mem (htask : ∀ d, task ≠ .dataset d)
    (hjoin : ∀ keys main lookup, task ≠ .join keys main lookup) (hc : feeds.lookup c = none)
    {e : Edge} (he : e ∈ edges) (hsource : e.source = c) : task.Takes feeds edges c := by
  refine ⟨htask, e, ?_, hsource⟩
  have hedges : datasetEdges feeds task edges =
      edges.filter fun e => !Keyed.has feeds e.source := by
    unfold datasetEdges
    split
    · exact absurd rfl (hjoin _ _ _)
    · rfl
  rw [hedges, List.mem_filter, Bool.not_eq_true', ← Bool.not_eq_true, Keyed.has_iff_mem_keys,
    Keyed.mem_keys_iff, hsource, hc]
  exact ⟨he, by simp⟩

lemma runSources_join (scalars scalars' : List (String × ScalarInput))
    (sources : List (Option Dataset)) (keys : Table.JoinKeys) (mainHandle lookupHandle : String) :
    runSources scalars sources (.join keys mainHandle lookupHandle) =
      runSources scalars' sources (.join keys mainHandle lookupHandle) := by
  cases sources with
  | nil => rfl
  | cons source others => cases source <;> rfl

/-- A join that takes no side from the removed source has the sides that it had. -/
lemma datasetEdges_join_of_not_takes {keys : Table.JoinKeys} {mainHandle lookupHandle : String}
    (hfeeds : ∀ k, k ≠ c → feeds'.lookup k = feeds.lookup k) (hc : feeds'.lookup c = none)
    (h : ¬ (Task.join keys mainHandle lookupHandle).Takes feeds' edges c) :
    datasetEdges feeds' (.join keys mainHandle lookupHandle) edges =
      datasetEdges feeds (.join keys mainHandle lookupHandle) edges := by
  have hhas : ∀ k, Keyed.has feeds k = (feeds.lookup k).isSome := fun k => by
    rw [Bool.eq_iff_iff, Keyed.has_iff_mem_keys, Keyed.mem_keys_iff]
  have hhas' : ∀ k, Keyed.has feeds' k = (feeds'.lookup k).isSome := fun k => by
    rw [Bool.eq_iff_iff, Keyed.has_iff_mem_keys, Keyed.mem_keys_iff]
  cases hfed : feeds.lookup c with
  | none =>
    have hsame : ∀ k, feeds'.lookup k = feeds.lookup k := fun k => by
      by_cases hk : k = c
      · rw [hk, hc, hfed]
      · exact hfeeds k hk
    simp only [datasetEdges, hhas, hhas', hsame]
  | some feed =>
    -- before the removal its edges brought a scalar, now they are edges that no side takes
    have hfilter : (edges.filter fun e => !Keyed.has feeds e.source) =
        (edges.filter fun e => !Keyed.has feeds' e.source).filter fun e => e.source != c := by
      rw [List.filter_filter]
      refine List.filter_congr fun e _ => ?_
      by_cases he : e.source = c
      · simp [hhas, he, hfed]
      · simp [hhas, hhas', hfeeds _ he, he]
    have hsides : joinSides mainHandle lookupHandle
        ((edges.filter fun e => !Keyed.has feeds' e.source).filter fun e => e.source != c) =
        joinSides mainHandle lookupHandle (edges.filter fun e => !Keyed.has feeds' e.source) :=
      joinSides_filter fun e he => bne_iff_ne.2 fun hsource => h ⟨by simp, e, he, hsource⟩
    rw [datasetEdges, datasetEdges, hfilter, hsides]

/-- A task that takes no dataset from the removed source does as before. -/
lemma runNode_of_not_takes (hfeeds : ∀ k, k ≠ c → feeds'.lookup k = feeds.lookup k)
    (hc : feeds'.lookup c = none) (h : ¬ task.Takes feeds' edges c)
    (hstates : ∀ e ∈ edges, e.source ≠ c → state'? e.source = state? e.source) :
    runNode feeds' state'? edges task = runNode feeds state? edges task := by
  have hplain : (∀ d, task ≠ .dataset d) → (∀ keys main lookup, task ≠ .join keys main lookup) →
      runNode feeds' state'? edges task = runNode feeds state? edges task := by
    intro htask hjoin
    have hne : ∀ e ∈ edges, e.source ≠ c := fun e he hsource =>
      h (takes_of_mem htask hjoin hc he hsource)
    exact runNode_congr (fun e he => hfeeds _ (hne e he)) fun e he _ => hstates e he (hne e he)
  cases task with
  | dataset d => rfl
  | filter criteria => exact hplain (by simp) (by simp)
  | formula formula newColumn unitOverride => exact hplain (by simp) (by simp)
  | transform operations => exact hplain (by simp) (by simp)
  | join keys mainHandle lookupHandle =>
    have hedges := datasetEdges_join_of_not_takes hfeeds hc h
    have hsources : ((datasetEdges feeds (.join keys mainHandle lookupHandle) edges).mapM
          fun e => (state'? e.source).bind State.supply?) =
        (datasetEdges feeds (.join keys mainHandle lookupHandle) edges).mapM
          fun e => (state? e.source).bind State.supply? := by
      refine mapM_option_congr fun e he => ?_
      rw [hstates e (mem_of_mem_datasetEdges he).1 fun hsource =>
        h ⟨by simp, e, hedges ▸ he, hsource⟩]
    unfold runNode
    simp only [hedges, hsources]
    cases (datasetEdges feeds (.join keys mainHandle lookupHandle) edges).mapM
        fun e => (state? e.source).bind State.supply? with
    | none => rfl
    | some sources => exact runSources_join _ _ sources keys mainHandle lookupHandle

/-- A fault that belongs to no row has another wording than a circular node. -/
lemma message_ne_circular {fault : Table.TableFault} (h : fault.row = -1) :
    fault.message ≠ circularMessage := by
  intro hmessage
  have hlist : fault.message.toList = 'C' :: 'i' :: "rcular dependency detected".toList := by
    rw [hmessage]
    rfl
  cases fault with
  | badFormula fault => exact absurd h (show (1 : Int) ≠ -1 by decide)
  | badRow row fault => exact absurd h (show (row : Int) ≠ -1 by omega)
  | badResult row => exact absurd h (show (row : Int) ≠ -1 by omega)
  | unknownWord word =>
    have htext : (Table.TableFault.unknownWord word).message = "Invalid term \"" ++ word ++
      "\" - column/scalar references must be in brackets like [" ++ word ++
        "]. If this is a function, check spelling." := rfl
    have hstart : "Invalid term \"".toList = 'I' :: "nvalid term \"".toList := rfl
    rw [htext, String.append_assoc, String.append_assoc, String.append_assoc,
      String.toList_append, hstart, List.cons_append] at hlist
    exact absurd (List.cons.inj hlist).1 (by decide)
  | missingSource index =>
    have htext : (Table.TableFault.missingSource index).message =
      "Combine source " ++ toString index ++ " is not connected" := rfl
    have hstart : "Combine source ".toList = 'C' :: 'o' :: "mbine source ".toList := rfl
    rw [htext, String.append_assoc, String.toList_append, hstart, List.cons_append,
      List.cons_append] at hlist
    exact absurd (List.cons.inj (List.cons.inj hlist).2).1 (by decide)
  | _ => exact absurd hmessage (by decide)

/-- No rule comes to the state of a circular node. -/
lemma ne_circular_of_ruled {state : State} (h : state.Ruled) : state ≠ .failed circularMessage := by
  obtain rfl | ⟨outcome, rfl⟩ := h
  · simp [State.failed]
  · cases outcome with
    | ok result => simp [State.ofOutcome, State.ready, State.failed]
    | error fault =>
      rw [State.ofOutcome, State.failed]
      intro heq
      obtain ⟨hrow, hmessage⟩ := RowError.mk.inj (Option.some.inj (State.mk.inj heq).2.2.1)
      exact message_ne_circular hrow hmessage

end Rule

/-! ### The setup after the removal -/

section Without

variable (s : Setup) (c : String)

lemma lookup_tasks_without (id : String) :
    (s.without c).tasks.lookup id = if id = c then none else s.tasks.lookup id := by
  have hpairs : ((s.without c).nodes.map fun node => (node.id, node.task)).reverse =
      Keyed.erase (s.nodes.map fun node => (node.id, node.task)).reverse c := by
    rw [Keyed.erase, List.filter_reverse, List.filter_map]
    rfl
  rw [Setup.tasks, Setup.tasks, Keyed.lookup_ofPairs, Keyed.lookup_ofPairs, hpairs,
    Keyed.lookup_erase]

lemma lookup_feeds_without (id : String) :
    (s.without c).feeds.lookup id = if id = c then none else s.feeds.lookup id :=
  Keyed.lookup_erase s.feeds c id

lemma mem_ids_without (id : String) : id ∈ (s.without c).ids ↔ id ∈ s.ids ∧ id ≠ c := by
  rw [Setup.ids, Setup.ids, List.mem_append, List.mem_append, Keyed.mem_keys_iff,
    Keyed.mem_keys_iff, Keyed.mem_keys_iff, Keyed.mem_keys_iff, lookup_tasks_without,
    lookup_feeds_without]
  by_cases h : id = c <;> simp [h]

/-- No link starts at what was removed. -/
lemma not_reached_without {id : String} (hid : id ≠ c) :
    ¬ ReflTransGen (s.without c).graph.Linked c id := by
  intro hwalk
  rcases ReflTransGen.cases_head hwalk with heq | ⟨next, hlink, -⟩
  · exact hid heq.symm
  · have hmem := (graph_proper _).source_mem hlink
    rw [graph_eq, Graph.mem_nodes_ofEdges, mem_ids_without] at hmem
    exact hmem.2 rfl

end Without

/-! ### The run after the removal -/

section Run

variable {s : Setup} {c : String} {previous : List (String × State)} {id : String} {task : Task}

lemma ne_of_lookup_tasks_without (h : (s.without c).tasks.lookup id = some task) :
    id ≠ c ∧ s.tasks.lookup id = some task := by
  rw [lookup_tasks_without] at h
  by_cases hid : id = c
  · rw [if_pos hid] at h
    exact absurd h (by simp)
  · rw [if_neg hid] at h
    exact ⟨hid, h⟩

/-- Every node that is left has an earlier state, and this is kept. -/
lemma exists_kept (ran : run s {} = .ok previous)
    (htask : (s.without c).tasks.lookup id = some task) : ∃ state,
      previous.lookup id = some state ∧
        Reuse.kept? { previous, changed := some c } (s.without c).graph id = some state := by
  obtain ⟨hid, htask⟩ := ne_of_lookup_tasks_without htask
  have hkey : id ∈ Keyed.keys previous := by
    rw [mem_keys_of_run ran, Keyed.mem_keys_iff, htask]
    rfl
  obtain ⟨state, hstate⟩ := Option.isSome_iff_exists.1 (Keyed.mem_keys_iff.1 hkey)
  refine ⟨state, hstate, ?_⟩
  rw [Setup.EditedAt.kept?_of_not_reached previous (graph_proper _)
    (not_reached_without s c hid), hstate]

/-- **What a removal leaves.**  The run returns, and all nodes that are not circular have the
states that they had. -/
lemma exists_run_without (ran : run s {} = .ok previous) : ∃ states,
    run (s.without c) { previous, changed := some c } = .ok states ∧
      ∀ id ∈ (s.without c).graph.order, ∀ task, (s.without c).tasks.lookup id = some task →
        states.lookup id = previous.lookup id := by
  have hreturns : ¬ Fails (run (s.without c) { previous, changed := some c }) := by
    rintro ⟨fault, hfault⟩
    obtain ⟨before, id, after, states, -, -, hstep⟩ := foldlM_eq_error_iff.1 hfault
    cases htask : (s.without c).tasks.lookup id with
    | none =>
      rw [step_of_no_task htask] at hstep
      exact absurd hstep (by simp)
    | some task =>
      obtain ⟨state, -, hkept⟩ := exists_kept ran htask
      rw [step_of_kept htask hkept] at hstep
      exact absurd hstep (by simp)
  obtain ⟨states, hrun⟩ := not_fails_iff.1 hreturns
  refine ⟨states, hrun, fun id hid task htask => ?_⟩
  obtain ⟨state, hstate, hkept⟩ := exists_kept ran htask
  rw [hstate]
  exact lookup_of_kept hrun hid htask hkept

/-- If the equations at the nodes that would take a dataset from what was removed hold for the
states that they had, all equations hold for the states that are kept. -/
lemma solution_of_kept {states : List (String × State)} (ran : run s {} = .ok previous)
    (hrun : run (s.without c) { previous, changed := some c } = .ok states)
    (hkept : ∀ id ∈ (s.without c).graph.order, ∀ task,
      (s.without c).tasks.lookup id = some task → states.lookup id = previous.lookup id)
    (h : ∀ id ∈ (s.without c).graph.order, ∀ task, (s.without c).tasks.lookup id = some task →
      id ∈ s.graph.order ∧ (task.Takes (s.without c).feeds (inbound s.edges id) c →
        previous.lookup id = some (.failed noSourceMessage))) :
    (s.without c).Solution fun id => states.lookup id where
  no_task id hnone := lookup_of_no_task hrun hnone
  circular id htask hid :=
    lookup_of_circular hrun htask ((mem_order_or_circular htask).resolve_left hid)
  ran id hid task htask := by
    obtain ⟨horder, hstarved⟩ := h id hid task htask
    obtain ⟨-, hbefore⟩ := ne_of_lookup_tasks_without htask
    obtain ⟨state, hstate, hrule⟩ := (settled_of_run ran).ran id horder task hbefore
    refine ⟨state, (hkept id hid task htask).trans hstate, ?_⟩
    by_cases htakes : task.Takes (s.without c).feeds (inbound s.edges id) c
    · have hremoved : states.lookup c = none :=
        lookup_of_no_task hrun (by rw [lookup_tasks_without, if_pos rfl])
      have hsame := hstate.symm.trans (hstarved htakes)
      rw [Option.some.inj hsame]
      exact runNode_of_takes htakes hremoved
    · rw [← hrule]
      refine runNode_of_not_takes (fun k hk => ?_) ?_ htakes fun e he hne => ?_
      · rw [lookup_feeds_without, if_neg hk]
      · rw [lookup_feeds_without, if_pos rfl]
      · -- another source is a node in order and keeps its state, or it has none in both runs
        cases hsource : (s.without c).tasks.lookup e.source with
        | none =>
          have hsource' := hsource
          rw [lookup_tasks_without, if_neg hne] at hsource'
          rw [lookup_of_no_task hrun hsource, lookup_of_no_task ran hsource']
        | some task' =>
          have hnode : e.source ∈ (s.without c).ids := by
            refine List.mem_append_left _ (Keyed.mem_keys_iff.2 ?_)
            rw [hsource]
            rfl
          obtain ⟨before, after, hsplit⟩ := List.append_of_mem hid
          have hmem : e.source ∈ (s.without c).graph.order := by
            rw [hsplit]
            exact List.mem_append_left _ (Graph.source_mem_before hsplit he hnode)
          exact hkept e.source hmem task' hsource

/-- **Which removals leave stale states.**  After a node or a feed has been removed, a run that
names it as changed returns, and all nodes that are not circular keep their states.  These are the
states of a run from scratch if and only if the removal opens no cycle, and every node that would
take a dataset from what was removed has been in error for want of a source before. -/
theorem run_without_iff (ran : run s {} = .ok previous) :
    (∃ states, run (s.without c) { previous, changed := some c } = .ok states ∧
      ∀ id ∈ (s.without c).graph.order, ∀ task, (s.without c).tasks.lookup id = some task →
        states.lookup id = previous.lookup id) ∧
    (run (s.without c) { previous, changed := some c } = run (s.without c) {} ↔
      ∀ id ∈ (s.without c).graph.order, ∀ task, (s.without c).tasks.lookup id = some task →
        id ∈ s.graph.order ∧
        (task.Takes (s.without c).feeds (inbound s.edges id) c →
          previous.lookup id = some (.failed noSourceMessage))) := by
  obtain ⟨states, hrun, hkept⟩ := exists_run_without (c := c) ran
  refine ⟨⟨states, hrun, hkept⟩, ?_⟩
  have hremoved : states.lookup c = none :=
    lookup_of_no_task hrun (by rw [lookup_tasks_without, if_pos rfl])
  rw [hrun]
  constructor
  · intro hfresh id hid task htask
    obtain ⟨state, hstate, hrule⟩ := (solution_of_run hfresh.symm).ran id hid task htask
    have hprevious : previous.lookup id = some state := (hkept id hid task htask).symm.trans hstate
    constructor
    · by_contra hout
      have hkey : id ∈ Keyed.keys s.tasks := by
        rw [Keyed.mem_keys_iff, (ne_of_lookup_tasks_without htask).2]
        rfl
      have hcircular :=
        lookup_of_circular ran hkey ((mem_order_or_circular hkey).resolve_left hout)
      rw [hprevious, Option.some.injEq] at hcircular
      exact ne_circular_of_ruled (ruled_runNode _ _ _ _ state hrule) hcircular
    · intro htakes
      have hstarved := hrule.symm.trans (runNode_of_takes htakes hremoved)
      rw [hprevious, Except.ok.inj hstarved]
  · intro h
    refine (run_eq_of_solution hrun ?_).symm
    exact solution_of_kept ran hrun hkept h

end Run

/-- Without its table the branched pipeline keeps all states, successes that have lost their input;
without the node that nothing reads it comes to the states of a run from scratch. -/
theorem run_without_iff_branched :
    run branched {} = .ok branchedStates ∧
    run (branched.without "raw") { previous := branchedStates, changed := some "raw" } =
      .ok (branchedStates.drop 1) ∧
    run (branched.without "raw") { previous := branchedStates, changed := some "raw" } ≠
      run (branched.without "raw") {} ∧
    run (branched.without "keys") { previous := branchedStates, changed := some "keys" } =
      run (branched.without "keys") {} := by
  have ran : run branched {} = .ok branchedStates := rfl
  refine ⟨ran, rfl, fun heq => ?_, (run_without_iff ran).2.2 fun id hid task htask => ?_⟩
  · have htakes : (Task.transform [.delete "id"]).Takes (branched.without "raw").feeds
        (inbound branched.edges "amounts") "raw" :=
      ⟨by simp, ⟨"raw", "amounts", none⟩, by decide, rfl⟩
    have hstarved :=
      ((run_without_iff ran).2.1 heq "amounts" (by decide) _ rfl).2 htakes
    have hstatus : some Status.success = some Status.error :=
      congrArg (Option.map State.status) hstarved
    exact absurd hstatus (by decide)
  · have horder : ∀ id ∈ (branched.without "keys").graph.order, id ∈ branched.graph.order ∧
        ∀ e ∈ inbound branched.edges id, e.source ≠ "keys" := by decide
    refine ⟨(horder id hid).1, fun htakes => ?_⟩
    obtain ⟨-, e, he, hsource⟩ := htakes
    exact absurd hsource ((horder id hid).2 e (mem_of_mem_datasetEdges he).1)

end Worksheet.Pipeline
