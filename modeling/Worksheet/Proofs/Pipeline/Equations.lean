import Worksheet.Proofs.Pipeline.States

/-!
# The equations of a pipeline

The states of a finished run solve equations in which no order occurs, one for each node.  These
have one solution only, since a node in order reads nothing but nodes that stand before it.  So
two runs whose states solve the equations of one setup have the same states, however they came to
them: by running the nodes or by keeping earlier states.
-/

namespace Worksheet.Pipeline

open Dependency (Graph)
open Calculation (inbound)

/-- The equations of a setup: nothing but nodes has a state, nodes on a cycle or behind one are in
error, and every other node has the state that its rule gives on the states of its sources. -/
structure Setup.Solution (s : Setup) (state? : String → Option State) : Prop where
  no_task : ∀ id, s.tasks.lookup id = none → state? id = none
  circular : ∀ id ∈ Keyed.keys s.tasks, id ∉ s.graph.order →
    state? id = some (.failed circularMessage)
  ran : ∀ id ∈ s.graph.order, ∀ task, s.tasks.lookup id = some task → ∃ state,
    state? id = some state ∧ runNode s.feeds state? (inbound s.edges id) task = .ok state

variable {s : Setup} {state? state'? : String → Option State}

lemma solution_of_run {states : List (String × State)} (h : run s {} = .ok states) :
    s.Solution (fun id => states.lookup id) where
  no_task := (settled_of_run h).no_task
  circular id htask hid := by
    have hcircular := (mem_order_or_circular htask).resolve_left hid
    exact lookup_of_circular h htask hcircular
  ran := (settled_of_run h).ran

/-- Two solutions agree on the nodes in order: what stands before a node settles its state. -/
lemma Setup.Solution.eq_of_mem_order (h : s.Solution state?) (h' : s.Solution state'?) :
    ∀ id ∈ s.graph.order, state? id = state'? id := by
  suffices hprefix : ∀ done, done <+: s.graph.order → ∀ id ∈ done, state? id = state'? id from
    hprefix _ (List.prefix_refl _)
  intro done
  induction done using List.reverseRecOn with
  | nil => exact fun _ id hid => absurd hid List.not_mem_nil
  | append_singleton done id ih =>
    rintro ⟨rest, horder⟩ n hn
    rw [List.append_assoc, List.singleton_append] at horder
    have hdone := ih ⟨id :: rest, horder⟩
    rcases List.mem_append.1 hn with hn | hn
    · exact hdone n hn
    obtain rfl := List.mem_singleton.1 hn
    cases htask : s.tasks.lookup n with
    | none => rw [h.no_task n htask, h'.no_task n htask]
    | some task =>
      have hmem : n ∈ s.graph.order := by rw [← horder]; simp
      obtain ⟨state, hstate, hrun⟩ := h.ran n hmem task htask
      obtain ⟨state', hstate', hrun'⟩ := h'.ran n hmem task htask
      -- a source stands before the node, or is no node and has no state
      have hsame : runNode s.feeds state? (inbound s.edges n) task =
          runNode s.feeds state'? (inbound s.edges n) task := by
        refine runNode_congr (fun _ _ => rfl) fun e he _ => ?_
        by_cases hsource : e.source ∈ s.ids
        · exact hdone _ (Graph.source_mem_before horder.symm he hsource)
        · have hnone : s.tasks.lookup e.source = none := by
            rw [← Option.not_isSome_iff_eq_none, ← Keyed.mem_keys_iff]
            exact fun hkey => hsource (List.mem_append_left _ hkey)
          rw [h.no_task _ hnone, h'.no_task _ hnone]
      rw [hrun, hrun', Except.ok.injEq] at hsame
      rw [hstate, hstate', hsame]

/-- **The equations have one solution.** -/
lemma Setup.Solution.unique (h : s.Solution state?) (h' : s.Solution state'?) :
    state? = state'? := by
  funext id
  by_cases horder : id ∈ s.graph.order
  · exact h.eq_of_mem_order h' id horder
  by_cases htask : id ∈ Keyed.keys s.tasks
  · rw [h.circular id htask horder, h'.circular id htask horder]
  · rw [Keyed.mem_keys_iff, Option.not_isSome_iff_eq_none] at htask
    rw [h.no_task id htask, h'.no_task id htask]

/-- A run whose states solve the equations, some of them kept, is what a run from scratch is. -/
lemma run_eq_of_solution {reuse : Reuse} {last : List (String × State)}
    (h : run s reuse = .ok last) (hsolution : s.Solution fun id => last.lookup id) :
    run s {} = .ok last := by
  suffices hfold : ∀ (rest done : List String) (states : List (String × State)),
      s.graph.order = done ++ rest → rest.foldlM (step s reuse) states = .ok last →
        rest.foldlM (step s {}) states = .ok last from hfold _ [] _ rfl h
  intro rest
  induction rest with
  | nil => exact fun _ _ _ hlast => hlast
  | cons id rest ih =>
    intro done states horder hfold
    obtain ⟨next, hstep, hrest⟩ := exists_of_bind_eq_ok (List.foldlM_cons.symm.trans hfold)
    have hsame : step s {} states id = .ok next := by
      cases htask : s.tasks.lookup id with
      | none =>
        rw [step_of_no_task htask] at hstep ⊢
        exact hstep
      | some task =>
        have hmem : id ∈ s.graph.order := by rw [horder]; simp
        have hnodup : (id :: rest).Nodup := by
          have := Graph.order_nodup (graph_proper s)
          rw [horder] at this
          exact (List.nodup_append.1 this).2.1
        -- sources have had their turn, so their states are the last ones
        have hsources : runNode s.feeds (fun k => states.lookup k) (inbound s.edges id) task =
            runNode s.feeds (fun k => last.lookup k) (inbound s.edges id) task :=
          runNode_congr (fun _ _ => rfl) fun e he _ =>
            (lookup_of_not_mem hfold (Graph.source_not_mem_from horder he)).symm
        obtain ⟨state, hstate, hrun⟩ := hsolution.ran id hmem task htask
        have hnext : next.lookup id = some state := by
          rw [← hstate, lookup_of_not_mem hrest (List.nodup_cons.1 hnodup).1]
        rw [step_of_not_kept htask rfl, hsources, hrun]
        obtain ⟨put, rfl⟩ := exists_put_of_step htask hstep
        rw [Keyed.lookup_put_self, Option.some.injEq] at hnext
        rw [hnext]
        rfl
    rw [List.foldlM_cons, hsame]
    refine ih (done ++ [id]) next ?_ hrest
    rw [horder, List.append_assoc, List.singleton_append]

end Worksheet.Pipeline
