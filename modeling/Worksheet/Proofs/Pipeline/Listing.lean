import Worksheet.Proofs.Pipeline.Equations

/-!
# How a pipeline is listed

The order in which a run goes through the nodes hangs on how nodes and edges are listed.  The states
that it leaves behind do not: they are the solution of equations, and what the equations mention is
the same in both listings: the tasks, the feeds, the edges into each node, and which nodes are
behind a cycle.
-/

namespace Worksheet.Pipeline

open Dependency (Graph)
open Calculation (inbound mem_inbound)

variable {s s' : Setup} {state? : String → Option State}

/-- The second setup lists the nodes of the first in another order, and its edges in another order
in which the edges into each node come as before. -/
structure Setup.Relisted (s s' : Setup) : Prop where
  nodes : s.nodes.Perm s'.nodes
  feeds : s.feeds = s'.feeds
  edges : ∀ target, inbound s.edges target = inbound s'.edges target

/-- The task of an id, where ids are distinct. -/
lemma lookup_tasks_eq_some_iff (hids : (s.nodes.map Node.id).Nodup) {id : String} {task : Task} :
    s.tasks.lookup id = some task ↔ ⟨id, task⟩ ∈ s.nodes := by
  constructor
  · intro h
    have hid : id ∈ s.nodes.map Node.id := by
      rw [← mem_keys_tasks, Keyed.mem_keys_iff, h]
      rfl
    obtain ⟨node, hnode, rfl⟩ := List.mem_map.1 hid
    rw [lookup_tasks hids hnode, Option.some.injEq] at h
    exact h ▸ hnode
  · exact fun h => lookup_tasks hids h

namespace Setup.Relisted

variable (h : Relisted s s') (hids : (s.nodes.map Node.id).Nodup)
include h

include hids in
lemma lookup_tasks_eq (id : String) : s.tasks.lookup id = s'.tasks.lookup id := by
  have hids' : (s'.nodes.map Node.id).Nodup := (h.nodes.map Node.id).nodup_iff.1 hids
  refine Option.ext fun task => ?_
  rw [lookup_tasks_eq_some_iff hids, lookup_tasks_eq_some_iff hids']
  exact h.nodes.mem_iff

lemma mem_ids_iff (id : String) : id ∈ s.ids ↔ id ∈ s'.ids := by
  rw [Setup.ids, Setup.ids, List.mem_append, List.mem_append, mem_keys_tasks, mem_keys_tasks,
    (h.nodes.map Node.id).mem_iff, h.feeds]

/-- Both graphs have the same nodes and the same links, and so the same nodes in order. -/
lemma mem_order_iff (id : String) : id ∈ s.graph.order ↔ id ∈ s'.graph.order := by
  have hagree : Graph.AgreeOn (fun _ => True) s.graph s'.graph :=
    { closed := fun _ _ => trivial
      linked_iff := fun {a b} _ => by
        rw [graph_eq, graph_eq, Graph.linked_ofEdges, Graph.linked_ofEdges, h.mem_ids_iff,
          h.mem_ids_iff, h.edges] }
  refine hagree.mem_order_iff (graph_proper s) (graph_proper s') trivial ?_
  rw [graph_eq, graph_eq, Graph.mem_nodes_ofEdges, Graph.mem_nodes_ofEdges, h.mem_ids_iff]

include hids in
/-- What solves the equations of one listing solves those of the other. -/
lemma solution (hsolution : s.Solution state?) : s'.Solution state? where
  no_task id hnone := hsolution.no_task id (by rw [h.lookup_tasks_eq hids, hnone])
  circular id htask hid := by
    rw [← h.mem_order_iff] at hid
    refine hsolution.circular id ?_ hid
    rw [Keyed.mem_keys_iff] at htask ⊢
    rwa [h.lookup_tasks_eq hids]
  ran id hid task htask := by
    rw [← h.mem_order_iff] at hid
    rw [← h.feeds, ← h.edges]
    exact hsolution.ran id hid task (by rw [h.lookup_tasks_eq hids, htask])

end Setup.Relisted

/-- **The states of a run do not depend on the listing.**  Where ids are distinct, two full runs of
one pipeline that lists its nodes, and the edges into different nodes, in different orders end with
the same state for every node. -/
theorem lookup_eq_of_relisted (hids : (s.nodes.map Node.id).Nodup) (h : s.Relisted s')
    {states states' : List (String × State)} (ran : run s {} = .ok states)
    (ran' : run s' {} = .ok states') (id : String) : states.lookup id = states'.lookup id :=
  congrFun ((h.solution hids (solution_of_run ran)).unique (solution_of_run ran')) id

/-- `costs` with its nodes in reverse order, and the edge that feeds the scalar behind all others
but the one into the same node. -/
def costsRelisted : Setup where
  nodes := costs.nodes.reverse
  edges := [⟨"ring", "ring", none⟩, ⟨"nowhere", "stray", none⟩, ⟨"amounts", "open", none⟩,
    ⟨"prices", "join", some "lookup"⟩, ⟨"amounts", "join", none⟩, ⟨"rate", "cost", none⟩,
    ⟨"join", "cost", none⟩]
  feeds := costs.feeds

lemma costs_relisted : costs.Relisted costsRelisted where
  nodes := costs.nodes.reverse_perm.symm
  feeds := rfl
  edges target := by
    have hlisted : ∀ target ∈ costs.edges.map Edge.target,
        inbound costs.edges target = inbound costsRelisted.edges target := by decide
    by_cases htarget : target ∈ costs.edges.map Edge.target
    · exact hlisted target htarget
    · have hnone : ∀ edges : List Edge, edges.map Edge.target ⊆ costs.edges.map Edge.target →
          inbound edges target = [] := fun edges hsub =>
        List.eq_nil_iff_forall_not_mem.2 fun e he => htarget
          (hsub (List.mem_map.2 ⟨e, mem_inbound.1 he⟩))
      rw [hnone costs.edges (List.Subset.refl _), hnone costsRelisted.edges (by decide)]

/-- The runs go through the nodes in different orders and end in the same states. -/
theorem lookup_eq_of_relisted_costs :
    (costs.nodes.map Node.id).Nodup ∧ costs.Relisted costsRelisted ∧
      costs.graph.order ≠ costsRelisted.graph.order ∧
      ∃ states states', run costs {} = .ok states ∧ run costsRelisted {} = .ok states' ∧
        Keyed.keys states ≠ Keyed.keys states' ∧
        ∀ id, states.lookup id = states'.lookup id := by
  have hids : (costs.nodes.map Node.id).Nodup := by decide
  refine ⟨hids, costs_relisted, by decide, _, _, rfl, rfl, by decide, ?_⟩
  exact lookup_eq_of_relisted hids costs_relisted rfl rfl

end Worksheet.Pipeline
