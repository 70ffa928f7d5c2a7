import Mathlib.Data.List.Forall2
import Worksheet.Proofs.Dependency.Affected
import Worksheet.Proofs.Pipeline.Run

/-!
# Running again after an edit

When one node, feed, or the edges into one node have been edited, a run that keeps the earlier
states of all nodes that the edited one does not lead to ends as a run from scratch does.  Such a
node has the same edges into it and the same ancestors in both graphs, none of them the edited one;
so it is in order in both, and its earlier state is what its rule gives again.
-/

namespace Worksheet.Pipeline

open Dependency (Graph)
open Relation

/-- The second setup is the first with one id edited: the task of a node or the feed under that id
may be another one, and edges into that id may have come, gone or moved; all else is the same. -/
structure Setup.EditedAt (c : String) (old new : Setup) : Prop where
  nodes : List.Forall₂ (fun a b => a.id = b.id ∧ (a.id ≠ c → a = b)) old.nodes new.nodes
  feeds : List.Forall₂ (fun a b => a.1 = b.1 ∧ (a.1 ≠ c → a = b)) old.feeds new.feeds
  edges : ∀ t, t ≠ c → Calculation.inbound old.edges t = Calculation.inbound new.edges t

namespace Setup.EditedAt

variable {c : String} {old new : Setup}

/-! ### Keyed lists edited under one key -/

lemma lookup_eq_of_forall₂ {α : Type} {l l' : List (String × α)} {k : String}
    (h : List.Forall₂ (fun a b => a.1 = b.1 ∧ (a.1 ≠ c → a = b)) l l') (hk : k ≠ c) :
    l.lookup k = l'.lookup k := by
  induction h with
  | nil => rfl
  | @cons a b l l' hab _ ih =>
    obtain ⟨key, entry⟩ := a
    obtain ⟨key', entry'⟩ := b
    obtain ⟨rfl, hsame⟩ := hab
    rw [Keyed.lookup_cons_ite, Keyed.lookup_cons_ite, ih]
    by_cases hkey : k = key
    · have := (Prod.mk.inj (hsame (hkey ▸ hk))).2
      rw [if_pos hkey, if_pos hkey, this]
    · rw [if_neg hkey, if_neg hkey]

lemma keys_eq_of_forall₂ {α : Type} {l l' : List (String × α)}
    (h : List.Forall₂ (fun a b => a.1 = b.1 ∧ (a.1 ≠ c → a = b)) l l') :
    l.map (·.1) = l'.map (·.1) := by
  induction h with
  | nil => rfl
  | cons hab _ ih => rw [List.map_cons, List.map_cons, hab.1, ih]

lemma pairs (h : EditedAt c old new) :
    List.Forall₂ (fun a b => a.1 = b.1 ∧ (a.1 ≠ c → a = b))
      (old.nodes.map fun node => (node.id, node.task))
      (new.nodes.map fun node => (node.id, node.task)) := by
  rw [List.forall₂_map_left_iff, List.forall₂_map_right_iff]
  refine h.nodes.imp fun a b hab => ⟨hab.1, fun hne => ?_⟩
  rw [hab.2 hne]

lemma task_eq (h : EditedAt c old new) {id : String} (hid : id ≠ c) :
    old.tasks.lookup id = new.tasks.lookup id := by
  rw [Setup.tasks, Setup.tasks, Keyed.lookup_ofPairs, Keyed.lookup_ofPairs]
  exact lookup_eq_of_forall₂ (List.rel_reverse h.pairs) hid

lemma keys_tasks (h : EditedAt c old new) : Keyed.keys old.tasks = Keyed.keys new.tasks := by
  rw [Setup.tasks, Setup.tasks, Keyed.keys_ofPairs, Keyed.keys_ofPairs, keys_eq_of_forall₂ h.pairs]

lemma keys_feeds (h : EditedAt c old new) : Keyed.keys old.feeds = Keyed.keys new.feeds :=
  keys_eq_of_forall₂ h.feeds

lemma no_task_iff (h : EditedAt c old new) (id : String) :
    old.tasks.lookup id = none ↔ new.tasks.lookup id = none := by
  rw [← Option.not_isSome_iff_eq_none, ← Option.not_isSome_iff_eq_none, ← Keyed.mem_keys_iff,
    ← Keyed.mem_keys_iff, h.keys_tasks]

/-! ### The graphs before and after the edit -/

lemma ids_eq (h : EditedAt c old new) : old.ids = new.ids := by
  rw [Setup.ids, Setup.ids, h.keys_tasks, h.keys_feeds]

lemma linked_iff (h : EditedAt c old new) {a b : String} (hb : b ≠ c) :
    old.graph.Linked a b ↔ new.graph.Linked a b := by
  rw [graph_eq, graph_eq, Graph.linked_ofEdges, Graph.linked_ofEdges, h.ids_eq, h.edges b hb]

/-- The nodes that the edited one does not lead to have the same ancestors in both graphs. -/
lemma agreeOn (h : EditedAt c old new) :
    Graph.AgreeOn (fun n => ¬ ReflTransGen new.graph.Linked c n) new.graph old.graph where
  closed hab hb hca := hb (hca.tail hab)
  linked_iff hb := by
    refine (h.linked_iff ?_).symm
    rintro rfl
    exact hb .refl

/-- Where the edit does not lead, what is in order stays in order. -/
lemma mem_order (h : EditedAt c old new) {n : String}
    (hsafe : ¬ ReflTransGen new.graph.Linked c n) (hn : n ∈ new.graph.order) :
    n ∈ old.graph.order := by
  have hnode : n ∈ new.graph.nodes ↔ n ∈ old.graph.nodes := by
    rw [graph_eq, graph_eq, Graph.mem_nodes_ofEdges, Graph.mem_nodes_ofEdges, h.ids_eq]
  exact (h.agreeOn.mem_order_iff (graph_proper new) (graph_proper old) hsafe hnode).1 hn

/-! ### The run that keeps states -/

/-- The states that a run from scratch has after `done`: where the edit does not lead they are
those of the earlier run. -/
structure Agrees (c : String) (new : Setup) (previous : List (String × State))
    (done : List String) (states : List (String × State)) : Prop where
  no_task : ∀ id, new.tasks.lookup id = none → states.lookup id = none
  kept : ∀ id ∈ done, ¬ ReflTransGen new.graph.Linked c id →
    states.lookup id = previous.lookup id

variable {previous states : List (String × State)} {done rest : List String} {id : String}

/-- The earlier state of a node that the edit does not lead to is what the node's rule gives on the
states of a run from scratch. -/
lemma runNode_eq_previous (h : EditedAt c old new) (ran : run old {} = .ok previous)
    (hagrees : Agrees c new previous done states)
    (horder : new.graph.order = done ++ id :: rest)
    (hsafe : ¬ ReflTransGen new.graph.Linked c id) {task : Task}
    (htask : new.tasks.lookup id = some task) :
    ∃ state, previous.lookup id = some state ∧
      runNode new.feeds (fun k => states.lookup k) (Calculation.inbound new.edges id) task =
        .ok state := by
  have hsettled := settled_of_run ran
  have hid : id ∈ new.graph.order := by rw [horder]; simp
  have hidc : id ≠ c := by
    rintro rfl
    exact hsafe .refl
  rw [← h.task_eq hidc] at htask
  obtain ⟨state, hlookup, hrun⟩ := hsettled.ran id (h.mem_order hsafe hid) task htask
  refine ⟨state, hlookup, ?_⟩
  rw [← hrun, h.edges id hidc]
  -- a source that is a node stands before `id`, and the edit does not lead to it
  have hsource : ∀ e ∈ Calculation.inbound new.edges id, e.source ∈ new.ids →
      e.source ∈ done ∧ ¬ ReflTransGen new.graph.Linked c e.source := by
    intro e he hnode
    refine ⟨Graph.source_mem_before horder he hnode, fun hwalk => hsafe (hwalk.tail ?_)⟩
    exact Graph.linked_of_mem_inbound he hnode (Graph.mem_ids_of_mem_order hid)
  refine runNode_congr (fun e he => ?_) (fun e he _ => ?_)
  · by_cases hc : e.source = c
    · -- then it is no node, so it has no feed in either setup
      have hnode : e.source ∉ new.ids := fun hnode => (hsource e he hnode).2 (hc ▸ .refl)
      have hkeys : e.source ∉ Keyed.keys new.feeds := fun hmem =>
        hnode (List.mem_append_right _ hmem)
      have hkeys' : e.source ∉ Keyed.keys old.feeds := by rwa [h.keys_feeds]
      rw [Keyed.mem_keys_iff, Option.not_isSome_iff_eq_none] at hkeys hkeys'
      rw [hkeys, hkeys']
    · exact (lookup_eq_of_forall₂ h.feeds hc).symm
  · by_cases hnode : e.source ∈ new.ids
    · obtain ⟨hdone, hwalk⟩ := hsource e he hnode
      exact hagrees.kept e.source hdone hwalk
    · have htask : new.tasks.lookup e.source = none := by
        rw [← Option.not_isSome_iff_eq_none, ← Keyed.mem_keys_iff]
        exact fun hmem => hnode (List.mem_append_left _ hmem)
      rw [hagrees.no_task _ htask, hsettled.no_task _ ((h.no_task_iff _).2 htask)]

lemma kept?_of_reached (previous : List (String × State)) {g : Graph} (hg : g.Proper)
    (hwalk : ReflTransGen g.Linked c id) :
    Reuse.kept? { previous, changed := some c } g id = none := by
  have : (id == c || (g.affected c).contains id) = true := by
    rw [Bool.or_eq_true, beq_iff_eq, List.contains_iff_mem, Graph.mem_affected_iff hg]
    exact or_iff_not_imp_left.2 fun hne => ⟨hne, hwalk⟩
  simp only [Reuse.kept?, this, if_true]

lemma kept?_of_not_reached (previous : List (String × State)) {g : Graph} (hg : g.Proper)
    (hwalk : ¬ ReflTransGen g.Linked c id) :
    Reuse.kept? { previous, changed := some c } g id = previous.lookup id := by
  have : ¬ (id == c || (g.affected c).contains id) = true := by
    rw [Bool.or_eq_true, beq_iff_eq, List.contains_iff_mem, Graph.mem_affected_iff hg]
    rintro (rfl | h)
    · exact hwalk .refl
    · exact hwalk h.2
  simp only [Reuse.kept?, this, Bool.false_eq_true, if_false]

/-- Keeping an earlier state and running the node come to the same. -/
lemma step_eq (h : EditedAt c old new) (ran : run old {} = .ok previous)
    (hagrees : Agrees c new previous done states)
    (horder : new.graph.order = done ++ id :: rest) :
    step new { previous, changed := some c } states id = step new {} states id := by
  cases htask : new.tasks.lookup id with
  | none => rw [step_of_no_task htask, step_of_no_task htask]
  | some task =>
    have hfresh : Reuse.kept? {} new.graph id = none := rfl
    rw [step_of_not_kept htask hfresh]
    by_cases hwalk : ReflTransGen new.graph.Linked c id
    · rw [step_of_not_kept htask (kept?_of_reached previous (graph_proper new) hwalk)]
    · obtain ⟨state, hprevious, hrun⟩ :=
        h.runNode_eq_previous ran hagrees horder hwalk htask
      rw [hrun, step_of_kept htask
        ((kept?_of_not_reached previous (graph_proper new) hwalk).trans hprevious)]
      rfl

lemma Agrees.step (h : EditedAt c old new) (ran : run old {} = .ok previous)
    (hagrees : Agrees c new previous done states)
    (horder : new.graph.order = done ++ id :: rest) {states' : List (String × State)}
    (hstep : Pipeline.step new {} states id = .ok states') :
    Agrees c new previous (done ++ [id]) states' := by
  cases htask : new.tasks.lookup id with
  | none =>
    rw [step_of_no_task htask, Except.ok.injEq] at hstep
    subst states'
    refine ⟨hagrees.no_task, fun m hm hwalk => ?_⟩
    rcases List.mem_append.1 hm with hm | hm
    · exact hagrees.kept m hm hwalk
    · rw [List.mem_singleton.1 hm, hagrees.no_task id htask,
        (settled_of_run ran).no_task id ((h.no_task_iff id).2 htask)]
  | some task =>
    obtain ⟨state, hrun, rfl⟩ := ok_of_step_ok htask rfl hstep
    refine ⟨fun m hm => ?_, fun m hm hwalk => ?_⟩
    · have hne : m ≠ id := by
        rintro rfl
        rw [htask] at hm
        exact absurd hm (by simp)
      rw [Keyed.lookup_put_of_ne _ hne]
      exact hagrees.no_task m hm
    · by_cases hne : m = id
      · subst m
        obtain ⟨state', hprevious, hrun'⟩ :=
          h.runNode_eq_previous ran hagrees horder hwalk htask
        rw [hrun, Except.ok.injEq] at hrun'
        rw [Keyed.lookup_put_self, hprevious, hrun']
      · rw [Keyed.lookup_put_of_ne _ hne]
        refine hagrees.kept m ((List.mem_append.1 hm).resolve_right fun hmem => ?_) hwalk
        exact hne (List.mem_singleton.1 hmem)

lemma foldlM_step_eq (h : EditedAt c old new) (ran : run old {} = .ok previous)
    (hagrees : Agrees c new previous done states) (horder : new.graph.order = done ++ rest) :
    rest.foldlM (step new { previous, changed := some c }) states =
      rest.foldlM (step new {}) states := by
  induction rest generalizing done states with
  | nil => rfl
  | cons id rest ih =>
    rw [List.foldlM_cons, List.foldlM_cons, h.step_eq ran hagrees horder]
    cases hstep : step new {} states id with
    | error fault => rfl
    | ok next =>
      refine ih (hagrees.step h ran horder hstep) ?_
      rw [horder, List.append_assoc, List.singleton_append]

end Setup.EditedAt

/-- **Running again after an edit.**  With the states of the setup before the edit, a run that
names the edited id as changed has exactly the outcome of a run from scratch. -/
theorem run_reusing_eq_run {c : String} {old new : Setup} {previous : List (String × State)}
    (edited : Setup.EditedAt c old new) (ran : run old {} = .ok previous) :
    run new { previous, changed := some c } = run new {} :=
  edited.foldlM_step_eq ran
    ⟨(settled_circularStates new).no_task, fun _ h => absurd h List.not_mem_nil⟩ rfl

/-! ### An edit that makes a cycle -/

/-- A column of litres, one cell of it missing. -/
def litres : Dataset where
  rows := [[("id", .int 1), ("litres", .text "10")], [("id", .int 2)]]
  columns := [⟨"id", "id", .number, none⟩, ⟨"litres", "litres", .number, some "L"⟩]

/-- A table that two nodes read, one of which feeds a third. -/
def branched : Setup where
  nodes := [⟨"raw", .dataset litres⟩, ⟨"amounts", .transform [.delete "id"]⟩,
    ⟨"ids", .transform [.select ["id"]]⟩, ⟨"keys", .transform [.rename "id" "key"]⟩]
  edges := [⟨"raw", "amounts", none⟩, ⟨"raw", "ids", none⟩, ⟨"ids", "keys", none⟩]

/-- The same with another task at `ids`, which now reads `keys` in the place of `raw`. -/
def looped : Setup where
  nodes := [⟨"raw", .dataset litres⟩, ⟨"amounts", .transform [.delete "id"]⟩,
    ⟨"ids", .transform []⟩, ⟨"keys", .transform [.rename "id" "key"]⟩]
  edges := [⟨"keys", "ids", none⟩, ⟨"raw", "amounts", none⟩, ⟨"ids", "keys", none⟩]

/-- The states of the setup without the cycle. -/
def branchedStates : List (String × State) :=
  [("raw", .ready litres),
   ("amounts", .ready ⟨[[("litres", .text "10")], []], [⟨"litres", "litres", .number, some "L"⟩]⟩),
   ("ids", .ready ⟨[[("id", .int 1)], [("id", .int 2)]], [⟨"id", "id", .number, none⟩]⟩),
   ("keys", .ready ⟨[[("key", .int 1)], [("key", .int 2)]], [⟨"key", "key", .number, none⟩]⟩)]

lemma looped_editedAt : branched.EditedAt "ids" looped where
  nodes := by simp [branched, looped]
  feeds := by simp [branched, looped]
  edges t ht := by simp [branched, looped, Calculation.inbound, List.filter_cons, Ne.symm ht]

/-- The two nodes on the cycle fail, the branch beside them is kept. -/
theorem run_reusing_eq_run_looped :
    branched.EditedAt "ids" looped ∧ run branched {} = .ok branchedStates ∧
      run looped { previous := branchedStates, changed := some "ids" } = run looped {} ∧
      run looped {} = .ok (circularStates looped ++ branchedStates.take 2) :=
  ⟨looped_editedAt, rfl, run_reusing_eq_run looped_editedAt rfl, rfl⟩

end Worksheet.Pipeline
