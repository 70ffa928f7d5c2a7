import Worksheet.Pipeline.Run
import Worksheet.Proofs.Dependency.Wiring
import Worksheet.Proofs.Outcome

/-!
# What a full run leaves behind

A node's state depends on the states of the sources of its inbound edges only.  In dependency order
these are settled before the node runs and are not touched again, so each state of a finished run is
the node's rule applied to the final states of its sources.
-/

namespace Worksheet.Pipeline

open Dependency (Graph)

/-! ### What a node reads -/

lemma withoutFirst_subset (handles : List String) (edges : List Edge) :
    withoutFirst handles edges ⊆ edges := by
  fun_induction withoutFirst handles edges with
  | case1 => exact List.Subset.refl _
  | case2 _ _ _ _ _ _ ih => exact List.subset_cons_of_subset _ ih
  | case3 _ edge _ _ _ _ ih => exact List.cons_subset_cons edge ih
  | case4 _ edge _ _ ih => exact List.cons_subset_cons edge ih

lemma takeSide_subset {named : Option Edge} {left edges : List Edge}
    (hnamed : ∀ e ∈ named, e ∈ edges) (hleft : left ⊆ edges) :
    (∀ e ∈ (takeSide named left).1, e ∈ edges) ∧ (takeSide named left).2 ⊆ edges := by
  unfold takeSide
  split
  · exact ⟨hnamed, hleft⟩
  · obtain ⟨he, hleft⟩ := List.cons_subset.1 hleft
    exact ⟨fun e h => (Option.mem_some_iff.1 h) ▸ he, hleft⟩
  · exact ⟨by simp, List.nil_subset _⟩

lemma joinSides_subset (mainHandle lookupHandle : String) (edges : List Edge) :
    joinSides mainHandle lookupHandle edges ⊆ edges := by
  have hfirst : ∀ handle, ∀ e ∈ firstWith handle edges, e ∈ edges :=
    fun handle e he => List.mem_of_find?_eq_some he
  obtain ⟨hmain, hleft⟩ :=
    takeSide_subset (hfirst mainHandle)
      (withoutFirst_subset (Keyed.distinct [mainHandle, lookupHandle]) edges)
  obtain ⟨hlookup, -⟩ := takeSide_subset (hfirst lookupHandle) hleft
  intro e he
  rcases List.mem_append.1 he with he | he
  · exact hmain e (Option.mem_toList.1 he)
  · exact hlookup e (Option.mem_toList.1 he)

lemma mem_of_mem_datasetEdges {feeds : List (String × Feed)} {task : Task} {edges : List Edge}
    {e : Edge} (he : e ∈ datasetEdges feeds task edges) :
    e ∈ edges ∧ feeds.lookup e.source = none := by
  have hsub : datasetEdges feeds task edges ⊆
      edges.filter fun edge => !Keyed.has feeds edge.source := by
    unfold datasetEdges
    split
    · exact joinSides_subset _ _ _
    · exact List.Subset.refl _
  obtain ⟨hmem, hfeed⟩ := List.mem_filter.1 (hsub he)
  refine ⟨hmem, ?_⟩
  by_contra hsome
  have : Keyed.has feeds e.source = true :=
    Keyed.has_iff_mem_keys.2 (Keyed.mem_keys_iff.2 (Option.isSome_iff_ne_none.2 hsome))
  rw [this] at hfeed
  exact absurd hfeed (by simp)

lemma mapM_option_congr {α β : Type} {f f' : α → Option β} {l : List α}
    (h : ∀ a ∈ l, f a = f' a) : l.mapM f = l.mapM f' := by
  induction l with
  | nil => rfl
  | cons a l ih =>
    rw [List.mapM_cons, List.mapM_cons, h a List.mem_cons_self,
      ih fun b hb => h b (List.mem_cons_of_mem _ hb)]

/-- A node reads nothing but the feeds of its sources, and the states of those without a feed. -/
lemma runNode_congr {feeds feeds' : List (String × Feed)} {state? state'? : String → Option State}
    {edges : List Edge} {task : Task}
    (hfeeds : ∀ e ∈ edges, feeds.lookup e.source = feeds'.lookup e.source)
    (hstates : ∀ e ∈ edges, feeds.lookup e.source = none → state? e.source = state'? e.source) :
    runNode feeds state? edges task = runNode feeds' state'? edges task := by
  have hfilter : (edges.filter fun e => !Keyed.has feeds e.source) =
      edges.filter fun e => !Keyed.has feeds' e.source := by
    refine List.filter_congr fun e he => ?_
    have : Keyed.has feeds e.source = Keyed.has feeds' e.source := by
      rw [Bool.eq_iff_iff, Keyed.has_iff_mem_keys, Keyed.has_iff_mem_keys, Keyed.mem_keys_iff,
        Keyed.mem_keys_iff, hfeeds e he]
    rw [this]
  have hedges : datasetEdges feeds task edges = datasetEdges feeds' task edges := by
    unfold datasetEdges
    rw [hfilter]
  have hscalars : scalarInputs feeds edges = scalarInputs feeds' edges := by
    unfold scalarInputs
    rw [List.filterMap_congr fun e he => by rw [hfeeds e he]]
  have hsources :
      ((datasetEdges feeds task edges).mapM fun e => (state? e.source).bind State.supply?) =
        (datasetEdges feeds' task edges).mapM fun e => (state'? e.source).bind State.supply? := by
    rw [← hedges]
    refine mapM_option_congr fun e he => ?_
    obtain ⟨hmem, hnone⟩ := mem_of_mem_datasetEdges he
    rw [hstates e hmem hnone]
  unfold runNode
  split
  · rfl
  · rw [hsources, hscalars]

/-! ### The states of a full run -/

variable {s : Setup}

/-- All that has a task or a feed. -/
def Setup.ids (s : Setup) : List String := Keyed.keys s.tasks ++ Keyed.keys s.feeds

lemma graph_eq (s : Setup) : s.graph = .ofEdges s.ids s.edges := rfl

lemma graph_proper (s : Setup) : s.graph.Proper := Graph.ofEdges_proper _ _

section Step

variable {reuse : Reuse} {states : List (String × State)} {id : String} {task : Task}

lemma step_of_no_task (h : s.tasks.lookup id = none) : step s reuse states id = .ok states := by
  rw [step, h]

lemma step_of_kept {state : State} (h : s.tasks.lookup id = some task)
    (hkept : reuse.kept? s.graph id = some state) :
    step s reuse states id = .ok (Keyed.put states id state) := by
  rw [step, h]
  simp only [hkept]
  rfl

lemma step_of_not_kept (h : s.tasks.lookup id = some task)
    (hkept : reuse.kept? s.graph id = none) :
    step s reuse states id =
      (runNode s.feeds (fun id => states.lookup id) (Calculation.inbound s.edges id) task).map
        (Keyed.put states id) := by
  rw [step, h]
  simp only [hkept]
  cases runNode s.feeds (fun id => states.lookup id) (Calculation.inbound s.edges id) task <;> rfl

/-- What a step that runs a node leaves behind, if it does not break off. -/
lemma ok_of_step_ok {states' : List (String × State)} (h : s.tasks.lookup id = some task)
    (hkept : reuse.kept? s.graph id = none) (hstep : step s reuse states id = .ok states') :
    ∃ state,
      runNode s.feeds (fun id => states.lookup id) (Calculation.inbound s.edges id) task =
        .ok state ∧ states' = Keyed.put states id state := by
  rw [step_of_not_kept h hkept] at hstep
  cases hrun : runNode s.feeds (fun id => states.lookup id) (Calculation.inbound s.edges id) task
    with
  | error fault =>
    rw [hrun] at hstep
    exact absurd hstep (by simp [Except.map])
  | ok state =>
    rw [hrun] at hstep
    exact ⟨state, rfl, (Except.ok.inj hstep).symm⟩

end Step

/-- The nodes of `done` have the state that their rule gives on the states that there are, and
nothing but nodes with a task has a state. -/
structure Settled (s : Setup) (done : List String) (states : List (String × State)) : Prop where
  no_task : ∀ id, s.tasks.lookup id = none → states.lookup id = none
  ran : ∀ id ∈ done, ∀ task, s.tasks.lookup id = some task → ∃ state,
    states.lookup id = some state ∧
      runNode s.feeds (fun id => states.lookup id) (Calculation.inbound s.edges id) task = .ok state

lemma settled_circularStates (s : Setup) : Settled s [] (circularStates s) where
  no_task id hnone := by
    rw [List.lookup_eq_none_iff]
    rintro ⟨k, state⟩ hmem
    obtain ⟨k', hk', heq⟩ := List.mem_map.1 hmem
    obtain ⟨rfl, -⟩ := Prod.mk.inj heq
    have hhas := (List.mem_filter.1 hk').2
    rw [Keyed.has_iff_mem_keys, Keyed.mem_keys_iff] at hhas
    by_contra heq
    rw [show id = k' by simpa using heq] at hnone
    rw [hnone] at hhas
    exact absurd hhas (by simp)
  ran id hid := absurd hid List.not_mem_nil

lemma Settled.step {done rest : List String} {id : String} {states states' : List (String × State)}
    (h : Settled s done states) (horder : s.graph.order = done ++ id :: rest)
    (hstep : Pipeline.step s {} states id = .ok states') : Settled s (done ++ [id]) states' := by
  cases htask : s.tasks.lookup id with
  | none =>
    rw [step_of_no_task htask, Except.ok.injEq] at hstep
    subst states'
    refine ⟨h.no_task, fun m hm task hm' => ?_⟩
    rcases List.mem_append.1 hm with hm | hm
    · exact h.ran m hm task hm'
    · rw [List.mem_singleton.1 hm, htask] at hm'
      exact absurd hm' (by simp)
  | some task =>
    obtain ⟨state, hrun, rfl⟩ := ok_of_step_ok htask rfl hstep
    -- the new entry is read neither by the node itself nor by the nodes before it
    have hsame : ∀ m ∈ done ++ [id], ∀ task,
        runNode s.feeds (fun k => (Keyed.put states id state).lookup k)
            (Calculation.inbound s.edges m) task =
          runNode s.feeds (fun k => states.lookup k) (Calculation.inbound s.edges m) task :=
      fun m hm task => runNode_congr (fun _ _ => rfl) fun e he _ =>
        Keyed.lookup_put_of_ne _ (Graph.source_ne_of_mem horder hm he) _
    refine ⟨fun m hm => ?_, fun m hm task' hm' => ?_⟩
    · have hne : m ≠ id := by
        rintro rfl
        rw [htask] at hm
        exact absurd hm (by simp)
      rw [Keyed.lookup_put_of_ne _ hne]
      exact h.no_task m hm
    · rw [hsame m hm]
      by_cases hne : m = id
      · subst m
        rw [htask, Option.some.injEq] at hm'
        subst task'
        exact ⟨state, Keyed.lookup_put_self _ _ _, hrun⟩
      · rw [Keyed.lookup_put_of_ne _ hne]
        refine h.ran m ((List.mem_append.1 hm).resolve_right fun hmem => ?_) task' hm'
        exact hne (List.mem_singleton.1 hmem)

/-- **Final states.**  When a full run ends, every node in order has the state that its rule gives
on the final states of its sources. -/
theorem settled_of_run {states : List (String × State)} (h : run s {} = .ok states) :
    Settled s s.graph.order states := by
  suffices hfold : ∀ (rest done : List String) (before : List (String × State)),
      s.graph.order = done ++ rest → Settled s done before →
        rest.foldlM (step s {}) before = .ok states → Settled s s.graph.order states from
    hfold _ [] _ rfl (settled_circularStates s) h
  intro rest
  induction rest with
  | nil =>
    intro done before horder hsettled hend
    obtain rfl : before = states := Except.ok.inj hend
    rw [horder, List.append_nil]
    exact hsettled
  | cons id rest ih =>
    intro done before horder hsettled hfold
    rw [List.foldlM_cons] at hfold
    obtain ⟨next, hstep, hrest⟩ := exists_of_bind_eq_ok hfold
    refine ih (done ++ [id]) next ?_ (hsettled.step horder hstep) hrest
    rw [horder, List.append_assoc, List.singleton_append]

end Worksheet.Pipeline
