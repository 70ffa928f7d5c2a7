import Worksheet.Proofs.Pipeline.States
import Worksheet.Proofs.Table.RowCount
import Worksheet.Service.Endpoint

/-!
# The row limit along a run

A request is let in when the datasets of its nodes are within the row limit.  No node makes more
rows than it is given, so the run stays within the limit as long as the states that it keeps do.
Nothing looks at these before the run: a kept state with more rows is given to the nodes behind it
and is among the states in the end.
-/

namespace Worksheet.Pipeline

open Calculation (inbound)

/-- The dataset of a state, if it has one, has at most `n` rows. -/
def State.AtMost (n : Int) (state : State) : Prop := ∀ d, state.dataset = some d → d.AtMost n

variable {n : Int}

/-! ### The states of rules -/

lemma atMost_idle : State.AtMost n {} := fun _ h => absurd h (by simp)

lemma atMost_failed (message : String) : (State.failed message).AtMost n :=
  fun _ h => absurd h (by simp [State.failed])

lemma atMost_ready {d : Dataset} (h : d.AtMost n) : (State.ready d).AtMost n :=
  fun _ hd => Option.some.inj hd ▸ h

lemma atMost_ofOutcome {outcome : Table.Outcome} (h : Table.Outcome.AtMost n outcome) :
    (State.ofOutcome outcome).AtMost n := by
  cases outcome with
  | ok success => exact atMost_ready (h success rfl)
  | error fault => exact fun _ h => absurd h (by simp [State.ofOutcome])

lemma atMost_runTask {scalars : List (String × ScalarInput)} {first : Dataset}
    {others : List Dataset} {task : Task} (htask : ∀ d, task = .dataset d → d.AtMost n)
    (hfirst : first.AtMost n) (hothers : ∀ d ∈ others, d.AtMost n) :
    Gives (State.AtMost n) (runTask scalars first others task) := by
  cases task with
  | dataset d => exact .ok (atMost_ready (htask d rfl))
  | filter criteria =>
    cases criteria with
    | none => exact .ok atMost_idle
    | some criteria =>
      exact .bind fun outcome h => .ok (atMost_ofOutcome (Table.atMost_filter hfirst outcome h))
  | formula formula newColumn unitOverride =>
    rw [runTask]
    split
    · exact .ok atMost_idle
    · exact .bind fun outcome h =>
        .ok (atMost_ofOutcome (Table.atMost_addColumn hfirst outcome h))
  | transform operations =>
    rw [runTask]
    split
    · exact .ok atMost_idle
    · exact .ok (atMost_ofOutcome (Table.atMost_transform operations hfirst
        (List.forall_mem_cons.2 ⟨hfirst, hothers⟩)))
  | join keys mainHandle lookupHandle =>
    cases others with
    | nil => exact .ok (atMost_failed _)
    | cons lookup others => exact .ok (atMost_ofOutcome (Table.atMost_join hfirst))

/-! ### Nodes -/

/-- A node may read this dataset: it is its own, or that of a state from which an edge brings
one. -/
def Reads (feeds : List (String × Feed)) (state? : String → Option State) (edges : List Edge)
    (task : Task) (d : Dataset) : Prop :=
  task = .dataset d ∨ ∃ e ∈ datasetEdges feeds task edges, ∃ state,
    state? e.source = some state ∧ state.dataset = some d

variable {feeds : List (String × Feed)} {state? : String → Option State} {edges : List Edge}
  {task : Task}

lemma dataset_of_supply? {state : State} {d : Dataset} (h : state.supply? = some (some d)) :
    state.dataset = some d := by
  rw [State.supply?] at h
  split at h
  · exact Option.some.inj h
  · exact absurd h (by simp)

lemma reads_of_mapM {sources : List (Option Dataset)}
    (h : (datasetEdges feeds task edges).mapM (fun e => (state? e.source).bind State.supply?) =
      some sources) {d : Dataset} (hd : some d ∈ sources) : Reads feeds state? edges task d := by
  obtain ⟨e, he, hsource⟩ := exists_of_mem_forall₂ (forall₂_of_mapM_option h) hd
  obtain ⟨state, hstate, hsupply⟩ := Option.bind_eq_some_iff.1 hsource
  exact Or.inr ⟨e, he, state, hstate, dataset_of_supply? hsupply⟩

lemma dataless_atMost : State.Dataless (State.AtMost n) := ⟨atMost_idle, fun _ => atMost_failed _⟩

/-- **A node makes no more rows than it reads.** -/
lemma atMost_runNode (h : ∀ d, Reads feeds state? edges task d → d.AtMost n) :
    Gives (State.AtMost n) (runNode feeds state? edges task) := by
  have hown : ∀ d, task = .dataset d → d.AtMost n := fun d hd => h d (Or.inl hd)
  refine dataless_atMost.gives_runNode (fun d hd => atMost_ready (hown d hd)) ?_
  intro first others hsources
  have hread : ∀ d, some d ∈ some first :: others → d.AtMost n :=
    fun d hd => h d (reads_of_mapM hsources hd)
  refine atMost_runTask hown (hread first List.mem_cons_self) fun d hd => ?_
  obtain ⟨source, hsource, rfl⟩ := List.mem_filterMap.1 hd
  exact hread d (List.mem_cons_of_mem _ hsource)

/-! ### Runs -/

/-- The run keeps a state with this dataset. -/
def Setup.Keeps (s : Setup) (reuse : Reuse) (d : Dataset) : Prop :=
  ∃ id ∈ s.graph.order, ∃ task state, s.tasks.lookup id = some task ∧
    reuse.kept? s.graph id = some state ∧ state.dataset = some d

/-- The run comes to a node that runs and may read this dataset. -/
def Setup.Consumes (s : Setup) (reuse : Reuse) (id : String) (d : Dataset) : Prop :=
  ∃ before after states task, s.graph.order = before ++ id :: after ∧
    before.foldlM (step s reuse) (circularStates s) = .ok states ∧
    s.tasks.lookup id = some task ∧ reuse.kept? s.graph id = none ∧
    Reads s.feeds (fun id => states.lookup id) (inbound s.edges id) task d

/-- Some state has this dataset. -/
def Holds (states : List (String × State)) (d : Dataset) : Prop :=
  ∃ entry ∈ states, entry.2.dataset = some d

section Run

variable {s : Setup} {reuse : Reuse} {states : List (String × State)} {id : String}

lemma not_holds_circularStates (s : Setup) (d : Dataset) : ¬Holds (circularStates s) d := by
  rintro ⟨entry, hentry, hd⟩
  obtain ⟨id, -, rfl⟩ := List.mem_map.1 hentry
  exact absurd hd (by simp [State.failed])

lemma holds_of_put {state : State} {d : Dataset} (h : Holds (Keyed.put states id state) d) :
    Holds states d ∨ state.dataset = some d := by
  obtain ⟨entry, hentry, hd⟩ := h
  rcases Keyed.mem_put hentry with hentry | rfl
  · exact Or.inl ⟨entry, hentry, hd⟩
  · exact Or.inr hd

lemma holds_of_lookup {state : State} {d : Dataset} (h : states.lookup id = some state)
    (hd : state.dataset = some d) : Holds states d := by
  obtain ⟨before, after, rfl, -⟩ := List.lookup_eq_some_iff.1 h
  exact ⟨(id, state), by simp, hd⟩

/-- What a node reads is in the states so far, unless it is its own. -/
lemma atMost_of_reads (hown : ∀ d, task = .dataset d → d.AtMost n)
    (hstates : ∀ d, Holds states d → d.AtMost n) {d : Dataset}
    (h : Reads feeds (fun id => states.lookup id) edges task d) : d.AtMost n := by
  rcases h with htask | ⟨e, -, state, hstate, hd⟩
  · exact hown d htask
  · exact hstates d (holds_of_lookup hstate hd)

/-- The tasks and the kept states of a run have datasets of at most `n` rows. -/
structure Within (s : Setup) (reuse : Reuse) (n : Int) : Prop where
  own : ∀ id d, s.tasks.lookup id = some (.dataset d) → d.AtMost n
  kept : ∀ d, s.Keeps reuse d → d.AtMost n

/-- A step within the bound keeps all states within it. -/
lemma Within.step (h : Within s reuse n) (hid : id ∈ s.graph.order)
    (hstates : ∀ d, Holds states d → d.AtMost n) {states' : List (String × State)}
    (hstep : Pipeline.step s reuse states id = .ok states') :
    ∀ d, Holds states' d → d.AtMost n := by
  intro d hd
  cases htask : s.tasks.lookup id with
  | none =>
    rw [step_of_no_task htask] at hstep
    obtain rfl := Except.ok.inj hstep
    exact hstates d hd
  | some task =>
    cases hkept : reuse.kept? s.graph id with
    | some state =>
      rw [step_of_kept htask hkept] at hstep
      obtain rfl := Except.ok.inj hstep
      rcases holds_of_put hd with hd | hd
      · exact hstates d hd
      · exact h.kept d ⟨id, hid, task, state, htask, hkept, hd⟩
    | none =>
      obtain ⟨state, hrun, rfl⟩ := ok_of_step_ok htask hkept hstep
      rcases holds_of_put hd with hd | hd
      · exact hstates d hd
      · exact atMost_runNode (fun d => atMost_of_reads (fun d hown => h.own id d (hown ▸ htask))
          hstates) state hrun d hd

/-- The states after the first nodes of a run, or after all of them, are within the bound. -/
lemma Within.atMost (h : Within s reuse n) {before after : List String}
    (horder : s.graph.order = before ++ after)
    (hrun : before.foldlM (Pipeline.step s reuse) (circularStates s) = .ok states) :
    ∀ d, Holds states d → d.AtMost n := by
  refine foldlM_invariant (fun states => ∀ d, Holds states d → d.AtMost n) ?_
    (fun d hd => absurd hd (not_holds_circularStates s d)) hrun
  intro id hid now next hnow hnext
  exact h.step (by rw [horder]; exact List.mem_append_left _ hid) hnow hnext

lemma Within.consumes (h : Within s reuse n) {d : Dataset} (hd : s.Consumes reuse id d) :
    d.AtMost n := by
  obtain ⟨before, after, states, task, horder, hrun, htask, -, hreads⟩ := hd
  exact atMost_of_reads (fun d hown => h.own id d (hown ▸ htask)) (h.atMost horder hrun) hreads

/-- A kept dataset is among the last states. -/
lemma holds_of_keeps (h : run s reuse = .ok states) {d : Dataset} (hd : s.Keeps reuse d) :
    Holds states d := by
  obtain ⟨id, hid, task, state, htask, hkept, hdataset⟩ := hd
  exact holds_of_lookup (lookup_of_kept h hid htask hkept) hdataset

end Run

/-! ### Requests that are let in -/

lemma atMost_of_accepted {settings : Service.Settings} {s : Setup}
    (h : (s.nodes.filterMap Service.Endpoint.givenDataset?).find? (Service.isTooLarge settings) =
      none) {id : String} {d : Dataset} (hd : s.tasks.lookup id = some (.dataset d)) :
    d.AtMost settings.maxRows := by
  rw [Setup.tasks, Keyed.lookup_ofPairs] at hd
  obtain ⟨before, after, hpairs, -⟩ := List.lookup_eq_some_iff.1 hd
  have hmem : (id, Task.dataset d) ∈ s.nodes.map fun node => (node.id, node.task) := by
    rw [← List.mem_reverse, hpairs]
    simp
  obtain ⟨node, hnode, heq⟩ := List.mem_map.1 hmem
  have hgiven : Service.Endpoint.givenDataset? node = some d := by
    rw [Service.Endpoint.givenDataset?, (Prod.mk.inj heq).2]
  have hsmall := List.find?_eq_none.1 h d (List.mem_filterMap.2 ⟨node, hnode, hgiven⟩)
  simpa [Service.isTooLarge, Dataset.AtMost] using hsmall

/-- **The row limit along a run.**  In a run that the size check has let in, no node reads and no
state in the end has a dataset with more rows than the limit, or than the largest dataset that is
kept if that is larger.  So the states in the end are within the limit exactly if the kept ones
are. -/
theorem rowLimit_of_accepted (settings : Service.Settings) (q : Request.PipelineRequest)
    (h : (q.setup.nodes.filterMap Service.Endpoint.givenDataset?).find?
      (Service.isTooLarge settings) = none) :
    (∀ n, settings.maxRows ≤ n → (∀ d, q.setup.Keeps q.reuse d → d.AtMost n) →
      (∀ id d, q.setup.Consumes q.reuse id d → d.AtMost n) ∧
      ∀ states, run q.setup q.reuse = .ok states → ∀ d, Holds states d → d.AtMost n) ∧
    ∀ states, run q.setup q.reuse = .ok states →
      ((∀ d, Holds states d → d.AtMost settings.maxRows) ↔
        ∀ d, q.setup.Keeps q.reuse d → d.AtMost settings.maxRows) := by
  have hwithin : ∀ n, settings.maxRows ≤ n → (∀ d, q.setup.Keeps q.reuse d → d.AtMost n) →
      Within q.setup q.reuse n := fun n hn hkept =>
    ⟨fun id d hd => (atMost_of_accepted h hd).trans hn, hkept⟩
  have hend : ∀ {n}, Within q.setup q.reuse n → ∀ states, run q.setup q.reuse = .ok states →
      ∀ d, Holds states d → d.AtMost n := fun hwithin states hrun =>
    hwithin.atMost (List.append_nil _).symm hrun
  refine ⟨fun n hn hkept => ⟨fun id d => (hwithin n hn hkept).consumes,
    hend (hwithin n hn hkept)⟩, fun states hrun => ⟨fun hstates d hd => ?_, fun hkept => ?_⟩⟩
  · exact hstates d (holds_of_keeps hrun hd)
  · exact hend (hwithin _ le_rfl hkept) states hrun

/-- A kept table of two rows, where one is the limit. -/
def twoRows : Dataset := ⟨[[("id", .int 1)], [("id", .int 2)]], []⟩

/-- A request that keeps this table for a node whose own one is empty. -/
def keepsTwoRows : Request.PipelineRequest where
  setup := {
    nodes := [⟨"data", .dataset {}⟩, ⟨"keys", .transform [.rename "id" "key"]⟩]
    edges := [⟨"data", "keys", none⟩] }
  reuse := { previous := [("data", .ready twoRows)], changed := some "keys" }

/-- The request is let in and ends with states of more than one row. -/
theorem rowLimit_of_accepted_keepsTwoRows :
    (keepsTwoRows.setup.nodes.filterMap Service.Endpoint.givenDataset?).find?
        (Service.isTooLarge { maxRows := 1 }) = none ∧
      ∃ states, run keepsTwoRows.setup keepsTwoRows.reuse = .ok states ∧
        ¬∀ d, Holds states d → d.AtMost 1 := by
  have haccepted : (keepsTwoRows.setup.nodes.filterMap Service.Endpoint.givenDataset?).find?
      (Service.isTooLarge { maxRows := 1 }) = none := rfl
  have hkeeps : keepsTwoRows.setup.Keeps keepsTwoRows.reuse twoRows :=
    ⟨"data", by decide, .dataset {}, .ready twoRows, rfl, rfl, rfl⟩
  refine ⟨haccepted, _, rfl, fun hstates => ?_⟩
  have hend := (rowLimit_of_accepted { maxRows := 1 } keepsTwoRows haccepted).2 _ rfl
  have htwo : twoRows.AtMost 1 := hend.1 hstates twoRows hkeeps
  exact absurd htwo (by simp [Dataset.AtMost, twoRows])

end Worksheet.Pipeline
