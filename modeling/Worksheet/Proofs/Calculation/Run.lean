import Worksheet.Calculation.Run
import Worksheet.Proofs.Dependency.Wiring
import Worksheet.Proofs.Outcome

/-!
# A finished run solves the equations of its nodes

A node reads nothing but the outputs of the sources of its inbound edges.  These stand before it in
order, so that when it is evaluated their outputs have been found and are not touched again: what is
reported of a node is what its role says about the outputs at the end of the run.
-/

namespace Worksheet.Calculation

open Dependency (Graph)

/-! ### What a node reads -/

section Reading

variable {options : Options} {output? output?' : String → Option Quantity} {edges : List Edge}

lemma bindInputs_congr (h : ∀ e ∈ edges, output? e.source = output?' e.source)
    (inputs : List Handle) :
    bindInputs output? edges inputs = bindInputs output?' edges inputs := by
  unfold bindInputs
  congr 1
  refine List.filterMap_congr fun handle _ => ?_
  cases hfind : edges.find? fun edge => edge.targetHandle == some handle.id with
  | none => rfl
  | some e =>
    have he := h e (List.mem_of_find?_eq_some hfind)
    simp only [Option.bind_eq_bind, Option.bind_some, he]

lemma runPassthrough_congr (h : ∀ e ∈ edges, output? e.source = output?' e.source) :
    runPassthrough output? edges = runPassthrough output?' edges := by
  unfold runPassthrough
  cases edges with
  | nil => rfl
  | cons e edges => rw [List.head?_cons, Option.bind_some, Option.bind_some, h e List.mem_cons_self]

/-- A node reads nothing but the outputs of its sources. -/
lemma runNode_congr (h : ∀ e ∈ edges, output? e.source = output?' e.source) (role : Role) :
    runNode options output? edges role = runNode options output?' edges role := by
  cases role with
  | constant value unit => rfl
  | process formula inputs => rw [runNode, runNode, bindInputs_congr h]
  | passthrough => rw [runNode, runNode, runPassthrough_congr h]
  | group => rfl

end Reading

/-! ### What one node adds -/

/-- The entries with one more at the end, if there is one to add. -/
def extend {α : Type} (entries : List (String × α)) (id : String) (entry : Option α) :
    List (String × α) :=
  entries ++ (entry.map fun a => (id, a)).toList

section Extend

variable {α : Type} {entries : List (String × α)} {id k : String} {entry : Option α}

lemma lookup_extend_self (h : entries.lookup id = none) :
    (extend entries id entry).lookup id = entry := by
  rw [extend, List.lookup_append, h, Option.none_or]
  cases entry with
  | none => rfl
  | some a => exact List.lookup_cons_self

lemma lookup_extend_of_ne (h : k ≠ id) : (extend entries id entry).lookup k = entries.lookup k := by
  rw [extend, List.lookup_append]
  cases entry with
  | none => exact Option.or_none
  | some a =>
    rw [Option.map_some, Option.toList_some, Keyed.lookup_cons_ite, if_neg h, List.lookup_nil,
      Option.or_none]

lemma nodup_keys_extend (h : entries.lookup id = none) (hnodup : (Keyed.keys entries).Nodup) :
    (Keyed.keys (extend entries id entry)).Nodup := by
  cases entry with
  | none =>
    rw [extend, Option.map_none, Option.toList_none, List.append_nil]
    exact hnodup
  | some a =>
    have hkeys : Keyed.keys (extend entries id (some a)) = Keyed.keys entries ++ [id] := by
      rw [extend, Keyed.keys, List.map_append]
      rfl
    have hid : id ∉ Keyed.keys entries := by
      rw [Keyed.mem_keys_iff, h]
      simp
    rw [hkeys]
    refine List.nodup_append.2 ⟨hnodup, List.nodup_singleton _, ?_⟩
    rintro m hm m' hm' rfl
    exact hid (List.mem_singleton.1 hm' ▸ hm)

end Extend

/-- What a step leaves behind, if it does not break off. -/
lemma Progress.ok_of_step_ok {options : Options} {roles : List (String × Role)}
    {edges : List Edge} {now next : Progress} {id : String} {role : Role}
    (hrole : roles.lookup id = some role) (h : now.step options roles edges id = .ok next) :
    ∃ outcome, runNode options (output? roles now.values) (inbound edges id) role = .ok outcome ∧
      next.reports = extend now.reports id (outcome.map Outcome.report) ∧
      next.values = extend now.values id (outcome.bind Outcome.output) := by
  rw [Progress.step, hrole] at h
  obtain ⟨outcome, hrun, h⟩ := exists_of_bind_eq_ok h
  refine ⟨outcome, hrun, ?_⟩
  cases outcome with
  | none =>
    obtain rfl := Except.ok.inj h
    exact ⟨(List.append_nil _).symm, (List.append_nil _).symm⟩
  | some outcome =>
    obtain rfl := Except.ok.inj h
    refine ⟨rfl, ?_⟩
    cases hout : outcome.output with
    | none => simp [extend, hout]
    | some q => simp [extend, hout]

/-- A step changes nothing under other ids. -/
lemma Progress.lookup_step {options : Options} {roles : List (String × Role)}
    {edges : List Edge} {now next : Progress} {id k : String}
    (h : now.step options roles edges id = .ok next) (hk : k ≠ id) :
    next.reports.lookup k = now.reports.lookup k ∧ next.values.lookup k = now.values.lookup k := by
  cases hrole : roles.lookup id with
  | none =>
    rw [Progress.step, hrole] at h
    obtain rfl := Except.ok.inj h
    exact ⟨rfl, rfl⟩
  | some role =>
    obtain ⟨outcome, -, hreports, hvalues⟩ := Progress.ok_of_step_ok hrole h
    rw [hreports, hvalues]
    exact ⟨lookup_extend_of_ne hk, lookup_extend_of_ne hk⟩

/-! ### A run as a sequence of steps -/

/-- The dependencies among nodes that edges make. -/
def graph (nodes : List Node) (edges : List Edge) : Graph := dependencies (roles nodes) edges

/-- Where a run starts: only the nodes that cannot run have their reports. -/
def start (nodes : List Node) (edges : List Edge) : Progress :=
  ⟨(graph nodes edges).circular.map fun id => (id, Failure.circular.outcome.report), []⟩

/-- The progress of a run after the given nodes. -/
def progressAfter (options : Options) (nodes : List Node) (edges : List Edge)
    (ids : List String) : Except ArithmeticFault Progress :=
  ids.foldlM (Progress.step options (roles nodes) edges) (start nodes edges)

section Sequence

variable {options : Options} {nodes : List Node} {edges : List Edge}

lemma mem_keys_roles {id : String} :
    id ∈ Keyed.keys (roles nodes) ↔ id ∈ nodes.map Node.id := by
  rw [roles, Keyed.keys_ofPairs, Keyed.mem_distinct, List.map_map]
  rfl

lemma graph_eq (nodes : List Node) (edges : List Edge) :
    graph nodes edges = Graph.ofEdges (Keyed.keys (roles nodes)) edges := rfl

lemma graph_proper (nodes : List Node) (edges : List Edge) : (graph nodes edges).Proper :=
  Graph.ofEdges_proper _ _

lemma exists_role {id : String} (hid : id ∈ (graph nodes edges).order) :
    ∃ role, (roles nodes).lookup id = some role :=
  Option.isSome_iff_exists.1 (Keyed.mem_keys_iff.1 (Graph.mem_ids_of_mem_order hid))

lemma foldlM_frame {ids : List String} {now next : Progress} {k : String}
    (h : ids.foldlM (Progress.step options (roles nodes) edges) now = .ok next) (hk : k ∉ ids) :
    next.reports.lookup k = now.reports.lookup k ∧ next.values.lookup k = now.values.lookup k := by
  refine foldlM_invariant (fun mid => mid.reports.lookup k = now.reports.lookup k ∧
    mid.values.lookup k = now.values.lookup k) (fun id hid mid mid' hkept hstep => ?_)
    ⟨rfl, rfl⟩ h
  obtain ⟨hreports, hvalues⟩ := Progress.lookup_step hstep (ne_of_mem_of_not_mem hid hk).symm
  exact ⟨hreports.trans hkept.1, hvalues.trans hkept.2⟩

lemma lookup_start_values (k : String) : (start nodes edges).values.lookup k = none := rfl

lemma lookup_start_reports (k : String) :
    (start nodes edges).reports.lookup k =
      if k ∈ (graph nodes edges).circular then some Failure.circular.outcome.report else none := by
  rw [start]
  induction (graph nodes edges).circular with
  | nil => rfl
  | cons id ids ih =>
    rw [List.map_cons, Keyed.lookup_cons_ite, ih]
    by_cases hk : k = id
    · simp [hk]
    · simp [hk]

/-- What a node has come to stays until the end: its outcome is that of its role on what had been
found out before it. -/
lemma outcome_of_mem {done before after : List String} {id : String} {role : Role} {last : Progress}
    (hdone : done.Nodup) (hsub : done ⊆ (graph nodes edges).order)
    (hsplit : done = before ++ id :: after) (hrole : (roles nodes).lookup id = some role)
    (h : progressAfter options nodes edges done = .ok last) :
    ∃ now outcome, progressAfter options nodes edges before = .ok now ∧
      runNode options (output? (roles nodes) now.values) (inbound edges id) role = .ok outcome ∧
      last.reports.lookup id = outcome.map Outcome.report ∧
      last.values.lookup id = outcome.bind Outcome.output := by
  subst hsplit
  rw [progressAfter, List.foldlM_append] at h
  obtain ⟨now, hbefore, h⟩ := exists_of_bind_eq_ok h
  rw [List.foldlM_cons] at h
  obtain ⟨next, hstep, hafter⟩ := exists_of_bind_eq_ok h
  obtain ⟨outcome, hrun, hreports, hvalues⟩ := Progress.ok_of_step_ok hrole hstep
  rw [List.nodup_append] at hdone
  have hnotbefore : id ∉ before := fun hmem => hdone.2.2 id hmem id List.mem_cons_self rfl
  have hnotafter : id ∉ after := (List.nodup_cons.1 hdone.2.1).1
  -- nothing was there under the id before its step, and nothing touches it behind
  have hordered : id ∈ (graph nodes edges).order := hsub (by simp)
  have hfree : id ∉ (graph nodes edges).circular := fun hmem =>
    (Graph.mem_circular.1 hmem).2 hordered
  obtain ⟨hreports₀, hvalues₀⟩ := foldlM_frame hbefore hnotbefore
  rw [lookup_start_reports, if_neg hfree] at hreports₀
  rw [lookup_start_values] at hvalues₀
  obtain ⟨hreports', hvalues'⟩ := foldlM_frame hafter hnotafter
  refine ⟨now, outcome, hbefore, hrun, ?_, ?_⟩
  · rw [hreports', hreports, lookup_extend_self hreports₀]
  · rw [hvalues', hvalues, lookup_extend_self hvalues₀]

/-- What a node that has been evaluated presents to others is its entry among the values. -/
lemma output?_eq_lookup {done : List String} {id : String} {last : Progress}
    (hdone : done.Nodup) (hsub : done ⊆ (graph nodes edges).order) (hid : id ∈ done)
    (h : progressAfter options nodes edges done = .ok last) :
    output? (roles nodes) last.values id = last.values.lookup id := by
  obtain ⟨before, after, hsplit⟩ := List.append_of_mem hid
  obtain ⟨role, hrole⟩ := exists_role (hsub hid)
  obtain ⟨now, outcome, -, hrun, -, hvalue⟩ := outcome_of_mem hdone hsub hsplit hrole h
  unfold output?
  rw [hrole]
  cases role with
  | constant value unit =>
    obtain rfl := Except.ok.inj hrun
    exact hvalue.symm
  | process formula inputs => rfl
  | passthrough => rfl
  | group =>
    obtain rfl := Except.ok.inj hrun
    exact hvalue.symm

/-- When a node is evaluated, each of its sources presents what it has at the end of the run. -/
lemma output?_eq_final {before after : List String} {id : String} {now last : Progress}
    (horder : (graph nodes edges).order = before ++ id :: after)
    (hnow : progressAfter options nodes edges before = .ok now)
    (hlast : progressAfter options nodes edges (graph nodes edges).order = .ok last) {e : Edge}
    (he : e ∈ inbound edges id) :
    output? (roles nodes) now.values e.source = last.values.lookup e.source := by
  have hnd := Graph.order_nodup (graph_proper nodes edges)
  have hbehind : e.source ∉ id :: after := Graph.source_not_mem_from horder he
  by_cases hsource : e.source ∈ Keyed.keys (roles nodes)
  · have hmem : e.source ∈ before := Graph.source_mem_before horder he hsource
    have hsub : before ⊆ (graph nodes edges).order := by
      rw [horder]
      exact List.subset_append_left _ _
    have hbefore : before.Nodup := by
      rw [horder, List.nodup_append] at hnd
      exact hnd.1
    rw [output?_eq_lookup hbefore hsub hmem hnow]
    rw [horder, progressAfter, List.foldlM_append] at hlast
    obtain ⟨now', hnow', hrest⟩ := exists_of_bind_eq_ok hlast
    obtain rfl : now' = now := Except.ok.inj (hnow'.symm.trans hnow)
    exact (foldlM_frame hrest hbehind).2.symm
  · have hrole : (roles nodes).lookup e.source = none := by
      rwa [Keyed.mem_keys_iff, Option.not_isSome_iff_eq_none] at hsource
    have hout : e.source ∉ (graph nodes edges).order := fun hmem =>
      hsource (Graph.mem_ids_of_mem_order hmem)
    rw [(foldlM_frame hlast hout).2, lookup_start_values]
    unfold output?
    rw [hrole]

/-! ### The end of a run -/

/-- A run is the sequence of its steps in order. -/
lemma run_eq_ok {out : Output} (h : run options nodes edges = .ok out) :
    ∃ last, progressAfter options nodes edges (graph nodes edges).order = .ok last ∧
      out = ⟨last.reports, (graph nodes edges).circular⟩ := by
  obtain ⟨last, hlast, h⟩ := exists_of_bind_eq_ok h
  exact ⟨last, hlast, (Except.ok.inj h).symm⟩

lemma nodup_keys_foldlM {ids : List String} {now next : Progress} (hids : ids.Nodup)
    (hfresh : ∀ id ∈ ids, now.reports.lookup id = none) (hnow : (Keyed.keys now.reports).Nodup)
    (h : ids.foldlM (Progress.step options (roles nodes) edges) now = .ok next) :
    (Keyed.keys next.reports).Nodup := by
  induction ids generalizing now with
  | nil =>
    obtain rfl := Except.ok.inj h
    exact hnow
  | cons id ids ih =>
    obtain ⟨hid, hids⟩ := List.nodup_cons.1 hids
    rw [List.foldlM_cons] at h
    obtain ⟨mid, hstep, h⟩ := exists_of_bind_eq_ok h
    refine ih hids (fun k hk => ?_) ?_ h
    · have hne : k ≠ id := by
        rintro rfl
        exact hid hk
      rw [(Progress.lookup_step hstep hne).1]
      exact hfresh k (List.mem_cons_of_mem _ hk)
    · cases hrole : (roles nodes).lookup id with
      | none =>
        rw [Progress.step, hrole] at hstep
        obtain rfl := Except.ok.inj hstep
        exact hnow
      | some role =>
        obtain ⟨outcome, -, hreports, -⟩ := Progress.ok_of_step_ok hrole hstep
        rw [hreports]
        exact nodup_keys_extend (hfresh id List.mem_cons_self) hnow

/-- What has been found out at the end: every node in order has what its rule gives on the values
that there are then, the others have what they had at the start. -/
structure Settled (options : Options) (nodes : List Node) (edges : List Edge)
    (last : Progress) : Prop where
  nodup : (Keyed.keys last.reports).Nodup
  ran : ∀ id ∈ (graph nodes edges).order, ∀ role, (roles nodes).lookup id = some role →
    ∃ outcome,
      runNode options (fun k => last.values.lookup k) (inbound edges id) role = .ok outcome ∧
      last.reports.lookup id = outcome.map Outcome.report ∧
      last.values.lookup id = outcome.bind Outcome.output
  value_none : ∀ id ∉ (graph nodes edges).order, last.values.lookup id = none
  report_circular : ∀ id ∉ (graph nodes edges).order, last.reports.lookup id =
    if id ∈ (graph nodes edges).circular then some Failure.circular.outcome.report else none

lemma settled_of_progressAfter {last : Progress}
    (h : progressAfter options nodes edges (graph nodes edges).order = .ok last) :
    Settled options nodes edges last where
  nodup := by
    refine nodup_keys_foldlM (Graph.order_nodup (graph_proper nodes edges)) (fun id hid => ?_) ?_ h
    · rw [lookup_start_reports, if_neg fun hmem => (Graph.mem_circular.1 hmem).2 hid]
    · have hkeys : Keyed.keys (start nodes edges).reports = (graph nodes edges).circular := by
        rw [start, Keyed.keys, List.map_map]
        exact List.map_id _
      rw [hkeys]
      exact (graph_proper nodes edges).nodup.filter _
  ran id hid role hrole := by
    obtain ⟨before, after, horder⟩ := List.append_of_mem hid
    obtain ⟨now, outcome, hnow, hrun, hreport, hvalue⟩ :=
      outcome_of_mem (Graph.order_nodup (graph_proper nodes edges)) (List.Subset.refl _) horder
        hrole h
    refine ⟨outcome, ?_, hreport, hvalue⟩
    rw [← hrun]
    exact (runNode_congr (fun e he => output?_eq_final horder hnow h he) role).symm
  value_none id hid := (foldlM_frame h hid).2
  report_circular id hid := by rw [(foldlM_frame h hid).1, lookup_start_reports]

end Sequence

end Worksheet.Calculation
