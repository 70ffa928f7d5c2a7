import Worksheet.Proofs.Calculation.Run

/-!
# Reports as the solution of equations

Each role says what is reported of a node and what the node passes on, given the final outputs of
the nodes before it.  A run that ends has solved these equations for all nodes in order, and has
reported a circular dependency for the others.
-/

namespace Worksheet.Calculation

open Dependency (Graph)

/-- What the role of a node says about its report and its output, given its inbound edges and the
outputs of all nodes. -/
def Role.Holds (options : Options) (final : String → Option Quantity) (edges : List Edge)
    (report : Option Report) (output : Option Quantity) : Role → Prop
  | constant value unit =>
    let q := value.toQuantity (some unit)
    report = some { value := some q.text, unit := some q.unit.text } ∧ output = some q
  | process formula inputs => ∃ outcome,
    runProcess options formula (bindInputs final edges inputs) = .ok outcome ∧
      report = some outcome.report ∧ output = outcome.output
  | passthrough =>
    match edges.head?.bind fun edge => final edge.source with
    | some q => report = some { value := some q.text, unit := some q.unit.text } ∧ output = some q
    | none => report = some {} ∧ output = none
  | group => report = none ∧ output = none

lemma Role.holds_of_runNode {options : Options} {final : String → Option Quantity}
    {edges : List Edge} {role : Role} {outcome : Option Outcome}
    (h : runNode options final edges role = .ok outcome) :
    role.Holds options final edges (outcome.map Outcome.report) (outcome.bind Outcome.output) := by
  cases role with
  | constant value unit =>
    obtain rfl := Except.ok.inj h
    exact ⟨rfl, rfl⟩
  | process formula inputs =>
    rw [runNode] at h
    cases hrun : runProcess options formula (bindInputs final edges inputs) with
    | error fault =>
      rw [hrun] at h
      exact absurd h (by simp [Functor.map, Except.map])
    | ok outcome' =>
      rw [hrun] at h
      obtain rfl := Except.ok.inj h
      exact ⟨outcome', hrun, rfl, rfl⟩
  | passthrough =>
    obtain rfl := Except.ok.inj h
    unfold Holds runPassthrough
    cases edges.head?.bind fun edge => final edge.source with
    | some q => exact ⟨rfl, rfl⟩
    | none => exact ⟨rfl, rfl⟩
  | group =>
    obtain rfl := Except.ok.inj h
    exact ⟨rfl, rfl⟩

/-- Every role but that of a group has a report. -/
lemma Role.Holds.isSome_report {options : Options} {final : String → Option Quantity}
    {edges : List Edge} {report : Option Report} {output : Option Quantity} {role : Role}
    (h : role.Holds options final edges report output) : report.isSome ↔ role ≠ .group := by
  cases role with
  | constant value unit =>
    rw [h.1]
    simp
  | process formula inputs =>
    obtain ⟨outcome, -, hreport, -⟩ := h
    rw [hreport]
    simp
  | passthrough =>
    simp only [Holds] at h
    split at h <;> simp [h.1]
  | group =>
    rw [h.1]
    simp

/-- What a run reports, against the outputs that the nodes have in the end: `final` holds those of
the nodes in order and no others. -/
structure Solution (options : Options) (nodes : List Node) (edges : List Edge) (out : Output)
    (final : String → Option Quantity) : Prop where
  /-- A node is circular when it is left out of the order. -/
  circular_eq : out.circular = (graph nodes edges).circular
  /-- There is one report for each circular node and each node in order that is no group. -/
  nodup : (Keyed.keys out.reports).Nodup
  mem_reports_iff : ∀ id, id ∈ Keyed.keys out.reports ↔
    id ∈ out.circular ∨
      ∃ node ∈ nodes, node.id = id ∧ id ∈ (graph nodes edges).order ∧ node.role ≠ .group
  circular_report : ∀ id ∈ out.circular,
    out.reports.lookup id = some { value := none, error := some "Circular dependency detected" }
  /-- The equation of a node in order. -/
  holds : ∀ node ∈ nodes, node.id ∈ (graph nodes edges).order →
    node.role.Holds options final (inbound edges node.id) (out.reports.lookup node.id)
      (final node.id)
  final_none : ∀ id ∉ (graph nodes edges).order, final id = none

section Lookup

variable {nodes : List Node} {id : String} {role : Role}

/-- Where ids are distinct, the role of an id is that of the node with this id. -/
lemma lookup_roles_iff (hids : (nodes.map Node.id).Nodup) :
    (roles nodes).lookup id = some role ↔ ⟨id, role⟩ ∈ nodes := by
  have hkeys : (Keyed.keys (nodes.map fun node => (node.id, node.role)).reverse).Nodup := by
    rw [Keyed.keys, List.map_reverse, List.map_map, List.nodup_reverse]
    exact hids
  rw [roles, Keyed.lookup_ofPairs, Keyed.lookup_eq_some_iff_of_nodup hkeys,
    List.mem_reverse, List.mem_map]
  constructor
  · rintro ⟨⟨_, _⟩, hmem, heq⟩
    obtain ⟨rfl, rfl⟩ := Prod.mk.inj heq
    exact hmem
  · intro hmem
    exact ⟨⟨id, role⟩, hmem, rfl⟩

end Lookup

section Run

variable {options : Options} {nodes : List Node} {edges : List Edge}

lemma Settled.solution (hids : (nodes.map Node.id).Nodup) {last : Progress}
    (h : Settled options nodes edges last) :
    Solution options nodes edges ⟨last.reports, (graph nodes edges).circular⟩
      fun k => last.values.lookup k where
  circular_eq := rfl
  nodup := h.nodup
  mem_reports_iff id := by
    rw [Keyed.mem_keys_iff]
    by_cases hid : id ∈ (graph nodes edges).order
    · have hfree : id ∉ (graph nodes edges).circular := fun hmem =>
        (Graph.mem_circular.1 hmem).2 hid
      obtain ⟨role, hrole⟩ := exists_role hid
      obtain ⟨outcome, hrun, hreport, -⟩ := h.ran id hid role hrole
      rw [hreport, (Role.holds_of_runNode hrun).isSome_report]
      constructor
      · intro hrole'
        exact Or.inr ⟨⟨id, role⟩, (lookup_roles_iff hids).1 hrole, rfl, hid, hrole'⟩
      · rintro (hmem | ⟨⟨_, role'⟩, hmem, rfl, -, hrole'⟩)
        · exact absurd hmem hfree
        · rw [(lookup_roles_iff hids).2 hmem, Option.some.injEq] at hrole
          exact hrole ▸ hrole'
    · rw [h.report_circular id hid]
      constructor
      · intro hsome
        by_contra hnone
        rw [not_or] at hnone
        rw [if_neg hnone.1] at hsome
        exact absurd hsome (by simp)
      · rintro (hmem | ⟨_, _, _, hmem, _⟩)
        · rw [if_pos hmem]
          rfl
        · exact absurd hmem hid
  circular_report id hid := by
    rw [h.report_circular id (Graph.mem_circular.1 hid).2, if_pos hid]
    rfl
  holds node hnode hid := by
    obtain ⟨outcome, hrun, hreport, hvalue⟩ :=
      h.ran node.id hid node.role ((lookup_roles_iff hids).2 hnode)
    have hholds := Role.holds_of_runNode hrun
    rwa [← hreport, ← hvalue] at hholds
  final_none := h.value_none

end Run

/-- **A run solves the equations of its nodes.**  If a run over distinct ids ends, its reports and
the outputs that there are at the end are a solution; and whenever a node is evaluated, what its
sources present to it are already these final outputs. -/
theorem run_solves {options : Options} {nodes : List Node} {edges : List Edge} {out : Output}
    (hids : (nodes.map Node.id).Nodup) (h : run options nodes edges = .ok out) :
    ∃ last : Progress,
      progressAfter options nodes edges (graph nodes edges).order = .ok last ∧
      Solution options nodes edges out (fun k => last.values.lookup k) ∧
      ∀ before id after, (graph nodes edges).order = before ++ id :: after →
        ∃ now, progressAfter options nodes edges before = .ok now ∧
          ∀ e ∈ inbound edges id,
            output? (roles nodes) now.values e.source = last.values.lookup e.source := by
  obtain ⟨last, hlast, rfl⟩ := run_eq_ok h
  refine ⟨last, hlast, (settled_of_progressAfter hlast).solution hids, ?_⟩
  intro before id after horder
  have hsplit := hlast
  rw [horder, progressAfter, List.foldlM_append] at hsplit
  obtain ⟨now, hnow, -⟩ := exists_of_bind_eq_ok hsplit
  exact ⟨now, hnow, fun e he => output?_eq_final horder hnow hlast he⟩

/-- Mass and a factor into a product, whose third input repeats a label and is fed by no node; a
passthrough listed before what it reads; a group; and a process that reads itself. -/
def mixedNodes : List Node :=
  [⟨"copy", .passthrough⟩, ⟨"mass", .constant (.literal "3 kg") ""⟩,
   ⟨"rate", .constant (.number 2.0) "m/kg"⟩,
   ⟨"length", .process "A*B" [⟨"a", "A"⟩, ⟨"b", "B"⟩, ⟨"c", "A"⟩]⟩, ⟨"frame", .group⟩,
   ⟨"loop", .process "1" []⟩]

/-- The edges of the mixed graph. -/
def mixedEdges : List Edge :=
  [⟨"length", "copy", none⟩, ⟨"nowhere", "length", some "c"⟩, ⟨"mass", "length", some "a"⟩,
   ⟨"rate", "length", some "b"⟩, ⟨"mass", "length", some "b"⟩, ⟨"loop", "loop", none⟩]

/-- What is reported of the mixed graph. -/
def mixedOutput : Output where
  reports :=
    [("loop", { error := some "Circular dependency detected" }),
     ("mass", { value := some "3 kg", unit := some "kg" }),
     ("rate", { value := some "2 m/kg", unit := some "m/kg" }),
     ("length", { value := some "6 m", unit := some "m" }),
     ("copy", { value := some "6 m", unit := some "m" })]
  circular := ["loop"]

/-- The first edge of an input counts, an edge from nowhere binds nothing, and the group has no
report. -/
theorem run_solves_mixed :
    (mixedNodes.map Node.id).Nodup ∧ run {} mixedNodes mixedEdges = .ok mixedOutput ∧
      ∃ last : Progress,
        progressAfter {} mixedNodes mixedEdges (graph mixedNodes mixedEdges).order = .ok last ∧
        Solution {} mixedNodes mixedEdges mixedOutput (fun k => last.values.lookup k) ∧
        (last.values.lookup "copy").map Quantity.text = some "6 m" := by
  have hids : (mixedNodes.map Node.id).Nodup := by decide
  have hrun : run {} mixedNodes mixedEdges = .ok mixedOutput := rfl
  obtain ⟨last, hlast, hsolution, -⟩ := run_solves hids hrun
  refine ⟨hids, hrun, last, hlast, hsolution, ?_⟩
  have hvalue :
      (progressAfter {} mixedNodes mixedEdges (graph mixedNodes mixedEdges).order).toOption.bind
        (fun last => (last.values.lookup "copy").map Quantity.text) = some "6 m" := rfl
  rwa [hlast] at hvalue

end Worksheet.Calculation
