import Worksheet.Proofs.Calculation.Process
import Worksheet.Proofs.Calculation.Solution
import Worksheet.Proofs.Dimensional.Unbound
import Worksheet.Proofs.Formula.Unbound

/-!
# Inputs that have failed

A node with an error passes nothing on, so the label of an input that is wired to it stays unbound
in the formula behind it.  Over quantities an unbound name counts as the unitless zero, in strict
reading as a fault; over bare numbers it is a fault as soon as the evaluation comes to it, unless
it is the name of a constant.  A formula that mentions a failed input therefore has no value, or
outside of strict reading the quantity that it has with zero in the place of the input.
-/

namespace Worksheet.Calculation

open Dependency (Graph)

/-- The formula mentions the name as an identifier in both of its readings: the name is one of its
tokens over quantities, and the evaluation over bare numbers comes to it, if the formula can be
read as an expression at all. -/
structure Mentions (formula : String) (scope : List (String × Quantity)) (name : String) :
    Prop where
  token : .name name.toList ∈ Dimensional.tokenize (Text.trim formula)
  reads : ∀ e, Formula.parse (Text.trim formula) = .ok e → e.Reads (bareNumbers scope) name

/-- The quantity that the formula has with the unitless zero in the place of a name. -/
def quantityWithZero (formula : String) (scope : List (String × Quantity)) (name : String) :
    Option Quantity :=
  Dimensional.evaluate (Text.trim formula)
    (Function.update (fun other => scope.lookup other) name (some .zero)) false

/-- A process with an input that has failed: the first edge to the input comes from a node that is
reported with an error, and no other input has the same label. -/
structure FailedInput (nodes : List Node) (edges : List Edge) (out : Output) (id formula : String)
    (inputs : List Handle) (handle : Handle) : Prop where
  role : (roles nodes).lookup id = some (.process formula inputs)
  handle_mem : handle ∈ inputs
  label_unique : ∀ other ∈ inputs, other.label = handle.label → other = handle
  failed : ∃ edge report,
    (inbound edges id).find? (fun e => e.targetHandle == some handle.id) = some edge ∧
      out.reports.lookup edge.source = some report ∧ report.error.isSome = true

/-! ### A node with an error passes nothing on -/

lemma error_of_plainOutcome {options : Options} {v : Value} {outcome : Outcome}
    (h : plainOutcome options v = .ok outcome) : outcome.report.error = none := by
  cases v with
  | number x =>
    obtain ⟨y, -, h⟩ := exists_of_bind_eq_ok h
    obtain rfl := Except.ok.inj h
    rfl
  | _ =>
    obtain rfl := Except.ok.inj h
    rfl

lemma output_of_runProcess {options : Options} {formula : String}
    {scope : List (String × Quantity)} {outcome : Outcome}
    (h : runProcess options formula scope = .ok outcome)
    (herror : outcome.report.error.isSome = true) : outcome.output = none := by
  obtain ⟨-, hrun⟩ | ⟨q, -, hrun⟩ | ⟨-, -, hrun⟩ | ⟨-, hrun⟩ :=
    runProcess_cases options formula scope
  · obtain rfl := Except.ok.inj (hrun.symm.trans h)
    rfl
  · obtain rfl := Except.ok.inj (hrun.symm.trans h)
    exact absurd herror (by simp [success])
  · obtain rfl := Except.ok.inj (hrun.symm.trans h)
    rfl
  · rw [hrun] at h
    cases hvalue : Formula.evaluate (Text.trim formula) (bareNumbers scope) with
    | ok v =>
      rw [withoutUnits_of_ok hvalue] at h
      rw [error_of_plainOutcome h] at herror
      exact absurd herror (by simp)
    | error cause =>
      rw [withoutUnits_of_error hvalue] at h
      obtain rfl := Except.ok.inj h
      rfl

lemma Role.Holds.output_eq_none {options : Options} {final : String → Option Quantity}
    {edges : List Edge} {report : Report} {output : Option Quantity} {role : Role}
    (h : role.Holds options final edges (some report) output)
    (herror : report.error.isSome = true) : output = none := by
  cases role with
  | constant value unit =>
    obtain rfl := Option.some.inj h.1
    exact absurd herror (by simp)
  | process formula inputs =>
    obtain ⟨outcome, hrun, hreport, houtput⟩ := h
    obtain rfl := Option.some.inj hreport
    rw [houtput, output_of_runProcess hrun herror]
  | passthrough =>
    simp only [Holds] at h
    split at h
    · obtain rfl := Option.some.inj h.1
      exact absurd herror (by simp)
    · exact h.2
  | group => exact h.2

section Settled

variable {options : Options} {nodes : List Node} {edges : List Edge} {last : Progress}

lemma Settled.value_eq_none (h : Settled options nodes edges last) {id : String} {report : Report}
    (hreport : last.reports.lookup id = some report) (herror : report.error.isSome = true) :
    last.values.lookup id = none := by
  by_cases horder : id ∈ (graph nodes edges).order
  · obtain ⟨role, hrole⟩ := exists_role horder
    obtain ⟨outcome, hrun, hreported, hvalue⟩ := h.ran id horder role hrole
    have hholds := Role.holds_of_runNode hrun
    rw [← hreported, ← hvalue, hreport] at hholds
    exact hholds.output_eq_none herror
  · exact h.value_none id horder

/-! ### The label of a failed input is unbound -/

/-- A label is unbound if none of the inputs with this label has an edge that brings a value. -/
lemma lookup_bindInputs_eq_none {final : String → Option Quantity} {inputs : List Handle}
    {label : String}
    (h : ∀ handle ∈ inputs, handle.label = label → ∀ edge,
      edges.find? (fun e => e.targetHandle == some handle.id) = some edge →
        final edge.source = none) :
    (bindInputs final edges inputs).lookup label = none := by
  have hkey : label ∉ Keyed.keys (bindInputs final edges inputs) := by
    rw [bindInputs, Keyed.keys_ofPairs, Keyed.mem_distinct, List.mem_map]
    rintro ⟨pair, hpair, rfl⟩
    obtain ⟨handle, hhandle, hbound⟩ := List.mem_filterMap.1 hpair
    obtain ⟨edge, hedge, hbound⟩ := Option.bind_eq_some_iff.1 hbound
    obtain ⟨q, hq, hbound⟩ := Option.bind_eq_some_iff.1 hbound
    obtain rfl := Option.some.inj hbound
    exact absurd (hq.symm.trans (h handle hhandle rfl edge hedge)) (by simp)
  rwa [Keyed.mem_keys_iff, Option.not_isSome_iff_eq_none] at hkey

lemma FailedInput.lookup_eq_none {circular : List String} {id formula : String}
    {inputs : List Handle} {handle : Handle}
    (h : FailedInput nodes edges ⟨last.reports, circular⟩ id formula inputs handle)
    (hsettled : Settled options nodes edges last) :
    (bindInputs (fun k => last.values.lookup k) (inbound edges id) inputs).lookup handle.label =
      none := by
  obtain ⟨edge, report, hedge, hreport, herror⟩ := h.failed
  refine lookup_bindInputs_eq_none fun other hother hlabel edge' hedge' => ?_
  obtain rfl := h.label_unique other hother hlabel
  obtain rfl : edge = edge' := Option.some.inj (hedge.symm.trans hedge')
  exact hsettled.value_eq_none hreport herror

end Settled

/-! ### What the formula behind a failed input comes to -/

section Process

variable {options : Options} {formula : String} {scope : List (String × Quantity)} {name : String}

/-- A mentioned name without a value leaves a process without a value, unless the formula has a
quantity. -/
lemma value_eq_none_of_noQuantity (hscope : scope.lookup name = none)
    (hconstant : Formula.constants.lookup name = none) (h : Mentions formula scope name)
    (hquantity : Dimensional.evaluate (Text.trim formula) (fun other => scope.lookup other)
      options.strict = none) {outcome : Outcome}
    (hrun : runProcess options formula scope = .ok outcome) : outcome.report.value = none := by
  obtain ⟨-, hcase⟩ | ⟨q, hq, -⟩ | ⟨-, -, hcase⟩ | ⟨-, hcase⟩ :=
    runProcess_cases options formula scope
  · obtain rfl := Except.ok.inj (hcase.symm.trans hrun)
    rfl
  · exact absurd (hq.symm.trans hquantity) (by simp)
  · obtain rfl := Except.ok.inj (hcase.symm.trans hrun)
    rfl
  · have hbare : bareNumbers scope name = none := by rw [bareNumbers, hscope, Option.map_none]
    obtain ⟨cause, hcause⟩ := Formula.fails_evaluate_of_reads hbare hconstant h.reads
    rw [hcase, withoutUnits_of_error hcause] at hrun
    obtain rfl := Except.ok.inj hrun
    rfl

lemma value_eq_none_of_strict (hstrict : options.strict = true) (hscope : scope.lookup name = none)
    (hconstant : Formula.constants.lookup name = none) (h : Mentions formula scope name)
    {outcome : Outcome} (hrun : runProcess options formula scope = .ok outcome) :
    outcome.report.value = none := by
  refine value_eq_none_of_noQuantity hscope hconstant h ?_ hrun
  rw [hstrict]
  exact Dimensional.evaluate_strict_of_unbound h.token hscope

/-- Outside of strict reading the quantity of a formula is the one with zero for an unbound name. -/
lemma evaluate_eq_quantityWithZero (hstrict : options.strict = false)
    (hscope : scope.lookup name = none) :
    Dimensional.evaluate (Text.trim formula) (fun other => scope.lookup other) options.strict =
      quantityWithZero formula scope name := by
  rw [hstrict, quantityWithZero, Dimensional.evaluate_update_zero hscope]

lemma report_of_quantity {q : Quantity}
    (hquantity : Dimensional.evaluate (Text.trim formula) (fun other => scope.lookup other)
      options.strict = some q) {outcome : Outcome}
    (hrun : runProcess options formula scope = .ok outcome) :
    outcome.report = { value := some q.text, unit := some q.unit.text } := by
  obtain rfl := Except.ok.inj ((runProcess_of_quantity hquantity).symm.trans hrun)
  rfl

/-- Where the evaluation over bare numbers does not come to a name, no value of it makes a
difference. -/
lemma evaluate_cons_of_not_reads
    (h : ∀ e, Formula.parse (Text.trim formula) = .ok e → ¬e.Reads (bareNumbers scope) name)
    (q : Quantity) :
    Formula.evaluate (Text.trim formula) (bareNumbers scope) =
      Formula.evaluate (Text.trim formula) (bareNumbers ((name, q) :: scope)) := by
  refine Formula.evaluate_congr_of_not_reads (fun other hother => ?_) h
  rw [bareNumbers, bareNumbers, Keyed.lookup_cons_ite, if_neg hother]

end Process

/-- **What comes of a failed input.**  A process has an input that has failed.  On or behind a cycle
it has no value.  In order, outside of strict reading, it has the quantity of its formula with the
unitless zero in the place of the label.  If there is no such quantity, or the reading is strict, it
has no value when its formula mentions the label and the label is no constant; and if the
evaluation over bare numbers does not come to the label, it is the same for every value of the
input. -/
theorem value_of_failedInput {options : Options} {nodes : List Node} {edges : List Edge}
    {out : Output} {id formula : String} {inputs : List Handle} {handle : Handle}
    (hrun : run options nodes edges = .ok out)
    (h : FailedInput nodes edges out id formula inputs handle) :
    ∃ last scope report,
      progressAfter options nodes edges (graph nodes edges).order = .ok last ∧
      scope = bindInputs (fun k => last.values.lookup k) (inbound edges id) inputs ∧
      out.reports.lookup id = some report ∧
      (id ∈ out.circular → report.value = none) ∧
      (options.strict = false → id ∉ out.circular →
        ∀ q, quantityWithZero formula scope handle.label = some q →
          report = { value := some q.text, unit := some q.unit.text }) ∧
      (options.strict = true ∨ quantityWithZero formula scope handle.label = none →
        Mentions formula scope handle.label → Formula.constants.lookup handle.label = none →
          report.value = none) ∧
      ((∀ e, Formula.parse (Text.trim formula) = .ok e →
          ¬e.Reads (bareNumbers scope) handle.label) →
        ∀ q, Formula.evaluate (Text.trim formula) (bareNumbers scope) =
          Formula.evaluate (Text.trim formula) (bareNumbers ((handle.label, q) :: scope))) := by
  obtain ⟨last, hlast, rfl⟩ := run_eq_ok hrun
  have hsettled := settled_of_progressAfter hlast
  have hscope := h.lookup_eq_none hsettled
  by_cases horder : id ∈ (graph nodes edges).order
  · have hfree : id ∉ (graph nodes edges).circular := fun hmem =>
      (Graph.mem_circular.1 hmem).2 horder
    obtain ⟨node, hnode, hreported, -⟩ := hsettled.ran id horder _ h.role
    obtain ⟨outcome, hprocess, hreport, -⟩ := Role.holds_of_runNode hnode
    rw [← hreported] at hreport
    refine ⟨last, _, outcome.report, hlast, rfl, hreport, fun hmem => absurd hmem hfree, ?_, ?_,
      evaluate_cons_of_not_reads⟩
    · intro hstrict _ q hq
      rw [← evaluate_eq_quantityWithZero hstrict hscope] at hq
      exact report_of_quantity hq hprocess
    · intro hcase hmentions hconstant
      cases hstrict : options.strict with
      | true => exact value_eq_none_of_strict hstrict hscope hconstant hmentions hprocess
      | false =>
        have hquantity := hcase.resolve_left (by simp [hstrict])
        rw [← evaluate_eq_quantityWithZero hstrict hscope] at hquantity
        exact value_eq_none_of_noQuantity hscope hconstant hmentions hquantity hprocess
  · have hcircular : id ∈ (graph nodes edges).circular := by
      refine Graph.mem_circular.2 ⟨?_, horder⟩
      rw [graph_eq, Graph.mem_nodes_ofEdges, Keyed.mem_keys_iff, h.role]
      rfl
    have hreport := hsettled.report_circular id horder
    rw [if_pos hcircular] at hreport
    exact ⟨last, _, _, hlast, rfl, hreport, fun _ => rfl, fun _ hfree => absurd hcircular hfree,
      fun _ _ _ => rfl, evaluate_cons_of_not_reads⟩

/-- A process without a formula that is wired to the only input of another process. -/
def brokenFeed (formula label : String) : List Node :=
  [⟨"broken", .process "" []⟩, ⟨"total", .process formula [⟨"in", label⟩]⟩]

/-- The wire between the two. -/
def brokenEdges : List Edge := [⟨"broken", "total", some "in"⟩]

lemma failedInput_brokenFeed (formula label : String) {out : Output}
    (h : out.reports.lookup "broken" = some Failure.noFormula.outcome.report) :
    FailedInput (brokenFeed formula label) brokenEdges out "total" formula [⟨"in", label⟩]
      ⟨"in", label⟩ where
  role := rfl
  handle_mem := List.mem_cons_self
  label_unique _ hother _ := List.mem_singleton.1 hother
  failed := ⟨_, _, rfl, h, rfl⟩

lemma mentions_factor (formula name : String) {right : Formula.Expr}
    (htoken : .name name.toList ∈ Dimensional.tokenize (Text.trim formula))
    (hparse : Formula.parse (Text.trim formula) = .ok (.binary .mul (.symbol name) right))
    (scope : List (String × Quantity)) : Mentions formula scope name where
  token := htoken
  reads e he := by
    obtain rfl := Except.ok.inj (hparse.symm.trans he)
    exact Or.inl rfl

/-- In strict reading the double of a failed input has no value. -/
theorem value_of_failedInput_strict :
    ∃ out, run { strict := true } (brokenFeed "A*2" "A") brokenEdges = .ok out ∧
      FailedInput (brokenFeed "A*2" "A") brokenEdges out "total" "A*2" [⟨"in", "A"⟩] ⟨"in", "A"⟩ ∧
      ∃ report, out.reports.lookup "total" = some report ∧ report.value = none := by
  obtain ⟨out, hrun, hbroken⟩ : ∃ out,
      run { strict := true } (brokenFeed "A*2" "A") brokenEdges = .ok out ∧
        out.reports.lookup "broken" = some Failure.noFormula.outcome.report := ⟨_, rfl, rfl⟩
  have hfailed := failedInput_brokenFeed "A*2" "A" hbroken
  obtain ⟨last, scope, report, -, -, hreport, -, -, hvalue, -⟩ := value_of_failedInput hrun hfailed
  have hmentions := mentions_factor "A*2" "A" (by decide) rfl scope
  exact ⟨out, hrun, hfailed, report, hreport, hvalue (Or.inl rfl) hmentions (by decide)⟩

/-- A process has no value whenever one of its inputs has failed and its formula mentions the label
of the input. -/
def ErrorsStay (options : Options) : Prop :=
  ∀ (nodes : List Node) (edges : List Edge) (out : Output) (id formula : String)
    (inputs : List Handle) (handle : Handle), run options nodes edges = .ok out →
    FailedInput nodes edges out id formula inputs handle →
    (∀ scope, Mentions formula scope handle.label) →
      ∃ report, out.reports.lookup id = some report ∧ report.value = none

lemma not_errorsStay {options : Options} (formula label value : String) {out : Output}
    (hrun : run options (brokenFeed formula label) brokenEdges = .ok out)
    (hbroken : out.reports.lookup "broken" = some Failure.noFormula.outcome.report)
    (hmentions : ∀ scope, Mentions formula scope label) {report : Report}
    (hreport : out.reports.lookup "total" = some report) (hvalue : report.value = some value) :
    ¬ErrorsStay options := by
  intro h
  obtain ⟨report', hreport', hnone⟩ :=
    h _ _ _ _ _ _ _ hrun (failedInput_brokenFeed _ _ hbroken) hmentions
  obtain rfl : report = report' := Option.some.inj (hreport.symm.trans hreport')
  exact absurd (hvalue.symm.trans hnone) (by simp)

/-- The double of a failed input is zero, and in strict reading that of an input labelled `pi` is
the double of the constant. -/
theorem failed_input_has_value : ¬ErrorsStay {} ∧ ¬ErrorsStay { strict := true } :=
  ⟨not_errorsStay "A*2" "A" "0" rfl rfl (mentions_factor _ _ (by decide) rfl) rfl rfl,
    not_errorsStay "pi*2" "pi" "6.2832" rfl rfl (mentions_factor _ _ (by decide) rfl) rfl rfl⟩

end Worksheet.Calculation
