import Worksheet.Proofs.Calculation.Process
import Worksheet.Proofs.Calculation.Solution
import Worksheet.Proofs.Table.Overflow

/-!
# When a run has an output

The faults of a process formula are caught while it is evaluated, and become the report of its node.
The conversion of the result to a double comes behind that: an integer that has none breaks off the
whole run.  Nothing else does, so a run has its output exactly when no process comes to such an
integer when its turn comes.
-/

namespace Worksheet.Calculation

open Dependency (Graph)

/-- The formula is evaluated over bare numbers and comes to an integer that has no double. -/
def LeavesRange (options : Options) (formula : String) (scope : List (String × Quantity)) : Prop :=
  FallsBack options formula scope ∧
    ∃ v, Formula.evaluate (Text.trim formula) (bareNumbers scope) = .ok v ∧ v.Oversized

/-- The formula is evaluated over bare numbers and refused. -/
def Refused (options : Options) (cause : Formula.Refusal) (formula : String)
    (scope : List (String × Quantity)) : Prop :=
  (Text.trim formula).isEmpty = false ∧ FallsBack options formula scope ∧
    Formula.evaluate (Text.trim formula) (bareNumbers scope) = .error cause

section Process

variable {options : Options} {formula : String} {scope : List (String × Quantity)}

lemma fails_plainOutcome {v : Value} : Fails (plainOutcome options v) ↔ v.Oversized := by
  cases v with
  | number x =>
    rw [plainOutcome, fails_bind_pure]
    exact fails_toFloat_iff
  | null => exact iff_of_false (not_fails_ok _) id
  | bool b => exact iff_of_false (not_fails_ok _) id
  | text s => exact iff_of_false (not_fails_ok _) id
  | list items => exact iff_of_false (not_fails_ok _) id
  | record fields => exact iff_of_false (not_fails_ok _) id

lemma fails_withoutUnits :
    Fails (withoutUnits options formula scope) ↔
      ∃ v, Formula.evaluate (Text.trim formula) (bareNumbers scope) = .ok v ∧ v.Oversized := by
  cases h : Formula.evaluate (Text.trim formula) (bareNumbers scope) with
  | ok v => simp [withoutUnits_of_ok h, fails_plainOutcome]
  | error cause => simp [withoutUnits_of_error h]

lemma fails_runProcess :
    Fails (runProcess options formula scope) ↔ LeavesRange options formula scope := by
  obtain ⟨hempty, hrun⟩ | ⟨q, hq, hrun⟩ | ⟨hq, hplain, hrun⟩ | ⟨hback, hrun⟩ :=
    runProcess_cases options formula scope
  · refine iff_of_false (by rw [hrun]; exact not_fails_ok _) ?_
    rintro ⟨-, v, hv, -⟩
    obtain ⟨cause, hcause⟩ := fails_evaluate_of_isEmpty hempty (bareNumbers scope)
    exact absurd (hcause.symm.trans hv) (by simp)
  · refine iff_of_false (by rw [hrun]; exact not_fails_ok _) ?_
    rintro ⟨hback, -⟩
    exact absurd (hq.symm.trans hback.noQuantity) (by simp)
  · refine iff_of_false (by rw [hrun]; exact not_fails_ok _) ?_
    rintro ⟨hback, -⟩
    exact absurd (hplain.2.symm.trans (hback.noMismatch hplain.1)) (by simp)
  · rw [hrun, fails_withoutUnits, LeavesRange, and_iff_right hback]

lemma runProcess_of_refused {cause : Formula.Refusal} (h : Refused options cause formula scope) :
    runProcess options formula scope = .ok (Failure.formula cause).outcome := by
  obtain ⟨hempty, hback, hcause⟩ := h
  rw [runProcess_of_fallsBack hback hempty, withoutUnits_of_error hcause]

/-! ### The one fault that is not reported -/

lemma integerTooLarge_of_plainOutcome {v : Value} {fault : ArithmeticFault}
    (h : plainOutcome options v = .error fault) : fault = .integerTooLarge := by
  cases v with
  | number x =>
    obtain hx | ⟨x, -, hok⟩ := bind_eq_error_iff.1 h
    · cases x with
      | int n =>
        rw [Number.toFloat] at hx
        split at hx
        · exact absurd hx (by simp)
        · exact (Except.error.inj hx).symm
      | float x => exact absurd hx (by simp [Number.toFloat])
      | nan mark => exact absurd hx (by simp [Number.toFloat])
    · exact absurd hok (by simp [pure, Except.pure])
  | _ => exact absurd h (by simp [plainOutcome])

lemma integerTooLarge_of_runProcess {fault : ArithmeticFault}
    (h : runProcess options formula scope = .error fault) : fault = .integerTooLarge := by
  obtain ⟨-, hrun⟩ | ⟨q, -, hrun⟩ | ⟨-, -, hrun⟩ | ⟨-, hrun⟩ :=
    runProcess_cases options formula scope
  · exact absurd (hrun.symm.trans h) (by simp)
  · exact absurd (hrun.symm.trans h) (by simp)
  · exact absurd (hrun.symm.trans h) (by simp)
  · rw [hrun] at h
    cases hvalue : Formula.evaluate (Text.trim formula) (bareNumbers scope) with
    | ok v => exact integerTooLarge_of_plainOutcome (withoutUnits_of_ok hvalue ▸ h)
    | error cause => exact absurd ((withoutUnits_of_error hvalue).symm.trans h) (by simp)

end Process

/-! ### A run -/

section Run

variable {options : Options} {nodes : List Node} {edges : List Edge} {fault : ArithmeticFault}

/-- What a node finds when its turn comes: the progress after the nodes before it in order. -/
def Finds (options : Options) (nodes : List Node) (edges : List Edge) (id : String)
    (now : Progress) : Prop :=
  ∃ before after, (graph nodes edges).order = before ++ id :: after ∧
    progressAfter options nodes edges before = .ok now

/-- The node is a process that gets its turn, and its formula with the inputs that it finds is as
described. -/
def AtTurn (options : Options) (nodes : List Node) (edges : List Edge) (node : Node)
    (motive : String → List (String × Quantity) → Prop) : Prop :=
  ∃ formula inputs now, node.role = .process formula inputs ∧
    Finds options nodes edges node.id now ∧
    motive formula (bindInputs (output? (roles nodes) now.values) (inbound edges node.id) inputs)

/-- Only processes break off. -/
lemma runNode_eq_error_iff {output? : String → Option Quantity} {role : Role} :
    runNode options output? edges role = .error fault ↔ ∃ formula inputs,
      role = .process formula inputs ∧
        runProcess options formula (bindInputs output? edges inputs) = .error fault := by
  cases role with
  | process formula inputs =>
    have hmap : runNode options output? edges (.process formula inputs) =
        (runProcess options formula (bindInputs output? edges inputs)).map some := rfl
    rw [hmap, map_eq_error_iff]
    simp
  | _ => simp [runNode]

lemma Progress.step_eq_error_iff {now : Progress} {id : String} :
    now.step options (roles nodes) edges id = .error fault ↔ ∃ formula inputs,
      (roles nodes).lookup id = some (.process formula inputs) ∧
        runProcess options formula
          (bindInputs (output? (roles nodes) now.values) (inbound edges id) inputs) =
            .error fault := by
  rw [Progress.step]
  cases hrole : (roles nodes).lookup id with
  | none => simp
  | some role =>
    rw [bind_eq_error_iff, or_iff_left, runNode_eq_error_iff]
    · simp
    · rintro ⟨outcome, -, h⟩
      cases outcome with
      | none => exact absurd h (by simp [pure, Except.pure])
      | some outcome => exact absurd h (by simp [pure, Except.pure])

/-- A run breaks off as a process does when its turn comes. -/
lemma run_eq_error_iff :
    run options nodes edges = .error fault ↔ ∃ id now formula inputs,
      Finds options nodes edges id now ∧
        (roles nodes).lookup id = some (.process formula inputs) ∧
        runProcess options formula
          (bindInputs (output? (roles nodes) now.values) (inbound edges id) inputs) =
            .error fault := by
  have hsteps : run options nodes edges = .error fault ↔
      progressAfter options nodes edges (graph nodes edges).order = .error fault := by
    have hrun : run options nodes edges =
        progressAfter options nodes edges (graph nodes edges).order >>= fun last =>
          pure ⟨last.reports, (graph nodes edges).circular⟩ := rfl
    rw [hrun, bind_eq_error_iff, or_iff_left]
    rintro ⟨last, -, h⟩
    exact absurd h (by simp [pure, Except.pure])
  rw [hsteps, progressAfter, foldlM_eq_error_iff]
  simp only [Progress.step_eq_error_iff]
  constructor
  · rintro ⟨before, id, after, now, horder, hbefore, formula, inputs, hrole, hrun⟩
    exact ⟨id, now, formula, inputs, ⟨before, after, horder, hbefore⟩, hrole, hrun⟩
  · rintro ⟨id, now, formula, inputs, ⟨before, after, horder, hbefore⟩, hrole, hrun⟩
    exact ⟨before, id, after, now, horder, hbefore, formula, inputs, hrole, hrun⟩

lemma fails_run (hids : (nodes.map Node.id).Nodup) :
    Fails (run options nodes edges) ↔ ∃ node ∈ nodes,
      AtTurn options nodes edges node (LeavesRange options) := by
  constructor
  · rintro ⟨fault, h⟩
    obtain ⟨id, now, formula, inputs, hfinds, hrole, hrun⟩ := run_eq_error_iff.1 h
    exact ⟨⟨id, .process formula inputs⟩, (lookup_roles_iff hids).1 hrole, formula, inputs, now,
      rfl, hfinds, fails_runProcess.1 ⟨fault, hrun⟩⟩
  · rintro ⟨⟨id, role⟩, hnode, formula, inputs, now, hrole, hfinds, hleaves⟩
    obtain ⟨fault, hrun⟩ := fails_runProcess.2 hleaves
    exact ⟨fault, run_eq_error_iff.2
      ⟨id, now, formula, inputs, hfinds, hrole ▸ (lookup_roles_iff hids).2 hnode, hrun⟩⟩

/-- A finished run has a report for every node but the groups. -/
lemma exists_report (hids : (nodes.map Node.id).Nodup) {out : Output}
    (h : run options nodes edges = .ok out) {node : Node} (hnode : node ∈ nodes)
    (hrole : node.role ≠ .group) : ∃ report, out.reports.lookup node.id = some report := by
  obtain ⟨last, hlast, rfl⟩ := run_eq_ok h
  have hsolution := (settled_of_progressAfter hlast).solution hids
  have hkey : node.id ∈ Keyed.keys last.reports := by
    rw [hsolution.mem_reports_iff]
    by_cases horder : node.id ∈ (graph nodes edges).order
    · exact Or.inr ⟨node, hnode, rfl, horder, hrole⟩
    · refine Or.inl (Graph.mem_circular.2 ⟨?_, horder⟩)
      rw [graph_eq, Graph.mem_nodes_ofEdges, mem_keys_roles]
      exact List.mem_map_of_mem hnode
  exact Option.isSome_iff_exists.1 (Keyed.mem_keys_iff.1 hkey)

/-- A finished run reports the refusal of a formula with the node of the formula. -/
lemma report_of_refused (hids : (nodes.map Node.id).Nodup) {out : Output}
    (h : run options nodes edges = .ok out) {node : Node} (hnode : node ∈ nodes)
    {cause : Formula.Refusal}
    (hrefused : AtTurn options nodes edges node (Refused options cause)) :
    out.reports.lookup node.id = some (Failure.formula cause).outcome.report := by
  obtain ⟨last, hlast, rfl⟩ := run_eq_ok h
  obtain ⟨formula, inputs, now, hrole, ⟨before, after, horder, hnow⟩, hformula⟩ := hrefused
  have hlookup : (roles nodes).lookup node.id = some (.process formula inputs) :=
    hrole ▸ (lookup_roles_iff hids).2 hnode
  obtain ⟨now', outcome, hnow', hrun, hreport, -⟩ :=
    outcome_of_mem (Graph.order_nodup (graph_proper nodes edges)) (List.Subset.refl _) horder
      hlookup hlast
  obtain rfl : now = now' := Except.ok.inj (hnow.symm.trans hnow')
  rw [runNode, runProcess_of_refused hformula] at hrun
  obtain rfl := Except.ok.inj hrun
  exact hreport

end Run

/-- **When a run has an output.**  The only fault that breaks off a run is an integer that has no
double.  A run has an output, with a report for every node but the groups, exactly when no process
comes to such an integer over bare numbers when its turn comes; whatever else a formula is refused
for over bare numbers is then reported with its node. -/
theorem run_reports_iff {options : Options} {nodes : List Node} {edges : List Edge}
    (hids : (nodes.map Node.id).Nodup) :
    (∀ fault, run options nodes edges = .error fault → fault = .integerTooLarge) ∧
    ((∃ out, run options nodes edges = .ok out ∧
      (∀ node ∈ nodes, node.role ≠ .group →
        ∃ report, out.reports.lookup node.id = some report) ∧
      ∀ node ∈ nodes, ∀ cause, AtTurn options nodes edges node (Refused options cause) →
        out.reports.lookup node.id =
          some { value := none, error := some ("Calculation error: " ++ cause.message) }) ↔
      ∀ node ∈ nodes, ¬AtTurn options nodes edges node (LeavesRange options)) := by
  constructor
  · intro fault h
    obtain ⟨id, now, formula, inputs, -, -, hrun⟩ := run_eq_error_iff.1 h
    exact integerTooLarge_of_runProcess hrun
  · have hnone : (∀ node ∈ nodes, ¬AtTurn options nodes edges node (LeavesRange options)) ↔
        ¬Fails (run options nodes edges) := by
      rw [fails_run hids]
      simp only [not_exists, not_and]
    rw [hnone, not_fails_iff]
    refine exists_congr fun out => and_iff_left_of_imp fun h => ⟨?_, ?_⟩
    · exact fun node hnode hrole => exists_report hids h hnode hrole
    · exact fun node hnode cause hrefused => report_of_refused hids h hnode hrefused

/-- A product of integers beyond the range of doubles, written with a sign in front so that it is
no term over quantities. -/
def longProduct : List Char := '+' :: ['*'].intercalate (List.replicate 39 (List.replicate 8 '9'))

/-- A process with the product, and a mass that has nothing to do with it. -/
def productNodes : List Node :=
  [⟨"product", .process (String.ofList longProduct) []⟩, ⟨"mass", .constant (.number 5.0) "kg"⟩]

/-- The value of the product. -/
def longProductValue : Nat := Nat.pow 99999999 39

/-- The product has no double. -/
lemma longProduct_leavesRange : LeavesRange {} (String.ofList longProduct) [] := by
  have hchars : Text.trimChars longProduct = longProduct := by decide +kernel
  have htrim : Text.trim (String.ofList longProduct) = String.ofList longProduct := by
    rw [Text.trim, String.toList_ofList, hchars]
  refine ⟨⟨?_, fun h => absurd h (by simp)⟩, .number (.int (Int.ofNat longProductValue)), ?_, ?_⟩
  · have hparse :
        Dimensional.parse? (Text.matches? Dimensional.tokenPattern longProduct) = none := by
      decide +kernel
    rw [htrim, Dimensional.evaluate, Dimensional.tokenize, String.toList_ofList, hparse]
    rfl
  · rw [htrim, Formula.evaluate, Formula.parse, String.toList_ofList]
    rfl
  · have hbound : Double.integerBound ≤ longProductValue := by decide +kernel
    exact hbound

/-- The mass loses its report to the product. -/
theorem run_reports_iff_product :
    (productNodes.map Node.id).Nodup ∧ run {} productNodes [] = .error .integerTooLarge ∧
      ∃ node ∈ productNodes, AtTurn {} productNodes [] node (LeavesRange {}) := by
  have hids : (productNodes.map Node.id).Nodup := by decide
  have hfinds : Finds {} productNodes [] "product" (start productNodes []) :=
    ⟨[], ["mass"], by decide, rfl⟩
  have hturn : AtTurn {} productNodes [] ⟨"product", .process (String.ofList longProduct) []⟩
      (LeavesRange {}) := ⟨_, [], _, rfl, hfinds, longProduct_leavesRange⟩
  obtain ⟨hfault, hout⟩ := @run_reports_iff {} productNodes [] hids
  refine ⟨hids, ?_, _, List.mem_cons_self, hturn⟩
  cases hrun : run {} productNodes [] with
  | error fault => rw [hfault fault hrun]
  | ok out =>
    exact absurd hturn (hout.1 ⟨out, hrun,
      fun node hnode hrole => exists_report hids hrun hnode hrole,
      fun node hnode cause hrefused => report_of_refused hids hrun hnode hrefused⟩
      _ List.mem_cons_self)

end Worksheet.Calculation
