import Mathlib.Data.List.Induction
import Worksheet.Proofs.Outcome
import Worksheet.Proofs.Table.RowIndex
import Worksheet.Table.Filter
import Worksheet.Table.FormulaColumn
import Worksheet.Table.Transform

/-!
# Sessions of table operations

A session makes datasets one after the other, each from datasets that it started with or has made
before.  What all operations preserve holds of every dataset of a session; where some transforms
fail to preserve it, it holds exactly as long as the session meets none of these.
-/

namespace Worksheet.Table

/-- An operation with the datasets that it is applied to. -/
inductive Step where
  | column (d : Dataset) (request : ColumnRequest)
  | filter (d : Dataset) (criteria : Criteria)
  | join (main lookup : Dataset) (keys : JoinKeys)
  | transform (d : Dataset) (operations : List Operation) (sources : Option (List Dataset))

namespace Step

/-- The datasets that a step is applied to. -/
def inputs : Step → List Dataset
  | column d _ => [d]
  | filter d _ => [d]
  | join main lookup _ => [main, lookup]
  | transform d _ sources => d :: sources.getD []

/-- The step succeeds with this dataset; a list of transforms does so with each transform. -/
def Makes : Step → Dataset → Prop
  | column d request, made =>
    ∃ success, addColumn d request = .ok (.ok success) ∧ success.dataset = made
  | filter d criteria, made => Table.filter d criteria = .ok (changed made)
  | join main lookup keys, made => Table.join main lookup keys = changed made
  | transform d operations sources, made =>
    ∃ done, done <+: operations ∧ Table.transform d done sources = changed made

/-- A transform of the step succeeds on a dataset to which it is applied as `bad` says, given the
sources, that dataset and the transform. -/
def Meets (bad : List Dataset → Dataset → Operation → Prop) : Step → Prop
  | transform d operations sources => ∃ done op rest now made,
    operations = done ++ op :: rest ∧ Table.transform d done sources = changed now ∧
      op.apply sources now = .ok made ∧ bad (sources.getD [now]) now op
  | _ => False

end Step

/-- Each step of a session is applied to datasets that are known from the start or made before. -/
def Session (known : Dataset → Prop) : List Step → Prop
  | [] => True
  | step :: steps =>
    (∀ d ∈ step.inputs, known d) ∧ Session (fun d => known d ∨ step.Makes d) steps

/-- Every operation preserves a property of datasets, but for the transforms that `bad` names, which
break it. -/
structure Preserved (P : Dataset → Prop) (bad : List Dataset → Dataset → Operation → Prop) :
    Prop where
  column : ∀ {d request success}, P d → addColumn d request = .ok (.ok success) → P success.dataset
  filter : ∀ {d criteria made}, P d → Table.filter d criteria = .ok (changed made) → P made
  join : ∀ {main lookup keys made}, P main → P lookup →
    Table.join main lookup keys = changed made → P made
  operation : ∀ {sources d op made}, P d → (∀ source ∈ sources.getD [d], P source) →
    Operation.apply sources d op = .ok made → (P made ↔ ¬bad (sources.getD [d]) d op)

/-! ### Transforms one by one -/

section Transform

variable {d now made : Dataset} {operations : List Operation} {op : Operation}
  {sources : Option (List Dataset)} {bad : List Dataset → Dataset → Operation → Prop}

lemma changed_inj {d d' : Dataset} (h : changed d = changed d') : d = d' := by
  have hsuccess := Except.ok.inj h
  rw [Success.mk.injEq] at hsuccess
  exact hsuccess.1

lemma transform_eq_changed_iff :
    transform d operations sources = changed made ↔
      operations.foldlM (Operation.apply sources) d = .ok made := by
  constructor
  · intro h
    obtain ⟨last, hlast, hmade⟩ := exists_of_bind_eq_ok h
    rwa [← changed_inj hmade]
  · intro h
    rw [transform, h]
    rfl

lemma transform_concat_iff :
    transform d (operations ++ [op]) sources = changed made ↔
      ∃ now, transform d operations sources = changed now ∧ op.apply sources now = .ok made := by
  simp only [transform_eq_changed_iff, List.foldlM_append, List.foldlM_cons, List.foldlM_nil]
  constructor
  · intro h
    obtain ⟨now, hnow, h⟩ := exists_of_bind_eq_ok h
    obtain ⟨made', hmade, h⟩ := exists_of_bind_eq_ok h
    obtain rfl := Except.ok.inj h
    exact ⟨now, hnow, hmade⟩
  · rintro ⟨now, hnow, hmade⟩
    rw [hnow]
    show op.apply sources now >>= pure = _
    rw [hmade]
    rfl

lemma transform_cons (hnow : op.apply sources d = .ok now) :
    transform d (op :: operations) sources = transform now operations sources := by
  rw [transform, List.foldlM_cons, hnow]
  rfl

lemma not_meets_nil : ¬(Step.transform d [] sources).Meets bad := by
  rintro ⟨done, op, rest, now, made, heq, -⟩
  exact absurd heq (by simp)

lemma meets_cons_iff (hnow : op.apply sources d = .ok now) :
    (Step.transform d (op :: operations) sources).Meets bad ↔
      bad (sources.getD [d]) d op ∨ (Step.transform now operations sources).Meets bad := by
  constructor
  · rintro ⟨done, op', rest, between, made, heq, hbetween, hmade, hbad⟩
    cases done with
    | nil =>
      obtain ⟨rfl, rfl⟩ := List.cons.inj heq
      rw [changed_inj hbetween]
      exact Or.inl hbad
    | cons first done =>
      obtain ⟨rfl, rfl⟩ := List.cons.inj heq
      rw [transform_cons hnow] at hbetween
      exact Or.inr ⟨done, op', rest, between, made, rfl, hbetween, hmade, hbad⟩
  · rintro (hbad | ⟨done, op', rest, between, made, rfl, hbetween, hmade, hbad⟩)
    · exact ⟨[], op, operations, d, now, rfl, rfl, hnow, hbad⟩
    · rw [← transform_cons hnow] at hbetween
      exact ⟨op :: done, op', rest, between, made, rfl, hbetween, hmade, hbad⟩

end Transform

/-! ### What a session preserves -/

namespace Preserved

variable {P : Dataset → Prop} {bad : List Dataset → Dataset → Operation → Prop}

/-- The sources of a transform are among its inputs, or are the dataset that it has come to. -/
lemma sources_of_inputs {d now : Dataset} {sources : Option (List Dataset)}
    (hinputs : ∀ input ∈ d :: sources.getD [], P input) (hnow : P now) :
    ∀ source ∈ sources.getD [now], P source := by
  intro source hsource
  cases sources with
  | none => rwa [List.mem_singleton.1 hsource]
  | some sources => exact hinputs source (List.mem_cons_of_mem _ hsource)

lemma transform_iff (h : Preserved P bad) {d : Dataset} {operations : List Operation}
    {sources : Option (List Dataset)} (hinputs : ∀ input ∈ d :: sources.getD [], P input) :
    (∀ made, (Step.transform d operations sources).Makes made → P made) ↔
      ¬(Step.transform d operations sources).Meets bad := by
  constructor
  · rintro hmakes ⟨done, op, rest, now, made, rfl, hnow, hmade, hbad⟩
    have hprefix : done ++ [op] <+: done ++ op :: rest := ⟨rest, by simp⟩
    have hP : P now := hmakes now ⟨done, List.prefix_append _ _, hnow⟩
    have hP' : P made := hmakes made ⟨_, hprefix, transform_concat_iff.2 ⟨now, hnow, hmade⟩⟩
    exact (h.operation hP (sources_of_inputs hinputs hP) hmade).1 hP' hbad
  · rintro hgood made ⟨done, hprefix, hmade⟩
    induction done using List.reverseRecOn generalizing made with
    | nil =>
      obtain rfl := changed_inj hmade
      exact hinputs d List.mem_cons_self
    | append_singleton done op ih =>
      obtain ⟨now, hnow, hmade⟩ := transform_concat_iff.1 hmade
      have hP := ih now ((List.prefix_append _ _).trans hprefix) hnow
      obtain ⟨rest, rfl⟩ := hprefix
      rw [h.operation hP (sources_of_inputs hinputs hP) hmade]
      exact fun hbad => hgood ⟨done, op, rest, now, made, by simp, hnow, hmade, hbad⟩

lemma step_iff (h : Preserved P bad) {step : Step} (hinputs : ∀ d ∈ step.inputs, P d) :
    (∀ made, step.Makes made → P made) ↔ ¬step.Meets bad := by
  cases step with
  | column d request =>
    refine iff_of_true ?_ not_false
    rintro _ ⟨success, hsuccess, rfl⟩
    exact h.column (hinputs d List.mem_cons_self) hsuccess
  | filter d criteria =>
    refine iff_of_true (fun made hmade => ?_) not_false
    exact h.filter (hinputs d List.mem_cons_self) hmade
  | join main lookup keys =>
    refine iff_of_true (fun made hmade => ?_) not_false
    exact h.join (hinputs main (by simp [Step.inputs])) (hinputs lookup (by simp [Step.inputs]))
      hmade
  | transform d operations sources => exact h.transform_iff hinputs

/-- If the datasets at the start have a property, those that a session makes have it exactly if no
step meets a transform that breaks it. -/
lemma session_iff (h : Preserved P bad) {known : Dataset → Prop} {steps : List Step}
    (hsession : Session known steps) (hknown : ∀ d, known d → P d) :
    (∀ step ∈ steps, ∀ made, step.Makes made → P made) ↔ ∀ step ∈ steps, ¬step.Meets bad := by
  induction steps generalizing known with
  | nil => simp
  | cons step steps ih =>
    obtain ⟨hinputs, hrest⟩ := hsession
    have hstep := h.step_iff fun d hd => hknown d (hinputs d hd)
    rw [List.forall_mem_cons, List.forall_mem_cons, ← hstep]
    refine and_congr_right fun hmakes => ih hrest ?_
    rintro d (hd | hd)
    · exact hknown d hd
    · exact hmakes d hd

end Preserved

/-! ### What the operations make -/

lemma dataset_of_addColumn {d : Dataset} {request : ColumnRequest} {success : Success}
    (h : addColumn d request = .ok (.ok success)) :
    ∃ column cells, column.id = request.name ∧ success.dataset = withColumn d column cells := by
  rw [addColumn] at h
  split at h
  · exact absurd (Except.ok.inj h) (by simp)
  · obtain ⟨compiled, -, h⟩ := exists_of_bind_eq_ok h
    cases compiled with
    | ok compiled =>
      have hmap := Except.ok.inj h
      cases hrows : compiled.evalRows 1 d.rows with
      | error fault =>
        rw [hrows] at hmap
        exact absurd hmap (by simp [Except.map])
      | ok cells =>
        rw [hrows] at hmap
        obtain rfl := Except.ok.inj hmap
        exact ⟨_, cells, rfl, rfl⟩
    | error fault =>
      simp only at h
      split at h
      · obtain rfl := Except.ok.inj (Except.ok.inj h)
        exact ⟨_, [], rfl, rfl⟩
      · exact absurd (Except.ok.inj h) (by simp)

lemma sublist_of_filterRows {criteria : Criteria} {rows kept : List Row}
    (h : filterRows criteria rows = .ok kept) : kept.Sublist rows := by
  induction rows generalizing kept with
  | nil =>
    obtain rfl := Except.ok.inj h
    exact List.Sublist.slnil
  | cons row rows ih =>
    obtain ⟨keep, -, h⟩ := exists_of_bind_eq_ok h
    obtain ⟨rest, hrest, h⟩ := exists_of_bind_eq_ok h
    obtain rfl := Except.ok.inj h
    cases keep with
    | true => exact (ih hrest).cons_cons row
    | false => exact (ih hrest).cons row

lemma dataset_of_filter {d made : Dataset} {criteria : Criteria}
    (h : filter d criteria = .ok (changed made)) :
    made.columns = d.columns ∧ made.rows.Sublist d.rows := by
  rw [filter] at h
  split at h
  · exact absurd (Except.ok.inj h) (by simp [changed])
  · obtain ⟨rows, hrows, h⟩ := exists_of_bind_eq_ok h
    obtain rfl := changed_inj (Except.ok.inj h)
    exact ⟨rfl, sublist_of_filterRows hrows⟩

lemma dataset_of_join {main lookup made : Dataset} {keys : JoinKeys}
    (h : join main lookup keys = changed made) :
    made = ⟨main.rows.map fun row =>
        joinRow (targetNames main keys) (partner? keys lookup.rows row) row,
      joinColumns lookup (targetNames main keys) main.columns⟩ := by
  rw [join] at h
  split at h
  · exact absurd h (by simp [changed])
  · simp only [find?_indexRows_eq_partner?] at h
    exact (changed_inj h).symm

end Worksheet.Table
