import Worksheet.Calculation.Run
import Worksheet.Proofs.Dimensional.Mismatch
import Worksheet.Proofs.Text.Split

/-!
# Incompatible sums in processes

The evaluation of a process formula over quantities may come upon a sum or difference of
incompatible units.  If the formula has no sign but plus and minus, the process then always reports
a mismatch.  If it has a `*`, `/` or `^`, the mismatch is taken for a formula that quantities are
not meant for: the formula is evaluated over the bare numbers, and the units are lost.
-/

namespace Worksheet.Calculation

open Dimensional (calculate tokenize evaluate_eq_calculate exists_bound_of_mismatch
  exists_sum_of_mismatch char_mem_of_mem_tokenize)

/-- The evaluation of the formula over quantities comes upon a sum or difference of incompatible
units. -/
def MeetsMismatch (options : Options) (formula : String) (scope : List (String × Quantity)) :
    Prop :=
  ∃ units, calculate options.strict (fun name => scope.lookup name) (tokenize (Text.trim formula)) =
    .error (.fault (.mismatch units))

/-- None of the signs `*`, `/` and `^` is in the formula. -/
def OnlySums (formula : String) : Prop :=
  '*' ∉ formula.toList ∧ '/' ∉ formula.toList ∧ '^' ∉ formula.toList

/-- The outcome of a formula over the bare numbers of its inputs. -/
def withoutUnits (options : Options) (formula : String) (scope : List (String × Quantity)) :
    Except ArithmeticFault Outcome :=
  match Formula.evaluate (Text.trim formula)
      fun name => (scope.lookup name).map (.float ·.number) with
  | .ok v => plainOutcome options v
  | .error cause => .ok (Failure.formula cause).outcome

/-! ### What the text of a formula shows -/

lemma isPlainSum_iff (formula : String) :
    isPlainSum (Text.trim formula).toList = true ↔
      ('+' ∈ formula.toList ∨ '-' ∈ formula.toList) ∧ OnlySums formula := by
  have hmem : ∀ c, Text.isBlank c = false → (c ∈ (Text.trim formula).toList ↔ c ∈ formula.toList) :=
    fun c hc => Text.mem_trim_iff hc formula
  have hsum : (Text.trim formula).toList.any (fun c => c == '+' || c == '-') = true ↔
      '+' ∈ formula.toList ∨ '-' ∈ formula.toList := by
    rw [← hmem '+' rfl, ← hmem '-' rfl]
    simp only [List.any_eq_true, Bool.or_eq_true, beq_iff_eq]
    grind
  have hfactor :
      (Text.trim formula).toList.any (fun c => c == '*' || c == '/' || c == '^') = false ↔
        OnlySums formula := by
    rw [OnlySums, ← hmem '*' rfl, ← hmem '/' rfl, ← hmem '^' rfl]
    simp only [List.any_eq_false, Bool.or_eq_true, beq_iff_eq]
    grind
  rw [isPlainSum, Bool.and_eq_true, Bool.not_eq_true', hsum, hfactor]

section MeetsMismatch

variable {options : Options} {formula : String} {scope : List (String × Quantity)}

/-- A formula that meets a mismatch has a plus or a minus. -/
lemma MeetsMismatch.sum_mem (h : MeetsMismatch options formula scope) :
    '+' ∈ formula.toList ∨ '-' ∈ formula.toList := by
  obtain ⟨units, hunits⟩ := h
  rcases exists_sum_of_mismatch hunits with hplus | hminus
  · exact Or.inl ((Text.mem_trim_iff rfl formula).1 (char_mem_of_mem_tokenize hplus))
  · exact Or.inr ((Text.mem_trim_iff rfl formula).1 (char_mem_of_mem_tokenize hminus))

lemma MeetsMismatch.isPlainSum_iff (h : MeetsMismatch options formula scope) :
    isPlainSum (Text.trim formula).toList = true ↔ OnlySums formula := by
  rw [Calculation.isPlainSum_iff, and_iff_right h.sum_mem]

lemma MeetsMismatch.isEmpty_formula (h : MeetsMismatch options formula scope) :
    (Text.trim formula).isEmpty = false := by
  have hne : (Text.trim formula).toList ≠ [] := by
    rcases h.sum_mem with hplus | hminus
    · exact List.ne_nil_of_mem ((Text.mem_trim_iff rfl formula).2 hplus)
    · exact List.ne_nil_of_mem ((Text.mem_trim_iff rfl formula).2 hminus)
  rw [Bool.eq_false_iff]
  intro hempty
  exact hne (by simpa using hempty)

/-- Some input of a formula that meets a mismatch is bound. -/
lemma MeetsMismatch.isEmpty_scope (h : MeetsMismatch options formula scope) :
    scope.isEmpty = false := by
  obtain ⟨units, hunits⟩ := h
  obtain ⟨name, q, hbound⟩ := exists_bound_of_mismatch hunits
  cases scope with
  | nil => exact absurd hbound (by simp)
  | cons first rest => rfl

/-! ### What is reported -/

/-- Without a quantity the text decides between a mismatch and the bare numbers. -/
lemma runProcess_of_noQuantity (hempty : (Text.trim formula).isEmpty = false)
    (hquantity : Dimensional.evaluate (Text.trim formula) (fun name => scope.lookup name)
      options.strict = none) :
    runProcess options formula scope =
      if !scope.isEmpty && isPlainSum (Text.trim formula).toList then
        .ok Failure.sumMismatch.outcome
      else withoutUnits options formula scope := by
  simp only [runProcess, hempty, hquantity, Bool.false_eq_true, if_false]
  unfold withoutUnits
  cases Formula.evaluate (Text.trim formula)
      fun name => (scope.lookup name).map (.float ·.number) with
  | ok v => rfl
  | error cause => rfl

/-- A process whose formula meets a mismatch has no quantity, and the text alone decides whether
the mismatch is reported. -/
lemma runProcess_eq_of_mismatch (h : MeetsMismatch options formula scope) :
    runProcess options formula scope =
      if isPlainSum (Text.trim formula).toList then .ok Failure.sumMismatch.outcome
      else withoutUnits options formula scope := by
  have hquantity : Dimensional.evaluate (Text.trim formula) (fun name => scope.lookup name)
      options.strict = none := by
    obtain ⟨units, hunits⟩ := h
    rw [evaluate_eq_calculate, hunits]
    rfl
  rw [runProcess_of_noQuantity h.isEmpty_formula hquantity, h.isEmpty_scope, Bool.not_false,
    Bool.true_and]

/-- **A mismatch is reported unless something multiplies.**  If the evaluation of a process formula
over the quantities of its inputs comes upon a sum or difference of incompatible units, a formula
without `*`, `/` and `^` is reported as a mismatch, with no value and no output; any other formula
is reported with what it gives over the bare numbers. -/
theorem runProcess_of_mismatch (h : MeetsMismatch options formula scope) :
    (OnlySums formula → runProcess options formula scope =
      .ok ⟨{ value := none, error := some "Unit mismatch: Cannot add/subtract different units" },
        none⟩) ∧
    (¬ OnlySums formula →
      runProcess options formula scope = withoutUnits options formula scope) := by
  have hprocess := runProcess_eq_of_mismatch h
  refine ⟨fun hsums => ?_, fun hsums => ?_⟩
  · rw [hprocess, if_pos (h.isPlainSum_iff.2 hsums)]
    rfl
  · rw [hprocess, if_neg fun hplain => hsums (h.isPlainSum_iff.1 hplain)]

end MeetsMismatch

/-- Five kilograms and three litres. -/
def massAndVolume : List (String × Quantity) :=
  [("A", ⟨5.0, { numerator := ["kg"] }⟩), ("B", ⟨3.0, { numerator := ["L"] }⟩)]

/-- A mismatch inside a parenthesis that is never closed is reported as one. -/
theorem runProcess_of_mismatch_unclosed :
    MeetsMismatch {} "1-(A-B" massAndVolume ∧ OnlySums "1-(A-B" ∧
      runProcess {} "1-(A-B" massAndVolume =
        .ok ⟨{ error := some "Unit mismatch: Cannot add/subtract different units" }, none⟩ := by
  have hmismatch : MeetsMismatch {} "1-(A-B" massAndVolume :=
    ⟨⟨{ numerator := ["kg"] }, { numerator := ["L"] }⟩, rfl⟩
  have hsums : OnlySums "1-(A-B" := by unfold OnlySums; decide
  exact ⟨hmismatch, hsums, (runProcess_of_mismatch hmismatch).1 hsums⟩

/-- A factor of one hides the mismatch: kilograms and litres are added to a number without unit. -/
theorem mismatch_not_reported :
    ¬ ∀ (options : Options) (formula : String) (scope : List (String × Quantity)),
      MeetsMismatch options formula scope → ∃ outcome, runProcess options formula scope =
        .ok outcome ∧ outcome.report.value = none ∧ outcome.report.error.isSome = true := by
  intro h
  have hmismatch : MeetsMismatch {} "A+B*1" massAndVolume :=
    ⟨⟨{ numerator := ["kg"] }, { numerator := ["L"] }⟩, rfl⟩
  have hrun : runProcess {} "A+B*1" massAndVolume =
      .ok ⟨{ value := some "8", unit := some "unitless" }, some ⟨8.0, .unitless⟩⟩ := rfl
  obtain ⟨outcome, hreported, hvalue, -⟩ := h {} "A+B*1" massAndVolume hmismatch
  rw [hrun] at hreported
  obtain rfl := Except.ok.inj hreported
  exact absurd hvalue (by simp)

end Worksheet.Calculation
