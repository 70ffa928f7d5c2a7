import Worksheet.Proofs.Calculation.Mismatch
import Worksheet.Proofs.Outcome

/-!
# How a process comes to its outcome

A process formula is evaluated over quantities first.  Without a quantity the formula is reported as
a mismatch or evaluated over bare numbers, which sees of each input only the number.
-/

namespace Worksheet.Calculation

/-- What a formula over bare numbers sees of the quantities of its inputs. -/
def bareNumbers (scope : List (String × Quantity)) : Scope :=
  fun name => (scope.lookup name).map (.float ·.number)

/-- A formula with these inputs is left to the evaluation over bare numbers: it has no quantity and
is not reported as a mismatch. -/
structure FallsBack (options : Options) (formula : String) (scope : List (String × Quantity)) :
    Prop where
  noQuantity : Dimensional.evaluate (Text.trim formula) (fun name => scope.lookup name)
    options.strict = none
  noMismatch : scope.isEmpty = false → isPlainSum (Text.trim formula).toList = false

variable {options : Options} {formula : String} {scope : List (String × Quantity)}

lemma withoutUnits_of_ok {v : Value}
    (h : Formula.evaluate (Text.trim formula) (bareNumbers scope) = .ok v) :
    withoutUnits options formula scope = plainOutcome options v := by
  unfold bareNumbers at h
  rw [withoutUnits, h]

lemma withoutUnits_of_error {cause : Formula.Refusal}
    (h : Formula.evaluate (Text.trim formula) (bareNumbers scope) = .error cause) :
    withoutUnits options formula scope = .ok (Failure.formula cause).outcome := by
  unfold bareNumbers at h
  rw [withoutUnits, h]

lemma runProcess_of_fallsBack (h : FallsBack options formula scope)
    (hempty : (Text.trim formula).isEmpty = false) :
    runProcess options formula scope = withoutUnits options formula scope := by
  rw [runProcess_of_noQuantity hempty h.noQuantity]
  cases hscope : scope.isEmpty with
  | true => rfl
  | false => simp [h.noMismatch hscope]

/-- The four ways in which a process comes to its outcome. -/
lemma runProcess_cases (options : Options) (formula : String) (scope : List (String × Quantity)) :
    ((Text.trim formula).isEmpty = true ∧
      runProcess options formula scope = .ok Failure.noFormula.outcome) ∨
    (∃ q, Dimensional.evaluate (Text.trim formula) (fun name => scope.lookup name)
        options.strict = some q ∧ runProcess options formula scope = .ok (success q)) ∨
    (Dimensional.evaluate (Text.trim formula) (fun name => scope.lookup name)
        options.strict = none ∧
      (scope.isEmpty = false ∧ isPlainSum (Text.trim formula).toList = true) ∧
      runProcess options formula scope = .ok Failure.sumMismatch.outcome) ∨
    (FallsBack options formula scope ∧
      runProcess options formula scope = withoutUnits options formula scope) := by
  cases hempty : (Text.trim formula).isEmpty with
  | true => exact Or.inl ⟨rfl, by simp only [runProcess, hempty, if_true]⟩
  | false =>
    right
    cases hq : Dimensional.evaluate (Text.trim formula) (fun name => scope.lookup name)
        options.strict with
    | some q =>
      exact Or.inl ⟨q, rfl, by simp only [runProcess, hempty, hq, Bool.false_eq_true, if_false]⟩
    | none =>
      right
      by_cases hplain : scope.isEmpty = false ∧ isPlainSum (Text.trim formula).toList = true
      · refine Or.inl ⟨rfl, hplain, ?_⟩
        simp [runProcess, hempty, hq, hplain.1, hplain.2]
      · have hback : FallsBack options formula scope :=
          ⟨hq, fun hscope => Bool.eq_false_iff.2 fun hsum => hplain ⟨hscope, hsum⟩⟩
        exact Or.inr ⟨hback, runProcess_of_fallsBack hback hempty⟩

/-- An empty formula has no value over bare numbers. -/
lemma fails_evaluate_of_isEmpty (h : (Text.trim formula).isEmpty = true) (scope : Scope) :
    Fails (Formula.evaluate (Text.trim formula) scope) := by
  rw [String.isEmpty_iff] at h
  rw [h]
  exact ⟨_, rfl⟩

/-- A text without characters has no tokens. -/
lemma isEmpty_of_quantity {strict : Bool} {q : Quantity}
    (h : Dimensional.evaluate (Text.trim formula) (fun name => scope.lookup name) strict = some q) :
    (Text.trim formula).isEmpty = false := by
  rw [Bool.eq_false_iff]
  intro hempty
  have hnone : Dimensional.evaluate "" (fun name => scope.lookup name) strict = none := rfl
  rw [String.isEmpty_iff] at hempty
  rw [hempty, hnone] at h
  exact absurd h (by simp)

/-- A formula that has a quantity is reported with it. -/
lemma runProcess_of_quantity {q : Quantity}
    (h : Dimensional.evaluate (Text.trim formula) (fun name => scope.lookup name) options.strict =
      some q) : runProcess options formula scope = .ok (success q) := by
  simp only [runProcess, isEmpty_of_quantity h, h, Bool.false_eq_true, if_false]

end Worksheet.Calculation
