import Mathlib.Logic.Function.Basic
import Worksheet.Proofs.Dimensional.Stepwise

/-!
# Names without a quantity

In strict reading a formula with a name that has no quantity has none either, wherever the name
stands.  Otherwise the name counts as the unitless zero.  So the two readings differ only in
formulas with such names.
-/

namespace Worksheet.Dimensional

variable {scope : QuantityScope}

/-! ### Strict reading -/

/-- The calculator stops at a name without a quantity, whether or not one may stand there. -/
lemma Calculator.fails_step_of_unbound {name : List Char} (h : scope (String.ofList name) = none)
    (c : Calculator) : Fails (c.step true scope (.name name)) := by
  obtain ⟨complete, waiting⟩ := c
  cases complete with
  | none =>
    have hresolve : resolve true scope (String.ofList name) =
        .error (.unbound (String.ofList name)) := by
      rw [resolve, h]
      rfl
    rw [Calculator.step, startQuantity, hresolve]
    exact fails_error _
  | some q => exact fails_bind_of_fails fun settled => fails_error _

lemma evaluate_strict_of_unbound {formula : String} {name : String}
    (hname : .name name.toList ∈ tokenize formula) (h : scope name = none) :
    evaluate formula scope true = none := by
  have hfails : Fails (calculate true scope (tokenize formula)) := by
    refine fails_bind.2 (Or.inl (fails_foldlM_of_mem hname fun c => ?_))
    exact c.fails_step_of_unbound (by rwa [String.ofList_toList])
  obtain ⟨stop, hstop⟩ := hfails
  rw [evaluate_eq_calculate, hstop]
  rfl

/-! ### Names that all have quantities -/

/-- Where every name has a quantity, a strict reading finds nothing to object to. -/
lemma Term.eval_strict_of_bound {t : Term}
    (h : ∀ name : String, .name name.toList ∈ t.leaves → (scope name).isSome) :
    t.eval true scope = t.eval false scope := by
  induction t with
  | name text =>
    obtain ⟨q, hq⟩ := Option.isSome_iff_exists.1 (h text (List.mem_singleton_self _))
    rw [Term.eval, Term.eval, resolve, resolve, hq]
  | number text => rfl
  | neg a ih => rw [Term.eval, Term.eval, ih h]
  | binary op a b iha ihb =>
    rw [Term.eval, Term.eval, iha fun name hname => h name (List.mem_append_left _ hname),
      ihb fun name hname => h name (List.mem_append_right _ hname)]

lemma evaluate_strict_of_bound {formula : String}
    (h : ∀ name : String, .name name.toList ∈ tokenize formula → (scope name).isSome) :
    evaluate formula scope true = evaluate formula scope false := by
  rw [evaluate, evaluate]
  cases ht : parse? (tokenize formula) with
  | none => rfl
  | some t =>
    rw [Option.bind_some, Option.bind_some,
      Term.eval_strict_of_bound fun name hname => h name (leaves_parse? ht hname)]

/-! ### Zero in the place of a name -/

lemma Term.eval_update_zero {name : String} (h : scope name = none) (t : Term) :
    t.eval false (Function.update scope name (some .zero)) = t.eval false scope := by
  induction t with
  | name text =>
    by_cases htext : text = name
    · rw [Term.eval, Term.eval, resolve, resolve, htext, Function.update_self, h]
      rfl
    · rw [Term.eval, Term.eval, resolve, resolve, Function.update_of_ne htext]
  | number text => rfl
  | neg a ih => rw [Term.eval, Term.eval, ih]
  | binary op a b iha ihb => rw [Term.eval, Term.eval, iha, ihb]

lemma evaluate_update_zero {name : String} (h : scope name = none) (formula : String) :
    evaluate formula (Function.update scope name (some .zero)) false =
      evaluate formula scope false := by
  simp only [evaluate, Term.eval_update_zero h]

end Worksheet.Dimensional
