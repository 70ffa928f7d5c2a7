import Worksheet.Formula.Eval
import Worksheet.Proofs.Outcome

/-!
# Names without a value

An expression reads a name when its evaluation comes to it, unless it fails before: an operator and
a call come to all of their operands, a conditional to its condition and the branch that this
chooses.  An expression that reads a name without a value has no value; one that does not read a
name has the same outcome whatever the name stands for.
-/

namespace Worksheet.Formula

section Reads

variable (scope : Scope) (name : String)

mutual

/-- The evaluation of the expression in the scope comes to the name. -/
def Expr.Reads : Expr → Prop
  | .literal _ => False
  | .symbol other => other = name
  | .call _ arguments => ReadsAny arguments
  | .binary _ left right => left.Reads ∨ right.Reads
  | .unary _ operand => operand.Reads
  | .conditional condition ifTrue ifFalse =>
    condition.Reads ∨ ∃ v, condition.eval scope = .ok v ∧
      if v.isTrue then ifTrue.Reads else ifFalse.Reads

/-- The evaluation of one of the expressions comes to the name. -/
def ReadsAny : List Expr → Prop
  | [] => False
  | e :: es => e.Reads ∨ ReadsAny es

end

end Reads

variable {scope : Scope} {name : String}

mutual

/-- What reads a name without a value has no value. -/
lemma Expr.fails_of_reads (hscope : scope name = none) (hconstant : constants.lookup name = none) :
    ∀ {e : Expr}, e.Reads scope name → Fails (e.eval scope)
  | .symbol other, h => by
    rw [Expr.Reads] at h
    subst h
    rw [Expr.eval, resolve, hscope, hconstant]
    exact fails_error _
  | .call f arguments, h => by
    rw [Expr.eval]
    cases function? f with
    | none => exact fails_error _
    | some f => exact fails_bind.2 (Or.inl (fails_evalAll_of_readsAny hscope hconstant h))
  | .binary op left right, h => by
    rw [Expr.eval]
    rcases h with h | h
    · exact fails_bind.2 (Or.inl (Expr.fails_of_reads hscope hconstant h))
    · exact fails_bind_of_fails fun a =>
        fails_bind.2 (Or.inl (Expr.fails_of_reads hscope hconstant h))
  | .unary op operand, h => by
    rw [Expr.eval]
    exact fails_bind.2 (Or.inl (Expr.fails_of_reads hscope hconstant h))
  | .conditional condition ifTrue ifFalse, h => by
    rw [Expr.eval, fails_bind]
    rcases h with h | ⟨v, hv, h⟩
    · exact Or.inl (Expr.fails_of_reads hscope hconstant h)
    · refine Or.inr ⟨v, hv, ?_⟩
      split at h
      · rw [if_pos ‹_›]
        exact Expr.fails_of_reads hscope hconstant h
      · rw [if_neg ‹_›]
        exact Expr.fails_of_reads hscope hconstant h

lemma fails_evalAll_of_readsAny (hscope : scope name = none)
    (hconstant : constants.lookup name = none) :
    ∀ {es : List Expr}, ReadsAny scope name es → Fails (evalAll scope es)
  | e :: es, h => by
    rw [evalAll]
    rcases h with h | h
    · exact fails_bind.2 (Or.inl (Expr.fails_of_reads hscope hconstant h))
    · exact fails_bind_of_fails fun v =>
        fails_bind.2 (Or.inl (fails_evalAll_of_readsAny hscope hconstant h))

end

mutual

/-- What does not read a name does not depend on it. -/
lemma Expr.eval_congr_of_not_reads {scope' : Scope}
    (hscope : ∀ other, other ≠ name → scope other = scope' other) :
    ∀ {e : Expr}, ¬e.Reads scope name → e.eval scope = e.eval scope'
  | .literal value, _ => rfl
  | .symbol other, h => by
    rw [Expr.Reads] at h
    rw [Expr.eval, Expr.eval, resolve, resolve, hscope other h]
  | .call f arguments, h => by
    rw [Expr.Reads] at h
    rw [Expr.eval, Expr.eval, evalAll_congr_of_not_readsAny hscope h]
  | .binary op left right, h => by
    rw [Expr.Reads, not_or] at h
    rw [Expr.eval, Expr.eval, Expr.eval_congr_of_not_reads hscope h.1,
      Expr.eval_congr_of_not_reads hscope h.2]
  | .unary op operand, h => by
    rw [Expr.Reads] at h
    rw [Expr.eval, Expr.eval, Expr.eval_congr_of_not_reads hscope h]
  | .conditional condition ifTrue ifFalse, h => by
    rw [Expr.Reads, not_or] at h
    obtain ⟨hcondition, hbranch⟩ := h
    rw [Expr.eval, Expr.eval, ← Expr.eval_congr_of_not_reads hscope hcondition]
    cases hv : condition.eval scope with
    | error fault => rfl
    | ok v =>
      -- only the branch that the condition chooses is known not to read the name
      have hchosen : ¬if v.isTrue then ifTrue.Reads scope name else ifFalse.Reads scope name :=
        fun h => hbranch ⟨v, hv, h⟩
      show (if v.isTrue then ifTrue.eval scope else ifFalse.eval scope) =
        if v.isTrue then ifTrue.eval scope' else ifFalse.eval scope'
      split at hchosen
      · rw [if_pos ‹_›, if_pos ‹_›, Expr.eval_congr_of_not_reads hscope hchosen]
      · rw [if_neg ‹_›, if_neg ‹_›, Expr.eval_congr_of_not_reads hscope hchosen]

lemma evalAll_congr_of_not_readsAny {scope' : Scope}
    (hscope : ∀ other, other ≠ name → scope other = scope' other) :
    ∀ {es : List Expr}, ¬ReadsAny scope name es → evalAll scope es = evalAll scope' es
  | [], _ => rfl
  | e :: es, h => by
    rw [ReadsAny, not_or] at h
    rw [evalAll, evalAll, Expr.eval_congr_of_not_reads hscope h.1,
      evalAll_congr_of_not_readsAny hscope h.2]

end

/-! ### Formulas -/

lemma fails_evaluate_of_reads {formula : String} (hscope : scope name = none)
    (hconstant : constants.lookup name = none)
    (h : ∀ e, parse formula = .ok e → e.Reads scope name) : Fails (evaluate formula scope) := by
  rw [evaluate, fails_bind]
  cases hparse : parse formula with
  | error fault => exact Or.inl (fails_error _)
  | ok e =>
    exact Or.inr ⟨e, rfl, fails_mapError.2 (Expr.fails_of_reads hscope hconstant (h e hparse))⟩

lemma evaluate_congr_of_not_reads {formula : String} {scope' : Scope}
    (hscope : ∀ other, other ≠ name → scope other = scope' other)
    (h : ∀ e, parse formula = .ok e → ¬e.Reads scope name) :
    evaluate formula scope = evaluate formula scope' := by
  rw [evaluate, evaluate]
  cases hparse : parse formula with
  | error fault => rfl
  | ok e =>
    have heval : e.eval scope = e.eval scope' := Expr.eval_congr_of_not_reads hscope (h e hparse)
    show (e.eval scope).mapError Refusal.evaluation = (e.eval scope').mapError Refusal.evaluation
    rw [heval]

end Worksheet.Formula
