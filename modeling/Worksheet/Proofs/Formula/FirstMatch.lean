import Worksheet.Formula.Eval
import Worksheet.Proofs.Outcome

/-!
# Choosing the first that fits

A choice over any number of conditions is the conditionals over them, each nested in the one
before; a choice over keys and a lookup in a column give what stands beside the first key that
matches.  What stands alone at the end of the arguments is the default and is never taken for a
condition or a key.  Without conditions and without a default there is nothing to choose from, and
that is a fault of its own.
-/

namespace Worksheet.Formula

/-! ### Argument lists -/

section Arguments

variable {α : Type}

/-- Pairs one after the other, and behind them the default if there is one. -/
def paired (pairs : List (α × α)) (default? : Option α) : List α :=
  pairs.flatMap (fun pair => [pair.1, pair.2]) ++ default?.toList

lemma paired_cons (pair : α × α) (pairs : List (α × α)) (default? : Option α) :
    paired (pair :: pairs) default? = pair.1 :: pair.2 :: paired pairs default? := rfl

/-- Every argument list is made of pairs and perhaps a default. -/
lemma exists_paired : ∀ arguments : List α, ∃ pairs default?, arguments = paired pairs default?
  | [] => ⟨[], none, rfl⟩
  | [last] => ⟨[], some last, rfl⟩
  | first :: second :: arguments => by
    obtain ⟨pairs, default?, rfl⟩ := exists_paired arguments
    exact ⟨(first, second) :: pairs, default?, rfl⟩

/-- The first element that is accepted is `a`, at index `i`. -/
structure FirstAt (accepts : α → Bool) (l : List α) (i : Nat) (a : α) : Prop where
  here : l[i]? = some a
  accepted : accepts a = true
  before : ∀ j < i, ∀ b, l[j]? = some b → accepts b = false

lemma FirstAt.cons_cases {accepts : α → Bool} {first a : α} {l : List α} {i : Nat}
    (h : FirstAt accepts (first :: l) i a) :
    (accepts first = true ∧ i = 0 ∧ first = a) ∨
      (accepts first = false ∧ ∃ j, i = j + 1 ∧ FirstAt accepts l j a) := by
  obtain ⟨here, accepted, before⟩ := h
  cases i with
  | zero =>
    obtain rfl : first = a := by simpa using here
    exact Or.inl ⟨accepted, rfl, rfl⟩
  | succ j =>
    refine Or.inr ⟨before 0 (Nat.succ_pos j) first rfl, j, rfl, ?_, accepted, ?_⟩
    · simpa using here
    · exact fun k hk b hb => before (k + 1) (Nat.succ_lt_succ hk) b (by simpa using hb)

end Arguments

/-! ### Calls -/

variable {scope : Scope}

lemma eval_call {name : String} {f : Function} {arguments : List Expr} {values : List Value}
    (hf : function? name = some f) (h : evalAll scope arguments = .ok values) :
    (Expr.call name arguments).eval scope = f.call name values := by
  rw [Expr.eval, hf]
  show (evalAll scope arguments >>= fun values => f.call name values) = _
  rw [h]
  rfl

lemma evalAll_cons_eq_ok {e : Expr} {es : List Expr} {values : List Value}
    (h : evalAll scope (e :: es) = .ok values) :
    ∃ v vs, values = v :: vs ∧ e.eval scope = .ok v ∧ evalAll scope es = .ok vs := by
  rw [evalAll] at h
  obtain ⟨v, hv, h⟩ := exists_of_bind_eq_ok h
  obtain ⟨vs, hvs, h⟩ := exists_of_bind_eq_ok h
  exact ⟨v, vs, (Except.ok.inj h).symm, hv, hvs⟩

/-! ### Conditions -/

/-- The condition is evaluated, and holds. -/
def Holds (scope : Scope) (condition : Expr) : Prop :=
  ∃ v, condition.eval scope = .ok v ∧ v.isTrue = true

/-- A conditional for each clause, in the place where the one before goes on if its condition does
not hold. -/
def nested (clauses : List (Expr × Expr)) (last : Expr) : Expr :=
  clauses.foldr (fun clause rest => .conditional clause.1 clause.2 rest) last

lemma eval_conditional {condition ifTrue ifFalse : Expr} {v : Value}
    (h : condition.eval scope = .ok v) :
    (Expr.conditional condition ifTrue ifFalse).eval scope =
      if v.isTrue then ifTrue.eval scope else ifFalse.eval scope := by
  rw [Expr.eval, h]
  rfl

lemma not_holds_iff {condition : Expr} {v : Value} (h : condition.eval scope = .ok v) :
    ¬Holds scope condition ↔ v.isTrue = false := by
  simp [Holds, h]

section Clauses

variable {clauses : List (Expr × Expr)} {default? : Option Expr} {values : List Value}

/-- The choice gives what the nested conditionals give, if it comes to a value at all. -/
lemma firstHolding_eq_nested (h : evalAll scope (paired clauses default?) = .ok values)
    {last : Expr} (hlast : default? = some last ∨ ∃ clause ∈ clauses, Holds scope clause.1) :
    ∃ v, firstHolding values = .ok v ∧ (nested clauses last).eval scope = .ok v := by
  induction clauses generalizing values with
  | nil =>
    obtain rfl : default? = some last := by simpa using hlast
    obtain ⟨v, vs, rfl, hv, hvs⟩ := evalAll_cons_eq_ok h
    obtain rfl := Except.ok.inj hvs
    exact ⟨v, rfl, hv⟩
  | cons clause clauses ih =>
    rw [paired_cons] at h
    obtain ⟨c, vs, rfl, hc, h⟩ := evalAll_cons_eq_ok h
    obtain ⟨v, vs, rfl, hv, h⟩ := evalAll_cons_eq_ok h
    have hstep : (nested (clause :: clauses) last).eval scope =
        if c.isTrue then clause.2.eval scope else (nested clauses last).eval scope :=
      eval_conditional hc
    rw [hstep, firstHolding]
    cases htrue : c.isTrue with
    | true => exact ⟨v, rfl, hv⟩
    | false =>
      refine ih h (hlast.imp_right fun ⟨other, hmem, hholds⟩ => ?_)
      rcases List.mem_cons.1 hmem with rfl | hmem
      · exact absurd hholds ((not_holds_iff hc).2 htrue)
      · exact ⟨other, hmem, hholds⟩

/-- Without a default and a condition that holds, the choice comes to nothing. -/
lemma firstHolding_eq_error (h : evalAll scope (paired clauses none) = .ok values)
    (hnone : ∀ clause ∈ clauses, ¬Holds scope clause.1) :
    firstHolding values = .error (.formula .noConditionHolds) := by
  induction clauses generalizing values with
  | nil =>
    obtain rfl := Except.ok.inj h
    rfl
  | cons clause clauses ih =>
    obtain ⟨hclause, hclauses⟩ := List.forall_mem_cons.1 hnone
    rw [paired_cons] at h
    obtain ⟨c, vs, rfl, hc, h⟩ := evalAll_cons_eq_ok h
    obtain ⟨v, vs, rfl, hv, h⟩ := evalAll_cons_eq_ok h
    rw [firstHolding, (not_holds_iff hc).1 hclause, if_neg Bool.false_ne_true]
    exact ih h hclauses

lemma firstHolding_eq_error_iff (h : evalAll scope (paired clauses default?) = .ok values) :
    firstHolding values = .error (.formula .noConditionHolds) ↔
      default? = none ∧ ∀ clause ∈ clauses, ¬Holds scope clause.1 := by
  constructor
  · intro herror
    have hno (last : Expr)
        (hlast : default? = some last ∨ ∃ clause ∈ clauses, Holds scope clause.1) : False := by
      obtain ⟨v, hv, -⟩ := firstHolding_eq_nested h hlast
      exact absurd (hv.symm.trans herror) (by simp)
    refine ⟨?_, fun clause hmem hholds => hno clause.1 (Or.inr ⟨clause, hmem, hholds⟩)⟩
    cases default? with
    | none => rfl
    | some last => exact (hno last (Or.inl rfl)).elim
  · rintro ⟨rfl, hnone⟩
    exact firstHolding_eq_error h hnone

/-- With at least one argument, the choice is over its conditions. -/
lemma eval_ifs (h : evalAll scope (paired clauses default?) = .ok values)
    (hne : paired clauses default? ≠ []) :
    (Expr.call "IFS" (paired clauses default?)).eval scope = firstHolding values := by
  rw [eval_call rfl h]
  obtain ⟨e, es, hes⟩ := List.exists_cons_of_ne_nil hne
  obtain ⟨v, vs, rfl, -, -⟩ := evalAll_cons_eq_ok (hes ▸ h)
  rfl

end Clauses

/-! ### Keys -/

lemma firstMatching_of_firstAt {subject : Value} {cases : List (Value × Value)}
    {default? : Option Value} {i : Nat} {case : Value × Value}
    (h : FirstAt (fun case => subject.matches? case.1) cases i case) :
    firstMatching subject (paired cases default?) = case.2 := by
  induction cases generalizing i with
  | nil => exact absurd h.here (by simp)
  | cons first cases ih =>
    rw [paired_cons, firstMatching]
    rcases h.cons_cases with ⟨hfirst, -, rfl⟩ | ⟨hfirst, j, -, hrest⟩
    · rw [if_pos hfirst]
    · rw [hfirst, if_neg Bool.false_ne_true, ih hrest]

lemma firstMatching_of_forall {subject : Value} {cases : List (Value × Value)}
    {default? : Option Value} (h : ∀ case ∈ cases, subject.matches? case.1 = false) :
    firstMatching subject (paired cases default?) = default?.getD .null := by
  induction cases with
  | nil => cases default? <;> rfl
  | cons first cases ih =>
    obtain ⟨hfirst, hcases⟩ := List.forall_mem_cons.1 h
    rw [paired_cons, firstMatching, hfirst, if_neg Bool.false_ne_true, ih hcases]

lemma lookupIn_of_firstAt {subject key : Value} {keys results : List Value} {i : Nat}
    (h : FirstAt (fun key => key.matches? subject) keys i key) :
    lookupIn subject keys results = some (results[i]?.getD .null) := by
  induction keys generalizing i results with
  | nil => exact absurd h.here (by simp)
  | cons first keys ih =>
    rw [lookupIn]
    rcases h.cons_cases with ⟨hfirst, rfl, -⟩ | ⟨hfirst, j, rfl, hrest⟩
    · rw [if_pos hfirst, List.head?_eq_getElem?]
    · rw [hfirst, if_neg Bool.false_ne_true, ih hrest, List.getElem?_tail]

lemma lookupIn_of_forall {subject : Value} {keys : List Value} (results : List Value)
    (h : ∀ key ∈ keys, key.matches? subject = false) : lookupIn subject keys results = none := by
  induction keys generalizing results with
  | nil => rfl
  | cons first keys ih =>
    obtain ⟨hfirst, hkeys⟩ := List.forall_mem_cons.1 h
    rw [lookupIn, hfirst, if_neg Bool.false_ne_true, ih results.tail hkeys]

lemma eval_switch {arguments : List Expr} {subject : Value} {cases : List (Value × Value)}
    {default? : Option Value}
    (h : evalAll scope arguments = .ok (subject :: paired cases default?)) (hne : cases ≠ []) :
    (Expr.call "SWITCH" arguments).eval scope =
      .ok (firstMatching subject (paired cases default?)) := by
  rw [eval_call rfl h]
  obtain ⟨first, rest, rfl⟩ := List.exists_cons_of_ne_nil hne
  rfl

lemma eval_xlookup {arguments : List Expr} {subject : Value} {keys results : List Value}
    {default? : Option Value}
    (h : evalAll scope arguments =
      .ok (subject :: .list keys :: .list results :: default?.toList)) :
    (Expr.call "XLOOKUP" arguments).eval scope =
      .ok ((lookupIn subject keys results).getD (default?.getD .null)) := by
  rw [eval_call rfl h]
  cases default? <;> rfl

/-- **Choices take the first that fits.**  Every argument list is made of pairs and perhaps a
default.  Let all arguments have values.  A choice by conditions over at least one argument comes to
the value of the nested conditionals, whatever stands in the place of a default that is not needed;
it is refused, in the words that no condition matched, exactly if no condition holds and there is no
default.  Without any argument it is refused in other words.  A choice by keys over at least one
case gives the result of the first case whose key matches, or else the default, or else nothing; a
lookup gives the result beside the first key that matches, which is nothing if the results are too
few, or else the default, or else nothing. -/
theorem calls_pick_first (scope : Scope) :
    (∀ arguments : List Expr, ∃ clauses default?, arguments = paired clauses default?) ∧
    (∀ clauses default? values, evalAll scope (paired clauses default?) = .ok values →
      paired clauses default? ≠ [] →
      (∀ last, (default? = some last ∨ ∃ clause ∈ clauses, Holds scope clause.1) →
        ∃ v, (Expr.call "IFS" (paired clauses default?)).eval scope = .ok v ∧
          (nested clauses last).eval scope = .ok v) ∧
      ((Expr.call "IFS" (paired clauses default?)).eval scope =
          .error (.formula .noConditionHolds) ↔
        default? = none ∧ ∀ clause ∈ clauses, ¬Holds scope clause.1)) ∧
    FormulaFault.noConditionHolds.message = "IFS: No condition matched" ∧
    (Expr.call "IFS" []).eval scope = .error (.formula .noConditions) ∧
    FormulaFault.noConditions.message = "IFS requires pairs of (condition, value)" ∧
    (∀ arguments subject cases default?,
      evalAll scope arguments = .ok (subject :: paired cases default?) → cases ≠ [] →
      (∀ i case, FirstAt (fun case => subject.matches? case.1) cases i case →
        (Expr.call "SWITCH" arguments).eval scope = .ok case.2) ∧
      ((∀ case ∈ cases, subject.matches? case.1 = false) →
        (Expr.call "SWITCH" arguments).eval scope = .ok (default?.getD .null))) ∧
    ∀ arguments subject keys results default?,
      evalAll scope arguments =
        .ok (subject :: .list keys :: .list results :: Option.toList default?) →
      (∀ i key, FirstAt (fun key => key.matches? subject) keys i key →
        (Expr.call "XLOOKUP" arguments).eval scope = .ok (results[i]?.getD .null)) ∧
      ((∀ key ∈ keys, key.matches? subject = false) →
        (Expr.call "XLOOKUP" arguments).eval scope = .ok (default?.getD .null)) := by
  refine ⟨exists_paired, fun clauses default? values h hne => ?_, rfl, rfl, rfl,
    fun arguments subject cases default? h hne => ?_,
    fun arguments subject keys results default? h => ?_⟩
  · rw [eval_ifs h hne]
    exact ⟨fun last hlast => firstHolding_eq_nested h hlast, firstHolding_eq_error_iff h⟩
  · rw [eval_switch h hne]
    exact ⟨fun i case hfirst => congrArg _ (firstMatching_of_firstAt hfirst),
      fun hnone => congrArg _ (firstMatching_of_forall hnone)⟩
  · rw [eval_xlookup h]
    constructor
    · intro i key hfirst
      rw [lookupIn_of_firstAt hfirst]
      rfl
    · intro hnone
      rw [lookupIn_of_forall results hnone]
      rfl

/-- A column of keys, and a column of results that is shorter. -/
def gradeScope : Scope
  | "keys" => some (.list [.text "C", .text "B", .text "B"])
  | "results" => some (.list [.int 3])
  | _ => none

/-- Two clauses that do not hold. -/
def gradeClauses : List (Expr × Expr) :=
  [(.literal (.int 0), .literal (.text "A")), (.literal .null, .literal (.text "B"))]

/-- The default is chosen behind two conditions that do not hold, the second case is the first that
matches, and the first match of the lookup stands beyond the end of the results. -/
theorem calls_pick_first_grades :
    (∃ v, (Expr.call "IFS" (paired gradeClauses (some (.literal (.text "F"))))).eval gradeScope =
        .ok v ∧ (nested gradeClauses (.literal (.text "F"))).eval gradeScope = .ok v) ∧
    (Expr.call "IFS" (paired gradeClauses none)).eval gradeScope =
      .error (.formula .noConditionHolds) ∧
    (Expr.call "SWITCH" ([Value.int 2, .int 1, .text "A", .text "2", .text "B", .text "F"].map
      .literal)).eval gradeScope = .ok (.text "B") ∧
    (Expr.call "XLOOKUP" [.literal (.text "B"), .symbol "keys", .symbol "results"]).eval
      gradeScope = .ok .null := by
  obtain ⟨-, hifs, -, -, -, hswitch, hlookup⟩ := calls_pick_first gradeScope
  have hfails : ∀ clause ∈ gradeClauses, ¬Holds gradeScope clause.1 := by
    simp only [gradeClauses, List.forall_mem_cons]
    exact ⟨(not_holds_iff rfl).2 rfl, (not_holds_iff rfl).2 rfl,
      fun _ h => absurd h List.not_mem_nil⟩
  refine ⟨?_, ?_, ?_, ?_⟩
  · exact (hifs gradeClauses (some (.literal (.text "F"))) _ rfl (by simp [paired])).1 _
      (Or.inl rfl)
  · exact (hifs gradeClauses none _ rfl (by simp [paired, gradeClauses])).2.2 ⟨rfl, hfails⟩
  · refine (hswitch _ (.int 2) [(.int 1, .text "A"), (.text "2", .text "B")] (some (.text "F")) rfl
      (by simp)).1 1 (.text "2", .text "B") ⟨rfl, by decide, fun j hj case hcase => ?_⟩
    obtain rfl : j = 0 := by omega
    obtain rfl := Option.some.inj hcase
    decide
  · refine (hlookup _ (.text "B") [.text "C", .text "B", .text "B"] [.int 3] none rfl).1 1
      (.text "B") ⟨rfl, by decide, fun j hj key hkey => ?_⟩
    obtain rfl : j = 0 := by omega
    obtain rfl := Option.some.inj hkey
    decide

/-- Without arguments there is no condition that holds and no default either, but the refusal is
another one. -/
theorem ifs_without_arguments :
    evaluate "IFS()" (fun _ => none) = .error (.evaluation (.formula .noConditions)) ∧
    ¬∀ (scope : Scope) (clauses : List (Expr × Expr)) (default? : Option Expr)
      (values : List Value), evalAll scope (paired clauses default?) = .ok values →
      ((Expr.call "IFS" (paired clauses default?)).eval scope =
          .error (.formula .noConditionHolds) ↔
        default? = none ∧ ∀ clause ∈ clauses, ¬Holds scope clause.1) := by
  refine ⟨rfl, fun h => ?_⟩
  have hfault := (h (fun _ => none) [] none [] rfl).2
    ⟨rfl, fun _ hmem => absurd hmem List.not_mem_nil⟩
  have hother : (Expr.call "IFS" []).eval (fun _ => none) = .error (.formula .noConditions) := rfl
  exact absurd (hother.symm.trans hfault) (by simp)

end Worksheet.Formula
