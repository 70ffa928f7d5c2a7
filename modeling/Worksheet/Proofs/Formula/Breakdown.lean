import Worksheet.Proofs.Formula.CallBreaks

/-!
# Where an evaluation breaks down

Besides a value and the faults of the language, an evaluation may end in a fault of arithmetic.  It
does so exactly where an operator or a function meets numbers that it cannot compute with: an
integer without a double, a quotient of integers out of range, a remainder or a rounding that goes
through an integer which does not exist, or a logarithm with base one; and there only if the
evaluation comes to that place and the operands before it have values.
-/

namespace Worksheet.Formula

variable {fault : ArithmeticFault} {name : String} {a b v : Value}

/-! ### Operators -/

/-- An operator between these operands comes to a fault of arithmetic.  Both operands are read as
numbers before either is turned into a double, and an order looks at the second one only if the
first is a number. -/
inductive BinaryOp.Breaks : BinaryOp → Value → Value → ArithmeticFault → Prop
  | clash {op : BinaryOp} {a b : Value} {m n : Number} (hop : op ∈ [add, sub, mul, div])
      (ha : a.toNumber = .ok m) (hb : b.toNumber = .ok n) (h : m.Clash n) :
      Breaks op a b .integerTooLarge
  | overZero {a b : Value} (ha : a.Oversized) (hb : b.toNumber = .ok (.int 0)) :
      Breaks div a b .integerTooLarge
  | quotient {a b : Value} {m n : Number} (ha : a.toNumber = .ok m) (hb : b.toNumber = .ok n)
      (h : m.Outgrows n) : Breaks div a b .quotientTooLarge
  | remainder {a b : Value} {fault : ArithmeticFault} (h : CallBreaks "mod" [a, b] fault) :
      Breaks mod a b fault
  | power {a b : Value} {fault : ArithmeticFault} (h : CallBreaks "pow" [a, b] fault) :
      Breaks pow a b fault
  | order {op : BinaryOp} {a b : Value} {m n : Number}
      (hop : op ∈ [less, greater, atMost, atLeast]) (ha : a.toNumber = .ok m)
      (hb : b.toNumber = .ok n) (h : m.Oversized ∨ m.isNaN = .ok false ∧ n.Oversized) :
      Breaks op a b .integerTooLarge

/-- What is done with two operands that are read as numbers. -/
lemma bind_numerics_eq_error_iff {α : Type} {g : Number → Number → Outcome α} :
    (do g (← numeric none a) (← numeric none b)) = .error (.arithmetic fault) ↔
      ∃ m n, a.toNumber = .ok m ∧ b.toNumber = .ok n ∧ g m n = .error (.arithmetic fault) := by
  simp only [bind_eq_error_iff, numeric_ne_arithmetic, numeric_eq_ok_iff, false_or,
    exists_and_left]

lemma arithmetic_eq_error_iff {onNumbers : Number → Number → Except ArithmeticFault Number} :
    arithmetic onNumbers a b = .error (.arithmetic fault) ↔
      ∃ m n, a.toNumber = .ok m ∧ b.toNumber = .ok n ∧ onNumbers m n = .error fault := by
  have hlast : ∀ {z : Except ArithmeticFault Number},
      (do return Value.number (← liftArithmetic z)) = .error (.arithmetic fault) ↔
        z = .error fault :=
    bind_pure_eq_error_iff.trans liftArithmetic_eq_error_iff
  simp only [← hlast]
  exact bind_numerics_eq_error_iff

lemma equal_ne_arithmetic : equal a b ≠ .error (.arithmetic fault) := by
  fun_cases equal a b with
  | case3 a b hleft hright =>
    rw [Ne, bind_numerics_eq_error_iff]
    rintro ⟨m, n, -, -, h⟩
    simp [pure, Except.pure] at h
  | _ => simp

lemma order_eq_error_iff {m n : Number} {onNumbers : Number → Number → Bool} :
    (do
      if ← liftArithmetic m.isNaN then return false
      if ← liftArithmetic n.isNaN then return false
      return onNumbers m n : Outcome Bool) = .error (.arithmetic fault) ↔
      (m.Oversized ∨ m.isNaN = .ok false ∧ n.Oversized) ∧ fault = .integerTooLarge := by
  have hlast : (do
      if ← liftArithmetic n.isNaN then return false
      return onNumbers m n : Outcome Bool) = .error (.arithmetic fault) ↔
      n.Oversized ∧ fault = .integerTooLarge := by
    rw [bind_eq_error_iff, liftArithmetic_eq_error_iff, Number.isNaN_eq_error_iff]
    refine or_iff_left ?_
    rintro ⟨isNaN, -, h⟩
    cases isNaN <;> simp [pure, Except.pure] at h
  rw [bind_eq_error_iff, liftArithmetic_eq_error_iff, Number.isNaN_eq_error_iff]
  constructor
  · rintro (⟨hm, hfault⟩ | ⟨isNaN, hm, h⟩)
    · exact ⟨Or.inl hm, hfault⟩
    · cases isNaN with
      | true => exact absurd h (by simp [pure, Except.pure])
      | false =>
        obtain ⟨hn, hfault⟩ := hlast.1 h
        exact ⟨Or.inr ⟨mapError_eq_ok_iff.1 hm, hn⟩, hfault⟩
  · rintro ⟨hm | ⟨hm, hn⟩, hfault⟩
    · exact Or.inl ⟨hm, hfault⟩
    · exact Or.inr ⟨false, mapError_eq_ok_iff.2 hm, hlast.2 ⟨hn, hfault⟩⟩

lemma ordered_eq_error_iff {onTexts : String → String → Bool}
    {onNumbers : Number → Number → Bool} :
    ordered onTexts onNumbers a b = .error (.arithmetic fault) ↔
      ∃ m n, a.toNumber = .ok m ∧ b.toNumber = .ok n ∧
        (m.Oversized ∨ m.isNaN = .ok false ∧ n.Oversized) ∧ fault = .integerTooLarge := by
  fun_cases ordered onTexts onNumbers a b with
  | case1 s t =>
    refine iff_of_false (by simp) ?_
    rintro ⟨m, n, hm, hn, h, -⟩
    have hm : ¬m.Oversized := fun hlarge => (Value.oversized_iff.2 ⟨m, hm, hlarge⟩ : False)
    have hn : ¬n.Oversized := fun hlarge => (Value.oversized_iff.2 ⟨n, hn, hlarge⟩ : False)
    simp [hm, hn] at h
  | case2 a b hneither =>
    rw [bind_numerics_eq_error_iff]
    simp only [order_eq_error_iff]

lemma apply_eq_error_of_breaks {op : BinaryOp} (h : op.Breaks a b fault) :
    op.apply a b = .error (.arithmetic fault) := by
  cases h with
  | clash hop ha hb h =>
    have hlift (onInts : Int → Int → Int) (onFloats : Float → Float → Float) :
        arithmetic (Number.lift onInts onFloats) a b = .error (.arithmetic .integerTooLarge) :=
      arithmetic_eq_error_iff.2 ⟨_, _, ha, hb, Number.lift_eq_error_iff.2 ⟨h, rfl⟩⟩
    simp only [List.mem_cons, List.not_mem_nil, or_false] at hop
    rcases hop with rfl | rfl | rfl | rfl
    · exact hlift _ _
    · exact hlift _ _
    · exact hlift _ _
    · exact arithmetic_eq_error_iff.2
        ⟨_, _, ha, hb, Number.divide_eq_error_iff.2 (Or.inl ⟨Or.inl h, rfl⟩)⟩
  | overZero ha hb =>
    obtain ⟨m, ha, hlarge⟩ := Value.oversized_iff.1 ha
    exact arithmetic_eq_error_iff.2
      ⟨m, _, ha, hb, Number.divide_eq_error_iff.2 (Or.inl ⟨Or.inr ⟨hlarge, rfl⟩, rfl⟩)⟩
  | quotient ha hb h =>
    exact arithmetic_eq_error_iff.2
      ⟨_, _, ha, hb, Number.divide_eq_error_iff.2 (Or.inr ⟨h, rfl⟩)⟩
  | remainder h =>
    obtain ⟨f, hf, h⟩ := callBreaks_iff.1 h
    obtain rfl := Option.some.inj hf
    exact h
  | power h =>
    obtain ⟨f, hf, h⟩ := callBreaks_iff.1 h
    obtain rfl := Option.some.inj hf
    exact h
  | order hop ha hb h =>
    simp only [List.mem_cons, List.not_mem_nil, or_false] at hop
    rcases hop with rfl | rfl | rfl | rfl <;>
      exact map_eq_error_iff.2 (ordered_eq_error_iff.2 ⟨_, _, ha, hb, h, rfl⟩)

lemma breaks_of_ordered {op : BinaryOp} {onTexts : String → String → Bool}
    {onNumbers : Number → Number → Bool} (hop : op ∈ [.less, .greater, .atMost, .atLeast])
    (h : Value.bool <$> ordered onTexts onNumbers a b = .error (.arithmetic fault)) :
    op.Breaks a b fault := by
  obtain ⟨m, n, ha, hb, hlarge, rfl⟩ := ordered_eq_error_iff.1 (map_eq_error_iff.1 h)
  exact .order hop ha hb hlarge

lemma breaks_of_lift {op : BinaryOp} {onInts : Int → Int → Int} {onFloats : Float → Float → Float}
    (hop : op ∈ [.add, .sub, .mul, .div])
    (h : arithmetic (Number.lift onInts onFloats) a b = .error (.arithmetic fault)) :
    op.Breaks a b fault := by
  obtain ⟨m, n, ha, hb, h⟩ := arithmetic_eq_error_iff.1 h
  obtain ⟨hclash, rfl⟩ := Number.lift_eq_error_iff.1 h
  exact .clash hop ha hb hclash

/-- **Where an operator has no value.** -/
lemma binaryBreaks_iff {op : BinaryOp} :
    op.Breaks a b fault ↔ op.apply a b = .error (.arithmetic fault) := by
  refine ⟨apply_eq_error_of_breaks, fun h => ?_⟩
  cases op with
  | add => exact breaks_of_lift (by simp) h
  | sub => exact breaks_of_lift (by simp) h
  | mul => exact breaks_of_lift (by simp) h
  | div =>
    obtain ⟨m, n, ha, hb, h⟩ := arithmetic_eq_error_iff.1 h
    rcases Number.divide_eq_error_iff.1 h with ⟨hclash | ⟨hlarge, rfl⟩, rfl⟩ | ⟨hquotient, rfl⟩
    · exact .clash (by simp) ha hb hclash
    · exact .overZero (Value.oversized_iff.2 ⟨m, ha, hlarge⟩) hb
    · exact .quotient ha hb hquotient
  | mod => exact .remainder (callBreaks_iff.2 ⟨_, rfl, h⟩)
  | pow => exact .power (callBreaks_iff.2 ⟨_, rfl, h⟩)
  | equal => exact absurd (map_eq_error_iff.1 h) equal_ne_arithmetic
  | notEqual => exact absurd (map_eq_error_iff.1 h) equal_ne_arithmetic
  | less => exact breaks_of_ordered (by simp) h
  | greater => exact breaks_of_ordered (by simp) h
  | atMost => exact breaks_of_ordered (by simp) h
  | atLeast => exact breaks_of_ordered (by simp) h
  | _ => exact absurd h (by simp [BinaryOp.apply])

lemma unary_ne_arithmetic {op : UnaryOp} : op.apply v ≠ .error (.arithmetic fault) := by
  cases op with
  | neg => exact fun h => numeric_ne_arithmetic (bind_pure_eq_error_iff.1 h)
  | plus => exact fun h => numeric_ne_arithmetic (bind_pure_eq_error_iff.1 h)
  | _ => simp [UnaryOp.apply]

/-! ### Expressions -/

section Expressions

variable (scope : Scope)

/-- The evaluation of the expression comes to a place where an operator or a function has no value,
everything before it having one. -/
inductive Expr.Breaks : Expr → ArithmeticFault → Prop
  | argument {name : String} {before after : List Expr} {e : Expr} {values : List Value}
      {fault : ArithmeticFault} (hname : (function? name).isSome = true)
      (hbefore : evalAll scope before = .ok values) (h : e.Breaks fault) :
      Breaks (.call name (before ++ e :: after)) fault
  | call {name : String} {arguments : List Expr} {values : List Value} {fault : ArithmeticFault}
      (hvalues : evalAll scope arguments = .ok values) (h : CallBreaks name values fault) :
      Breaks (.call name arguments) fault
  | left {op : BinaryOp} {left right : Expr} {fault : ArithmeticFault} (h : left.Breaks fault) :
      Breaks (.binary op left right) fault
  | right {op : BinaryOp} {left right : Expr} {a : Value} {fault : ArithmeticFault}
      (hleft : left.eval scope = .ok a) (h : right.Breaks fault) :
      Breaks (.binary op left right) fault
  | operator {op : BinaryOp} {left right : Expr} {a b : Value} {fault : ArithmeticFault}
      (hleft : left.eval scope = .ok a) (hright : right.eval scope = .ok b)
      (h : op.Breaks a b fault) : Breaks (.binary op left right) fault
  | operand {op : UnaryOp} {operand : Expr} {fault : ArithmeticFault} (h : operand.Breaks fault) :
      Breaks (.unary op operand) fault
  | condition {condition ifTrue ifFalse : Expr} {fault : ArithmeticFault}
      (h : condition.Breaks fault) : Breaks (.conditional condition ifTrue ifFalse) fault
  | ifTrue {condition ifTrue ifFalse : Expr} {v : Value} {fault : ArithmeticFault}
      (hcondition : condition.eval scope = .ok v) (htrue : v.isTrue = true)
      (h : ifTrue.Breaks fault) : Breaks (.conditional condition ifTrue ifFalse) fault
  | ifFalse {condition ifTrue ifFalse : Expr} {v : Value} {fault : ArithmeticFault}
      (hcondition : condition.eval scope = .ok v) (hfalse : v.isTrue = false)
      (h : ifFalse.Breaks fault) : Breaks (.conditional condition ifTrue ifFalse) fault

end Expressions

variable {scope : Scope}

lemma resolve_ne_arithmetic : resolve scope name ≠ .error (.arithmetic fault) := by
  rw [resolve]
  cases scope name with
  | some v => simp
  | none => cases constants.lookup name <;> simp

/-- An evaluation of a list fails as the first member does that has no value. -/
lemma evalAll_eq_error_iff {es : List Expr} {cause : EvalFault} :
    evalAll scope es = .error cause ↔ ∃ before e after values,
      es = before ++ e :: after ∧ evalAll scope before = .ok values ∧
        e.eval scope = .error cause := by
  induction es with
  | nil =>
    refine ⟨fun h => absurd h (by simp [evalAll]), ?_⟩
    rintro ⟨before, e, after, values, hnil, -⟩
    exact absurd hnil (by simp)
  | cons first es ih =>
    rw [evalAll, bind_eq_error_iff]
    simp only [bind_pure_eq_error_iff]
    constructor
    · rintro (hfirst | ⟨v, hv, hrest⟩)
      · exact ⟨[], first, es, [], rfl, rfl, hfirst⟩
      · obtain ⟨before, e, after, values, rfl, hbefore, he⟩ := ih.1 hrest
        refine ⟨first :: before, e, after, v :: values, rfl, ?_, he⟩
        rw [evalAll, hv, hbefore]
        rfl
    · rintro ⟨before, e, after, values, hsplit, hbefore, he⟩
      cases before with
      | nil =>
        obtain ⟨rfl, rfl⟩ := List.cons.inj hsplit
        exact Or.inl he
      | cons first' before =>
        obtain ⟨rfl, rfl⟩ := List.cons.inj hsplit
        obtain ⟨v, hv, hbefore⟩ := exists_of_bind_eq_ok hbefore
        obtain ⟨vs, hvs, -⟩ := exists_of_bind_eq_ok hbefore
        exact Or.inr ⟨v, hv, ih.2 ⟨before, e, after, vs, rfl, hvs, he⟩⟩

lemma eval_eq_error_of_breaks {e : Expr} (h : e.Breaks scope fault) :
    e.eval scope = .error (.arithmetic fault) := by
  induction h with
  | argument hname hbefore h ih =>
    obtain ⟨f, hf⟩ := Option.isSome_iff_exists.1 hname
    rw [Expr.eval, hf]
    exact bind_eq_error_iff.2
      (Or.inl (evalAll_eq_error_iff.2 ⟨_, _, _, _, rfl, hbefore, ih⟩))
  | call hvalues h =>
    obtain ⟨f, hf, h⟩ := callBreaks_iff.1 h
    rw [Expr.eval, hf]
    exact bind_eq_error_iff.2 (Or.inr ⟨_, hvalues, h⟩)
  | left h ih =>
    rw [Expr.eval]
    exact bind_eq_error_iff.2 (Or.inl ih)
  | right hleft h ih =>
    rw [Expr.eval]
    exact bind_eq_error_iff.2 (Or.inr ⟨_, hleft, bind_eq_error_iff.2 (Or.inl ih)⟩)
  | operator hleft hright h =>
    rw [Expr.eval, hleft, hright]
    exact binaryBreaks_iff.1 h
  | operand h ih =>
    rw [Expr.eval]
    exact bind_eq_error_iff.2 (Or.inl ih)
  | condition h ih =>
    rw [Expr.eval]
    exact bind_eq_error_iff.2 (Or.inl ih)
  | ifTrue hcondition htrue h ih =>
    rw [Expr.eval]
    exact bind_eq_error_iff.2 (Or.inr ⟨_, hcondition, (if_pos htrue).trans ih⟩)
  | ifFalse hcondition hfalse h ih =>
    rw [Expr.eval]
    exact bind_eq_error_iff.2
      (Or.inr ⟨_, hcondition, (if_neg (ne_true_of_eq_false hfalse)).trans ih⟩)

mutual

/-- A fault of arithmetic has its ground in the expression. -/
lemma Expr.breaks_of_eval : ∀ {e : Expr}, e.eval scope = .error (.arithmetic fault) →
    e.Breaks scope fault
  | .literal value, h => absurd h (by simp [Expr.eval])
  | .symbol name, h => absurd h resolve_ne_arithmetic
  | .call name arguments, h => by
    rw [Expr.eval] at h
    cases hf : function? name with
    | none => exact absurd h (by simp [hf])
    | some f =>
      rw [hf] at h
      rcases bind_eq_error_iff.1 h with h | ⟨values, hvalues, h⟩
      · obtain ⟨before, e, after, values, hsplit, hbefore, he⟩ := evalAll_eq_error_iff.1 h
        have hbreaks : e.Breaks scope fault :=
          Expr.breaks_of_mem arguments (hsplit ▸ List.mem_append_right _ List.mem_cons_self) he
        rw [hsplit]
        exact .argument (by rw [hf]; rfl) hbefore hbreaks
      · exact .call hvalues (callBreaks_iff.2 ⟨f, hf, h⟩)
  | .binary op left right, h => by
    rcases bind_eq_error_iff.1 h with h | ⟨a, ha, h⟩
    · exact .left (Expr.breaks_of_eval h)
    rcases bind_eq_error_iff.1 h with h | ⟨b, hb, h⟩
    · exact .right ha (Expr.breaks_of_eval h)
    · exact .operator ha hb (binaryBreaks_iff.2 h)
  | .unary op operand, h => by
    rcases bind_eq_error_iff.1 h with h | ⟨v, _, h⟩
    · exact .operand (Expr.breaks_of_eval h)
    · exact absurd h unary_ne_arithmetic
  | .conditional condition ifTrue ifFalse, h => by
    rcases bind_eq_error_iff.1 h with h | ⟨v, hv, h⟩
    · exact .condition (Expr.breaks_of_eval h)
    · split at h
      · exact .ifTrue hv ‹_› (Expr.breaks_of_eval h)
      · exact .ifFalse hv (Bool.eq_false_of_not_eq_true ‹_›) (Expr.breaks_of_eval h)

lemma Expr.breaks_of_mem : ∀ (es : List Expr) {e : Expr}, e ∈ es →
    e.eval scope = .error (.arithmetic fault) → e.Breaks scope fault
  | first :: es, e, hmem, h => by
    rcases List.mem_cons.1 hmem with hfirst | hmem
    · rw [hfirst] at h ⊢
      exact Expr.breaks_of_eval h
    · exact Expr.breaks_of_mem es hmem h

end

lemma breaks_iff {e : Expr} : e.Breaks scope fault ↔ e.eval scope = .error (.arithmetic fault) :=
  ⟨eval_eq_error_of_breaks, Expr.breaks_of_eval⟩

/-! ### Formulas -/

/-- The outcome is a value, or a fault of the text or of the language. -/
inductive Documented : Except Refusal Value → Prop
  | value (v : Value) : Documented (.ok v)
  | malformed (cause : SyntaxFault) : Documented (.error (.malformed cause))
  | evaluation (cause : FormulaFault) : Documented (.error (.evaluation (.formula cause)))

instance : DecidablePred Documented
  | .ok v => .isTrue (.value v)
  | .error (.malformed cause) => .isTrue (.malformed cause)
  | .error (.evaluation (.formula cause)) => .isTrue (.evaluation cause)
  | .error (.evaluation (.arithmetic _)) => .isFalse nofun

lemma documented_iff {outcome : Except Refusal Value} : Documented outcome ↔
    ∀ fault, outcome ≠ .error (.evaluation (.arithmetic fault)) := by
  constructor
  · rintro (_ | _ | _) <;> simp
  · intro h
    rcases outcome with (cause | (cause | fault)) | v
    · exact .malformed cause
    · exact .evaluation cause
    · exact absurd rfl (h fault)
    · exact .value v

lemma evaluate_eq_arithmetic_iff {formula : String} :
    evaluate formula scope = .error (.evaluation (.arithmetic fault)) ↔
      ∃ e, parse formula = .ok e ∧ e.Breaks scope fault := by
  rw [evaluate, bind_eq_error_iff, or_iff_right]
  · simp only [mapError_eq_ok_iff, mapError_eq_error_iff, breaks_iff]
    simp
  · rw [mapError_eq_error_iff]
    simp

/-- **What an evaluation may end in.**  A formula text has a value, or a fault of its text or of the
language, unless its expression comes to a place where an operator or a function has no value; there
the evaluation ends in the fault of arithmetic of that place. -/
theorem evaluate_documented_iff (formula : String) (scope : Scope) :
    (Documented (evaluate formula scope) ↔
      ¬∃ e fault, parse formula = .ok e ∧ e.Breaks scope fault) ∧
    ∀ fault, evaluate formula scope = .error (.evaluation (.arithmetic fault)) ↔
      ∃ e, parse formula = .ok e ∧ e.Breaks scope fault := by
  refine ⟨?_, fun fault => evaluate_eq_arithmetic_iff⟩
  simp only [documented_iff, Ne, evaluate_eq_arithmetic_iff]
  constructor
  · rintro h ⟨e, fault, hbreaks⟩
    exact h fault ⟨e, hbreaks⟩
  · rintro h fault ⟨e, hbreaks⟩
    exact h ⟨e, fault, hbreaks⟩

/-- A remainder of an infinite number has no value, and the fault is one of arithmetic. -/
theorem breaks_remainder_of_infinity :
    ¬Documented (evaluate "mod(1/0, 2)" fun _ => none) ∧
    ∃ e fault, parse "mod(1/0, 2)" = .ok e ∧ e.Breaks (fun _ => none) fault := by
  have hfault : ¬Documented (evaluate "mod(1/0, 2)" fun _ => none) := by decide +kernel
  exact ⟨hfault, not_not.1 (mt (evaluate_documented_iff "mod(1/0, 2)" fun _ => none).1.2 hfault)⟩

end Worksheet.Formula
