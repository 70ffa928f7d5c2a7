import Worksheet.Dimensional.Eval
import Worksheet.Proofs.Dimensional.Phrase
import Worksheet.Proofs.Outcome

/-!
# Evaluating while reading

A formula over quantities can be evaluated while it is read: the calculator keeps, for every
unfinished term, the quantity of what stands on its left, and carries an operator out as soon as the
token behind it shows that its right side is complete.  So the calculator may come upon a unit
mismatch in a text that turns out to be no term further on.  On the tokens of a term it has the
outcome of the term, faults included, and on other tokens it has no quantity.
-/

namespace Worksheet.Dimensional

/-! ### The calculator -/

/-- Why a calculation has no quantity. -/
inductive Stop where
  | fault (cause : TermFault)
  /-- The tokens are no term. -/
  | malformed
  deriving DecidableEq, Repr

/-- What waits for the quantity on its right. -/
inductive Waiting where
  | neg
  | binary (op : Op) (left : Quantity)
  | group

/-- The value of an operator between two quantities. -/
def Op.perform (op : Op) (a b : Quantity) : Except Stop Quantity :=
  (op.apply a b).mapError fun units => .fault (.mismatch units)

/-- Carries out what waits and binds at least as tightly as `level`. -/
def settle (level : Nat) : List Waiting → Quantity → Except Stop (List Waiting × Quantity)
  | .neg :: waiting, q => settle level waiting q.neg
  | .binary op left :: waiting, q =>
    if level ≤ op.level then op.perform left q >>= settle level waiting
    else pure (.binary op left :: waiting, q)
  | waiting, q => pure (waiting, q)

/-- The state of the calculator: the quantity just completed, if one is, and what waits. -/
structure Calculator where
  complete : Option Quantity
  waiting : List Waiting

/-- The level from which on the operators before a token are carried out: an operator leaves those
to wait that bind less tightly, any other token leaves none but those outside the innermost
parenthesis. -/
def Token.level : Token → Nat
  | .sign s => (s.op?.map Op.level).getD 0
  | _ => 0

/-- The state after a token where an operand is expected. -/
def startQuantity (strict : Bool) (scope : QuantityScope) (waiting : List Waiting) :
    Token → Except Stop Calculator
  | .name text => do
    let q ← (resolve strict scope (String.ofList text)).mapError .fault
    return ⟨some q, waiting⟩
  | .number text => pure ⟨some ⟨(Double.read? text).getD 0.0, .unitless⟩, waiting⟩
  | .sign .minus => pure ⟨none, .neg :: waiting⟩
  | .sign .openParen => pure ⟨none, .group :: waiting⟩
  | .sign _ => .error .malformed

/-- The state after a token behind a quantity for which all is carried out that can be. -/
def proceed (token : Token) (waiting : List Waiting) (q : Quantity) : Except Stop Calculator :=
  match token with
  | .sign .closeParen =>
    match waiting with
    | .group :: waiting => pure ⟨some q, waiting⟩
    | _ => .error .malformed
  | .sign s =>
    match s.op? with
    | some op => pure ⟨none, .binary op q :: waiting⟩
    | none => .error .malformed
  | _ => .error .malformed

/-- The state after a token. -/
def Calculator.step (strict : Bool) (scope : QuantityScope) (c : Calculator) (token : Token) :
    Except Stop Calculator :=
  match c.complete with
  | none => startQuantity strict scope c.waiting token
  | some q => do
    let settled ← settle token.level c.waiting q
    proceed token settled.1 settled.2

/-- The quantity for which all is carried out that can be, unless a parenthesis is still open. -/
def conclude (waiting : List Waiting) (q : Quantity) : Except Stop Quantity :=
  if waiting.isEmpty then pure q else .error .malformed

/-- The quantity that is complete at the end. -/
def Calculator.finish (c : Calculator) : Except Stop Quantity :=
  match c.complete with
  | none => .error .malformed
  | some q => do
    let settled ← settle 0 c.waiting q
    conclude settled.1 settled.2

/-- The quantity of a token sequence, evaluated while it is read. -/
def calculate (strict : Bool) (scope : QuantityScope) (tokens : List Token) :
    Except Stop Quantity :=
  tokens.foldlM (Calculator.step strict scope) ⟨none, []⟩ >>= Calculator.finish

/-! ### The calculator of a reader -/

section Evaluation

variable (strict : Bool) (scope : QuantityScope)

/-- The quantity of a term. -/
def Term.quantity (a : Term) : Except Stop Quantity := (a.eval strict scope).mapError .fault

/-- What waits in place of an unfinished term. -/
def Frame.waiting : Frame → Except Stop Waiting
  | neg => pure .neg
  | binary op left => return .binary op (← left.quantity strict scope)
  | group => pure .group

/-- What waits in place of the open frames.  The outermost frame has been read first and is
evaluated first. -/
def waitingOf : List Frame → Except Stop (List Waiting)
  | [] => pure []
  | frame :: frames => do
    let rest ← waitingOf frames
    let first ← frame.waiting strict scope
    return first :: rest

/-- The calculator that has read what a reader has read. -/
def Reader.calculator (r : Reader) : Except Stop Calculator := do
  let waiting ← waitingOf strict scope r.frames
  match r.complete with
  | none => return ⟨none, waiting⟩
  | some a => return ⟨some (← a.quantity strict scope), waiting⟩

variable {strict scope}

lemma quantity_neg (a : Term) :
    (Term.neg a).quantity strict scope = return (← a.quantity strict scope).neg := by
  rw [Term.quantity, Term.quantity, Term.eval]
  cases a.eval strict scope <;> rfl

lemma quantity_binary (op : Op) (a b : Term) :
    (Term.binary op a b).quantity strict scope =
      (do op.perform (← a.quantity strict scope) (← b.quantity strict scope)) := by
  rw [Term.quantity, Term.quantity, Term.quantity, Term.eval]
  cases a.eval strict scope with
  | error fault => rfl
  | ok x =>
    cases b.eval strict scope with
    | error fault => rfl
    | ok y =>
      change ((op.apply x y).mapError _).mapError _ = op.perform x y
      rw [Op.perform]
      cases op.apply x y <;> rfl

/-- What waits in place of the open frames, and the quantity of the term inside them. -/
def settledOf (strict : Bool) (scope : QuantityScope) (frames : List Frame) (a : Term) :
    Except Stop (List Waiting × Quantity) := do
  let waiting ← waitingOf strict scope frames
  return (waiting, ← a.quantity strict scope)

lemma calculator_complete (frames : List Frame) (a : Term) :
    Reader.calculator strict scope ⟨some a, frames⟩ =
      settledOf strict scope frames a >>= fun settled => pure ⟨some settled.2, settled.1⟩ := by
  simp only [Reader.calculator, settledOf, bind_assoc, pure_bind]

lemma calculator_operand (frames : List Frame) :
    Reader.calculator strict scope ⟨none, frames⟩ =
      waitingOf strict scope frames >>= fun waiting => pure ⟨none, waiting⟩ := rfl

/-- Carrying out what waits is closing frames. -/
lemma settle_settledOf (level : Nat) (frames : List Frame) (a : Term) :
    (settledOf strict scope frames a >>= fun settled => settle level settled.1 settled.2) =
      settledOf strict scope (unwind level frames a).1 (unwind level frames a).2 := by
  -- each closed frame is one operation more in the term and one carried out among what waits, in
  -- the same order, so that the first fault on either side is the same
  fun_induction unwind level frames a with
  | case1 frames a ih =>
    rw [← ih]
    simp only [settledOf, waitingOf, Frame.waiting, quantity_neg, bind_assoc, pure_bind, settle]
  | case2 op left frames a hlevel ih =>
    rw [← ih]
    simp only [settledOf, waitingOf, Frame.waiting, quantity_binary, bind_assoc, pure_bind, settle,
      if_pos hlevel]
  | case3 op left frames a hlevel =>
    simp only [settledOf, waitingOf, Frame.waiting, bind_assoc, pure_bind, settle, if_neg hlevel]
  | case4 frames a hneg hbinary =>
    obtain rfl | ⟨outer, rfl⟩ := nil_or_group hneg hbinary
    · simp only [settledOf, waitingOf, bind_assoc, pure_bind, settle]
    · simp only [settledOf, waitingOf, Frame.waiting, bind_assoc, pure_bind, settle]

/-! ### Calculator and reader side by side -/

variable {α β γ δ : Type}

/-- Where a reading goes on, a calculation is that of the state it reaches; where a reading is
refused, the calculation has stopped. -/
def Follows (read : Option α) (value : α → Except Stop β) (calculated : Except Stop β) : Prop :=
  match read with
  | some a => calculated = value a
  | none => ∃ stop, calculated = .error stop

lemma Follows.bind {read : Option α} {value : α → Except Stop β} {calculated : Except Stop β}
    (h : Follows read value calculated) {next : α → Option γ} {value' : γ → Except Stop δ}
    {next' : β → Except Stop δ} (hnext : ∀ a, Follows (next a) value' (value a >>= next')) :
    Follows (read >>= next) value' (calculated >>= next') := by
  cases read with
  | none =>
    obtain ⟨stop, rfl⟩ := h
    exact ⟨stop, rfl⟩
  | some a =>
    obtain rfl : calculated = value a := h
    exact hnext a

lemma follows_none {x : Except Stop α} {f : α → Except Stop β} {value : γ → Except Stop β}
    (h : ∀ a, x = .ok a → ∃ stop, f a = .error stop) : Follows none value (x >>= f) := by
  cases x with
  | error stop => exact ⟨stop, rfl⟩
  | ok a => exact h a rfl

lemma follows_startOperand (frames : List Frame) (token : Token) :
    Follows (startOperand frames token) (Reader.calculator strict scope)
      (waitingOf strict scope frames >>= fun waiting =>
        startQuantity strict scope waiting token) := by
  cases token with
  | name text => rfl
  | number text => rfl
  | sign s =>
    cases s with
    | minus =>
      change _ = Reader.calculator strict scope ⟨none, .neg :: frames⟩
      simp only [startQuantity, calculator_operand, waitingOf, Frame.waiting, bind_assoc, pure_bind]
    | openParen =>
      change _ = Reader.calculator strict scope ⟨none, .group :: frames⟩
      simp only [startQuantity, calculator_operand, waitingOf, Frame.waiting, bind_assoc, pure_bind]
    | _ => exact follows_none fun waiting _ => ⟨_, rfl⟩

/-- The reader's state after a token behind a term, once the frames are closed that bind at least
as tightly. -/
def place (token : Token) (frames : List Frame) (a : Term) : Option Reader :=
  match token with
  | .sign .closeParen =>
    match frames with
    | .group :: frames => some ⟨some a, frames⟩
    | _ => none
  | .sign s => s.op?.map fun op => ⟨none, .binary op a :: frames⟩
  | _ => none

lemma continueWith_eq (frames : List Frame) (a : Term) (token : Token) :
    continueWith frames a token =
      place token (unwind token.level frames a).1 (unwind token.level frames a).2 := by
  cases token with
  | name text => rfl
  | number text => rfl
  | sign s =>
    cases s with
    | closeParen =>
      have hlevel : Token.level (.sign .closeParen) = 0 := rfl
      rw [hlevel, continueWith]
      obtain ⟨closed, b⟩ := unwind 0 frames a
      cases closed with
      | nil => rfl
      | cons frame outer => cases frame <;> rfl
    | _ => rfl

lemma waitingOf_settledOf {frames : List Frame} {a : Term} {waiting : List Waiting} {q : Quantity}
    (h : settledOf strict scope frames a = .ok (waiting, q)) :
    waitingOf strict scope frames = .ok waiting := by
  obtain ⟨waiting', hwaiting, h⟩ := exists_of_bind_eq_ok h
  obtain ⟨q', -, h⟩ := exists_of_bind_eq_ok h
  obtain ⟨rfl, rfl⟩ := Prod.mk.inj (Except.ok.inj h)
  exact hwaiting

lemma exists_cons_of_waitingOf {frame : Frame} {frames : List Frame} {waiting : List Waiting}
    (h : waitingOf strict scope (frame :: frames) = .ok waiting) :
    ∃ first rest, waiting = first :: rest ∧ frame.waiting strict scope = .ok first := by
  rw [waitingOf] at h
  obtain ⟨rest, -, h⟩ := exists_of_bind_eq_ok h
  obtain ⟨first, hfirst, h⟩ := exists_of_bind_eq_ok h
  exact ⟨first, rest, (Except.ok.inj h).symm, hfirst⟩

/-- A closing parenthesis finds its partner among the frames where it finds it among what waits. -/
lemma waitingOf_group {frames : List Frame} {waiting : List Waiting}
    (h : waitingOf strict scope frames = .ok (.group :: waiting)) :
    ∃ outer, frames = .group :: outer := by
  cases frames with
  | nil => exact absurd (Except.ok.inj h) (by simp)
  | cons frame outer =>
    obtain ⟨first, rest, hwaiting, hfirst⟩ := exists_cons_of_waitingOf h
    obtain ⟨rfl, -⟩ := List.cons.inj hwaiting
    cases frame with
    | group => exact ⟨outer, rfl⟩
    | neg => exact absurd (Except.ok.inj hfirst) (by simp)
    | binary op left =>
      obtain ⟨q, -, hq⟩ := exists_of_bind_eq_ok hfirst
      exact absurd (Except.ok.inj hq) (by simp)

lemma follows_place_closeParen (frames : List Frame) (a : Term) :
    Follows (place (.sign .closeParen) frames a) (Reader.calculator strict scope)
      (settledOf strict scope frames a >>= fun settled =>
        proceed (.sign .closeParen) settled.1 settled.2) := by
  by_cases hgroup : ∃ outer, frames = .group :: outer
  · obtain ⟨outer, rfl⟩ := hgroup
    change _ = Reader.calculator strict scope ⟨some a, outer⟩
    simp only [calculator_complete, settledOf, waitingOf, Frame.waiting, bind_assoc, pure_bind,
      proceed]
  · -- what waits in place of the frames then has no parenthesis at its head either
    have hplace : place (.sign .closeParen) frames a = none := by
      cases frames with
      | nil => rfl
      | cons frame outer =>
        cases frame with
        | group => exact absurd ⟨outer, rfl⟩ hgroup
        | _ => rfl
    rw [hplace]
    refine follows_none fun settled hsettled => ⟨.malformed, ?_⟩
    obtain ⟨waiting, q⟩ := settled
    cases waiting with
    | nil => rfl
    | cons first rest =>
      cases first with
      | group => exact absurd (waitingOf_group (waitingOf_settledOf hsettled)) hgroup
      | _ => rfl

lemma follows_place (token : Token) (frames : List Frame) (a : Term) :
    Follows (place token frames a) (Reader.calculator strict scope)
      (settledOf strict scope frames a >>= fun settled => proceed token settled.1 settled.2) := by
  have hop : ∀ op : Op, (settledOf strict scope frames a >>= fun settled =>
      pure ⟨none, .binary op settled.2 :: settled.1⟩) =
      Reader.calculator strict scope ⟨none, .binary op a :: frames⟩ := fun op => by
    simp only [calculator_operand, settledOf, waitingOf, Frame.waiting, bind_assoc, pure_bind]
  cases token with
  | name text => exact follows_none fun _ _ => ⟨_, rfl⟩
  | number text => exact follows_none fun _ _ => ⟨_, rfl⟩
  | sign s =>
    cases s with
    | plus => exact hop .add
    | minus => exact hop .sub
    | star => exact hop .mul
    | slash => exact hop .div
    | closeParen => exact follows_place_closeParen frames a
    | openParen => exact follows_none fun _ _ => ⟨_, rfl⟩
    | caret => exact follows_none fun _ _ => ⟨_, rfl⟩

/-- One token takes the calculator of a reader to the calculator of the next reader. -/
lemma follows_step (r : Reader) (token : Token) :
    Follows (r.step token) (Reader.calculator strict scope)
      (r.calculator strict scope >>= fun c => c.step strict scope token) := by
  obtain ⟨complete, frames⟩ := r
  cases complete with
  | none =>
    rw [step_operand, calculator_operand, bind_assoc]
    exact follows_startOperand frames token
  | some a =>
    have hstep : (Reader.calculator strict scope ⟨some a, frames⟩ >>= fun c =>
        c.step strict scope token) =
        settledOf strict scope (unwind token.level frames a).1 (unwind token.level frames a).2 >>=
          fun settled => proceed token settled.1 settled.2 := by
      rw [← settle_settledOf, calculator_complete]
      simp only [bind_assoc, pure_bind, Calculator.step]
    rw [step_complete, continueWith_eq, hstep]
    exact follows_place token _ _

lemma follows_foldlM (tokens : List Token) (r : Reader) :
    Follows (tokens.foldlM Reader.step r) (Reader.calculator strict scope)
      (r.calculator strict scope >>= tokens.foldlM (Calculator.step strict scope)) := by
  -- the step lemma compares the next states, from which the rest of the tokens is read
  induction tokens generalizing r with
  | nil => exact bind_pure _
  | cons token tokens ih =>
    simp only [List.foldlM_cons]
    rw [← bind_assoc]
    exact (follows_step r token).bind ih

lemma follows_finish (r : Reader) :
    Follows r.finish? (Term.quantity strict scope)
      (r.calculator strict scope >>= Calculator.finish) := by
  obtain ⟨complete, frames⟩ := r
  cases complete with
  | none =>
    refine follows_none fun c hc => ⟨.malformed, ?_⟩
    obtain ⟨waiting, -, hc⟩ := exists_of_bind_eq_ok hc
    obtain rfl := Except.ok.inj hc
    rfl
  | some a =>
    have hfinish : (Reader.calculator strict scope ⟨some a, frames⟩ >>= Calculator.finish) =
        settledOf strict scope (unwind 0 frames a).1 (unwind 0 frames a).2 >>=
          fun settled => conclude settled.1 settled.2 := by
      rw [← settle_settledOf, calculator_complete]
      simp only [bind_assoc, pure_bind, Calculator.finish]
    rw [hfinish, Reader.finish?, Option.bind_some]
    obtain ⟨unclosed, b⟩ := unwind 0 frames a
    cases unclosed with
    | nil =>
      change _ = b.quantity strict scope
      simp only [settledOf, waitingOf, bind_assoc, pure_bind, conclude, List.isEmpty_nil, if_true,
        bind_pure]
    | cons frame outer =>
      refine follows_none fun settled hsettled => ⟨.malformed, ?_⟩
      obtain ⟨waiting, q⟩ := settled
      obtain ⟨first, rest, rfl, -⟩ := exists_cons_of_waitingOf (waitingOf_settledOf hsettled)
      rfl

/-- **On the tokens of a term the calculator has the outcome of the term; on other tokens it has no
quantity.** -/
theorem follows_parse? (tokens : List Token) :
    Follows (parse? tokens) (Term.quantity strict scope) (calculate strict scope tokens) :=
  (follows_foldlM tokens ⟨none, []⟩).bind follows_finish

lemma calculate_eq_quantity {tokens : List Token} {t : Term} (h : parse? tokens = some t) :
    calculate strict scope tokens = t.quantity strict scope := by
  have hfollows : Follows (parse? tokens) (Term.quantity strict scope)
      (calculate strict scope tokens) := follows_parse? tokens
  rwa [h] at hfollows

/-- Reading first and evaluating then has the value of evaluating while reading. -/
theorem evaluate_eq_calculate (formula : String) (scope : QuantityScope) (strict : Bool) :
    evaluate formula scope strict = (calculate strict scope (tokenize formula)).toOption := by
  rw [evaluate]
  cases hparse : parse? (tokenize formula) with
  | none =>
    have hfollows : Follows (parse? (tokenize formula)) (Term.quantity strict scope)
        (calculate strict scope (tokenize formula)) := follows_parse? _
    rw [hparse] at hfollows
    obtain ⟨stop, hstop⟩ := hfollows
    rw [hstop]
    rfl
  | some t =>
    rw [calculate_eq_quantity hparse, Term.quantity, Option.bind_some]
    cases t.eval strict scope <;> rfl

end Evaluation

end Worksheet.Dimensional
