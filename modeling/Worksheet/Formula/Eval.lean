import Worksheet.Formula.Function
import Worksheet.Formula.Parser

/-!
# Evaluation of expressions

A symbol has the value that the scope gives it, or else is a constant.  Operands are evaluated from
left to right before an operator looks at them, and all arguments before a function does; only the
branches of `? :` are evaluated on demand.  Arithmetic follows IEEE rules, comparison of two texts
is by code points, and equality is by text as soon as one side is a text.
-/

namespace Worksheet.Formula

/-- The value of a symbol. -/
def resolve (scope : Scope) (name : String) : Outcome Value :=
  match scope name with
  | some v => .ok v
  | none =>
    match constants.lookup name with
    | some v => .ok v
    | none => .error (.formula (.undefinedSymbol name))

/-- An arithmetic operator on two values. -/
def arithmetic (op : Number → Number → Except ArithmeticFault Number) (a b : Value) :
    Outcome Value := do
  let x ← numeric none a
  let y ← numeric none b
  return .number (← liftArithmetic (op x y))

/-- The equality of the operators `==` and `!=`. -/
def equal (a b : Value) : Outcome Bool :=
  match a, b with
  | .text s, v => .ok (s == v.toText)
  | v, .text s => .ok (v.toText == s)
  | a, b => do
    let x ← numeric none a
    let y ← numeric none b
    return Number.equal x y

/-- An order of two values: of texts by code points, of numbers by value; nothing stands in order
with what is not a number. -/
def ordered (onTexts : String → String → Bool) (onNumbers : Number → Number → Bool) (a b : Value) :
    Outcome Bool :=
  match a, b with
  | .text s, .text t => .ok (onTexts s t)
  | a, b => do
    let x ← numeric none a
    let y ← numeric none b
    if ← liftArithmetic x.isNaN then return false
    if ← liftArithmetic y.isNaN then return false
    return onNumbers x y

/-- The value of an operator between two evaluated operands. -/
def BinaryOp.apply (op : BinaryOp) (a b : Value) : Outcome Value :=
  match op with
  | add => arithmetic Number.add a b
  | sub => arithmetic Number.sub a b
  | mul => arithmetic Number.mul a b
  | div => arithmetic Number.divide a b
  | mod => modulo.apply [a, b]
  | pow => power.apply [a, b]
  | equal => Value.bool <$> Formula.equal a b
  | notEqual => (fun same => Value.bool (!same)) <$> Formula.equal a b
  | less => Value.bool <$> ordered (· < ·) Number.less a b
  | greater => Value.bool <$> ordered (fun s t => t < s) (fun x y => Number.less y x) a b
  | atMost =>
    Value.bool <$> ordered (fun s t => !(t < s)) (fun x y => !Number.less y x) a b
  | atLeast => Value.bool <$> ordered (fun s t => !(s < t)) (fun x y => !Number.less x y) a b
  | and => .ok (.bool (a.isTrue && b.isTrue))
  | or => .ok (.bool (a.isTrue || b.isTrue))
  | xor => .ok (.bool (a.isTrue != b.isTrue))
  | other symbol => .error (.formula (.unknownBinary symbol))

/-- The value of an operator in front of an evaluated operand. -/
def UnaryOp.apply (op : UnaryOp) (a : Value) : Outcome Value :=
  match op with
  | neg => do return .number (← numeric none a).neg
  | plus => do return .number (← numeric none a)
  | not => .ok (.bool (!a.isTrue))
  | other symbol => .error (.formula (.unknownUnary symbol))

/-- The value of a call with evaluated arguments. -/
def Function.call (name : String) (f : Function) (arguments : List Value) : Outcome Value :=
  if f.accepts arguments.length then f.apply arguments
  else .error (.formula (.argumentCount name))

mutual

/-- The value of an expression in a scope. -/
def Expr.eval (scope : Scope) : Expr → Outcome Value
  | .literal value => .ok value
  | .symbol name => resolve scope name
  | .call name arguments =>
    match function? name with
    | none => .error (.formula (.undefinedFunction name))
    | some f => do f.call name (← evalAll scope arguments)
  | .binary op left right => do
    let a ← left.eval scope
    let b ← right.eval scope
    op.apply a b
  | .unary op operand => do op.apply (← operand.eval scope)
  | .conditional condition ifTrue ifFalse => do
    if (← condition.eval scope).isTrue then ifTrue.eval scope else ifFalse.eval scope

/-- The values of expressions, from left to right. -/
def evalAll (scope : Scope) : List Expr → Outcome (List Value)
  | [] => .ok []
  | e :: es => do
    let v ← e.eval scope
    let vs ← evalAll scope es
    return v :: vs

end

/-- Why a formula text has no value. -/
inductive Refusal where
  | malformed (fault : SyntaxFault)
  | evaluation (fault : EvalFault)
  deriving DecidableEq, Repr

/-- The wording of a refusal. -/
def Refusal.message : Refusal → String
  | malformed fault => fault.message
  | evaluation fault => fault.message

/-- The value of a formula in a scope. -/
def evaluate (formula : String) (scope : Scope) : Except Refusal Value := do
  let e ← (parse formula).mapError .malformed
  (e.eval scope).mapError .evaluation

end Worksheet.Formula
