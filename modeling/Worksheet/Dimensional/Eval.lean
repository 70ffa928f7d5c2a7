import Worksheet.Dimensional.Term
import Worksheet.Double.Reading
import Worksheet.Quantity.Basic

/-!
# Evaluation over quantities

Units follow the arithmetic: a product multiplies them, and a sum of incompatible units has no
value.  A name without a quantity is the unitless zero, or in strict reading has no value either.
A formula that is no term over quantities has no value here and may still have one as a formula
over plain values.
-/

namespace Worksheet.Dimensional

/-- Quantities that a formula may look up by name. -/
abbrev QuantityScope := String → Option Quantity

/-- The value of an operator between two quantities. -/
def Op.apply (op : Op) (a b : Quantity) : Except UnitMismatch Quantity :=
  match op with
  | add => a.add b
  | sub => a.sub b
  | mul => .ok (a.mul b)
  | div => .ok (a.div b)

/-- Why a term has no value. -/
inductive TermFault where
  | mismatch (units : UnitMismatch)
  | unbound (name : String)
  deriving DecidableEq, Repr

/-- The quantity that a name denotes. -/
def resolve (strict : Bool) (scope : QuantityScope) (name : String) : Except TermFault Quantity :=
  match scope name with
  | some q => .ok q
  | none => if strict then .error (.unbound name) else .ok .zero

/-- The value of a term in a scope. -/
def Term.eval (strict : Bool) (scope : QuantityScope) : Term → Except TermFault Quantity
  | .name text => resolve strict scope text
  | .number text => .ok ⟨(Double.read? text).getD 0.0, .unitless⟩
  | .neg a => return (← a.eval strict scope).neg
  | .binary op a b => do
    let x ← a.eval strict scope
    let y ← b.eval strict scope
    (op.apply x y).mapError .mismatch

/-- The value of a formula over quantities, if it has one. -/
def evaluate (formula : String) (scope : QuantityScope) (strict : Bool) : Option Quantity :=
  (parse? (tokenize formula)).bind fun term => (term.eval strict scope).toOption

end Worksheet.Dimensional
