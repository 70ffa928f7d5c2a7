/-!
# Compound units

A compound unit is a product of unit tokens over a product of unit tokens, kept as two lists.
Tokens are opaque: nothing converts `g` to `kg`, so units cancel and match only where their tokens
are equal.  Multiplication and division cancel a token that stands on both sides.  What a unit
means is its net count per token, numerator minus denominator; two units are compatible when
their net counts agree.
-/

namespace Worksheet

/-- A product of tokens over a product of tokens. -/
structure CompoundUnit where
  numerator : List String := []
  denominator : List String := []
  deriving DecidableEq, Repr, Inhabited

namespace CompoundUnit

/-- The unit of plain numbers. -/
def unitless : CompoundUnit := {}

/-- Whether no token is left on either side. -/
def isUnitless (u : CompoundUnit) : Bool := u.numerator.isEmpty && u.denominator.isEmpty

/-- How often a token stands above the line, less how often below. -/
def net (u : CompoundUnit) (token : String) : Int :=
  (u.numerator.count token : Int) - u.denominator.count token

/-- Cancels each token of `numerator` against one equal token of `denominator`. -/
def cancel : (numerator denominator : List String) → List String × List String
  | [], denominator => ([], denominator)
  | t :: ts, denominator =>
    if t ∈ denominator then cancel ts (denominator.erase t)
    else
      let (kept, rest) := cancel ts denominator
      (t :: kept, rest)

/-- The unit with the tokens that stand on both sides cancelled. -/
def simplify (u : CompoundUnit) : CompoundUnit :=
  let (numerator, denominator) := cancel u.numerator u.denominator
  ⟨numerator, denominator⟩

/-- The product, cancelled. -/
def mul (a b : CompoundUnit) : CompoundUnit :=
  simplify ⟨a.numerator ++ b.numerator, a.denominator ++ b.denominator⟩

/-- The quotient, cancelled. -/
def div (a b : CompoundUnit) : CompoundUnit :=
  simplify ⟨a.numerator ++ b.denominator, a.denominator ++ b.numerator⟩

/-- Whether two units may be added: cancelled, they have the same tokens on each side, in any
order. -/
def compatible (a b : CompoundUnit) : Bool :=
  let a := a.simplify
  let b := b.simplify
  a.numerator.isPerm b.numerator && a.denominator.isPerm b.denominator

instance : Mul CompoundUnit := ⟨mul⟩
instance : Div CompoundUnit := ⟨div⟩

end CompoundUnit

end Worksheet
