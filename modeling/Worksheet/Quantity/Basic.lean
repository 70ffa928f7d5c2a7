import Worksheet.CompoundUnit.Printer
import Worksheet.Number.Basic

/-!
# Quantities

A quantity is a double with a compound unit.  Products and quotients combine the units; sums and
differences need compatible units and keep the unit of the left operand.
-/

namespace Worksheet

/-- A number with a unit. -/
structure Quantity where
  number : Float
  unit : CompoundUnit := .unitless

/-- Two units that cannot be added to each other. -/
structure UnitMismatch where
  left : CompoundUnit
  right : CompoundUnit
  deriving DecidableEq, Repr

/-- The two units of a mismatch, side by side. -/
def UnitMismatch.text (m : UnitMismatch) : String := m.left.text ++ " vs " ++ m.right.text

/-- The wording of a unit mismatch. -/
def UnitMismatch.message (m : UnitMismatch) : String := "Unit mismatch: " ++ m.text

namespace Quantity

/-- Zero without a unit. -/
def zero : Quantity := ⟨0.0, .unitless⟩

/-- The quantity with the opposite sign. -/
def neg (a : Quantity) : Quantity := ⟨-a.number, a.unit⟩

/-- The product. -/
def mul (a b : Quantity) : Quantity := ⟨a.number * b.number, a.unit * b.unit⟩

/-- The quotient; a zero divisor gives an infinity or not a number. -/
def div (a b : Quantity) : Quantity := ⟨Double.divide a.number b.number, a.unit / b.unit⟩

/-- A sum or difference of two quantities with compatible units. -/
def combine (op : Float → Float → Float) (a b : Quantity) : Except UnitMismatch Quantity :=
  if a.unit.compatible b.unit then .ok ⟨op a.number b.number, a.unit⟩
  else .error ⟨a.unit, b.unit⟩

/-- The sum. -/
def add : Quantity → Quantity → Except UnitMismatch Quantity := combine (· + ·)

/-- The difference. -/
def sub : Quantity → Quantity → Except UnitMismatch Quantity := combine (· - ·)

end Quantity

end Worksheet
