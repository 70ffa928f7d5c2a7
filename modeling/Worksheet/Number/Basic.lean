import Worksheet.Double.Shortest
import Worksheet.Number.Fault

/-!
# Numbers: integers and doubles

A number is an integer of any size or a double.  Two integers add, subtract and multiply exactly;
once a double takes part the integer is converted first, which fails beyond the range of doubles.
Comparison is by exact value throughout.

What is not a number equals nothing, not even itself.  Yet a list that holds it is equal to itself,
so a given value that is not a number carries a mark by which its occurrence is known again
(`Number.alike`); one that is computed has none.
-/

namespace Worksheet

/-- An exact integer or a double. -/
inductive Number where
  | int (n : Int)
  | float (x : Float)
  /-- A given double that is not a number; the mark tells its occurrence from others. -/
  | nan (mark : Nat)
  deriving DecidableEq

namespace Number

/-- The number as a double. -/
def toFloat : Number → Except ArithmeticFault Float
  | int n =>
    match Double.ofInt? n with
    | some x => .ok x
    | none => .error .integerTooLarge
  | float x => .ok x
  | nan _ => .ok Double.nan

/-- Exact on two integers, and `onFloats` of the converted operands otherwise. -/
def lift (onInts : Int → Int → Int) (onFloats : Float → Float → Float) :
    Number → Number → Except ArithmeticFault Number
  | int a, int b => .ok (int (onInts a b))
  | a, b => do
    let x ← a.toFloat
    let y ← b.toFloat
    return float (onFloats x y)

/-- The sum. -/
def add : Number → Number → Except ArithmeticFault Number := lift (· + ·) (· + ·)

/-- The difference. -/
def sub : Number → Number → Except ArithmeticFault Number := lift (· - ·) (· - ·)

/-- The product. -/
def mul : Number → Number → Except ArithmeticFault Number := lift (· * ·) (· * ·)

/-- The number with the opposite sign. -/
def neg : Number → Number
  | int n => int (-n)
  | float x => float (-x)
  | nan _ => float Double.nan

/-- Whether the number is zero of either sign. -/
def isZero : Number → Bool
  | int n => n == 0
  | float x => x == 0
  | nan _ => false

/-- Whether the number is not a number, read as a double. -/
def isNaN (a : Number) : Except ArithmeticFault Bool := do
  return (← a.toFloat).isNaN

/-- Equality by exact value; what is not a number equals nothing. -/
def equal : Number → Number → Bool
  | int a, int b => a == b
  | float x, float y => x == y
  | float x, int n => Double.compareInt? x n == some .eq
  | int n, float x => Double.compareInt? x n == some .eq
  | _, _ => false

/-- Equality of members of lists and records: what is not a number is equal to the same
occurrence. -/
def alike : Number → Number → Bool
  | nan i, nan j => i == j
  | a, b => equal a b

/-- Order by exact value; what is not a number stands below nothing and above nothing. -/
def less : Number → Number → Bool
  | int a, int b => a < b
  | float x, float y => x < y
  | float x, int n => Double.compareInt? x n == some .lt
  | int n, float x => Double.compareInt? x n == some .gt
  | _, _ => false

end Number

namespace Double

/-- Division in which a zero divisor gives an infinity with the sign of the quotient, or not a
number when the dividend is zero or not a number. -/
def divide (x y : Float) : Float :=
  if y == 0 then
    if x == 0 || x.isNaN then nan else copySign infinity x * copySign 1.0 y
  else x / y

end Double

namespace Number

/-- Division as for doubles, except that the quotient of two integers is rounded once, from its
exact value. -/
def divide (a b : Number) : Except ArithmeticFault Number :=
  match a, b with
  | int n, int m =>
    if m == 0 then do
      if n == 0 then return float Double.nan
      let x ← (int n).toFloat
      return float (Double.copySign Double.infinity x)
    else
      match Double.ofRatio? (decide (n < 0) != decide (m < 0)) n.natAbs m.natAbs with
      | some x => .ok (float x)
      | none => .error .quotientTooLarge
  | a, b => do
    let x ← a.toFloat
    let y ← b.toFloat
    return float (Double.divide x y)

/-- The text of a number: all digits of an integer, the shortest text of a double. -/
def text : Number → String
  | int n => toString n
  | float x => Double.text x
  | nan _ => Double.text Double.nan

end Number

end Worksheet
