import Worksheet.Double.Basic
import Worksheet.Number.Fault

/-!
# Functions on doubles

The elementary functions outside their domain are not a number, and beyond the range of doubles
infinite.  Rounding goes through exact integers, so that infinite numbers, which have no integer
part, are either returned unchanged or a fault.  What limits a machine in time and memory is left
out: a power of ten that is out of range is refused at once, however long an interpreter would take
to compute it.
-/

namespace Worksheet.Double

/-- The quotient of a circle's circumference and its diameter. -/
def pi : Float := Float.ofBits 0x400921FB54442D18

/-- The base of the natural logarithm. -/
def euler : Float := Float.ofBits 0x4005BF0A8B145769

/-- A logarithm, which only positive numbers have. -/
def onPositive (log : Float → Float) (x : Float) : Float := if 0 < x then log x else nan

/-- The natural logarithm. -/
def ln (x : Float) : Float := onPositive Float.log x

/-- The logarithm in a base; base one is a division by zero, whatever positive number or
non-number the logarithm is of. -/
def logBase (x base : Float) : Except ArithmeticFault Float :=
  if x ≤ 0 || base ≤ 0 then .ok nan
  else if Float.log base == 0 then .error .divisionByZero
  else .ok (Float.log x / Float.log base)

/-- The power; a pole is not a number, and a result out of range is positive infinity. -/
def power (x y : Float) : Float :=
  let r := Float.pow x y
  if x.isFinite && y.isFinite && r.isInf then (if x == 0 then nan else infinity) else r

/-- The real cube root, with the sign of the number. -/
def cubeRoot (x : Float) : Float := copySign (Float.pow (abs x) (1.0 / 3.0)) x

/-- The sign as `-1`, `0` or `1`; what is not a number stays so. -/
def sign (x : Float) : Float :=
  if x.isNaN then x else if 0 < x then 1.0 else if x < 0 then -1.0 else 0.0

/-- The integer part of a finite double, toward zero. -/
def truncate? (x : Float) : Option Int :=
  (parts? x).map fun p =>
    let (num, den) := p.ratio
    let n : Int := (num / den : Nat)
    if p.negative then -n else n

/-- The double of an integer that came from a double by rounding. -/
def ofRounded (n : Int) : Float := ofRatio (decide (n < 0)) n.natAbs 1

/-- A finite double rounded to an integer by `round`; others unchanged. -/
def roundFinite (round : Float → Option Int) (x : Float) : Float :=
  match round x with
  | some n => ofRounded n
  | none => x

/-- The greatest integer at or below the double. -/
def floor (x : Float) : Float := roundFinite floor? x

/-- The least integer at or above the double. -/
def ceil (x : Float) : Float := roundFinite (fun x => (floor? (-x)).map (- ·)) x

/-- The integer part of the double. -/
def truncate (x : Float) : Float := roundFinite truncate? x

/-- The integer that `round` makes of a double; infinite numbers and what is not a number have
none. -/
def toInteger (round : Float → Option Int) (x : Float) : Except ArithmeticFault Int :=
  match round x with
  | some n => .ok n
  | none => .error (if x.isNaN then .nanToInteger else .infinityToInteger)

/-- The remainder that has the sign of the divisor; a zero divisor leaves the dividend. -/
def modulo (x y : Float) : Except ArithmeticFault Float :=
  if y == 0 then .ok x
  else do
    let n ← toInteger floor? (x / y)
    return x - y * ofRounded n

/-- The number of decimal places from which on a power of ten is out of the range of doubles. -/
def tooManyPlaces : Int := 309

/-- The magnitude of `x` rounded half up to `places ≥ 0` decimal places: scaled by an exact power
of ten and divided by it exactly. -/
def roundScaled (x : Float) (places : Nat) : Except ArithmeticFault Float := do
  let factor := Nat.pow 10 places
  let n ← toInteger floor? (abs x * ofRatio false factor 1 + 0.5)
  return ofRatio false n.natAbs factor

/-- The magnitude of `x` rounded half up before the point, by the double power of ten `factor`. -/
def roundCoarse (x factor : Float) : Except ArithmeticFault Float := do
  let n ← toInteger floor? (abs x * factor + 0.5)
  if factor == 0 then .error .divisionByZero else return ofRounded n / factor

/-- The number rounded to a count of decimal places, half away from zero; a negative count rounds
before the point. -/
def roundTo (x places : Float) : Except ArithmeticFault Float :=
  if !x.isFinite then .ok x
  else do
    let n ← toInteger truncate? places
    if tooManyPlaces ≤ n then .error .integerTooLarge
    else
      let magnitude ←
        if 0 ≤ n then roundScaled x n.toNat else roundCoarse x (Float.pow 10.0 (ofRounded n))
      return copySign magnitude x

end Worksheet.Double
