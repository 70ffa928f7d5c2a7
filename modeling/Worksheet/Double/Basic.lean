/-!
# Double precision numbers

A finite double is `± m · 2 ^ q` with natural `m` and integer `q`; `parts?` reads that off its
bits.  `ofRatio?` goes the other way: it rounds a quotient of naturals to the nearest double, a
tie to the even neighbour, and has no answer when the rounded value would be too large.  All exact
operations on doubles (floor, comparison with integers, decimal texts) go through these two.
-/

namespace Worksheet.Double

/-- Sign, significand and binary exponent of a finite double. -/
structure Parts where
  negative : Bool
  mantissa : Nat
  exponent : Int
  deriving DecidableEq, Repr

/-- Positive infinity. -/
def infinity : Float := Float.ofBits 0x7FF0000000000000

/-- Not a number. -/
def nan : Float := Float.ofBits 0x7FF8000000000000

/-- Whether the sign bit is set. -/
def signBit (x : Float) : Bool := Nat.pow 2 63 ≤ x.toBits.toNat

/-- The parts of a finite double: `x = ± mantissa · 2 ^ exponent`. -/
def parts? (x : Float) : Option Parts :=
  let bits := x.toBits.toNat
  let field := bits / Nat.pow 2 52 % Nat.pow 2 11
  let fraction := bits % Nat.pow 2 52
  if field == 2047 then none
  else if field == 0 then some ⟨signBit x, fraction, -1074⟩
  else some ⟨signBit x, Nat.pow 2 52 + fraction, Int.ofNat field - 1075⟩

/-- The value `mantissa · 2 ^ exponent` as a quotient of naturals. -/
def Parts.ratio (p : Parts) : Nat × Nat :=
  (p.mantissa * Nat.pow 2 p.exponent.toNat, Nat.pow 2 (-p.exponent).toNat)

/-- The quotient rounded to the nearest natural, a tie to the even one. -/
def roundHalfEven (num den : Nat) : Nat :=
  let q := num / den
  let r := num % den
  if 2 * r < den then q
  else if den < 2 * r then q + 1
  else if q % 2 == 0 then q else q + 1

/-- The binary exponent of a positive quotient: `2 ^ k ≤ num / den < 2 ^ (k + 1)`. -/
def binaryExponent (num den : Nat) : Int :=
  let k : Int := (Nat.log2 num : Int) - (Nat.log2 den : Int)
  if den * Nat.pow 2 k.toNat ≤ num * Nat.pow 2 (-k).toNat then k else k - 1

/-- The double nearest to `± num / den`, `none` if that is out of range. -/
def ofRatio? (negative : Bool) (num den : Nat) : Option Float :=
  let sign := if negative then Nat.pow 2 63 else 0
  if num == 0 || den == 0 then some (Float.ofBits (UInt64.ofNat sign))
  else
    let e := max (binaryExponent num den - 52) (-1074)
    let q := roundHalfEven (num * Nat.pow 2 (-e).toNat) (den * Nat.pow 2 e.toNat)
    let bits := (e + 1074).toNat * Nat.pow 2 52 + q
    if bits < 0x7FF0000000000000 then some (Float.ofBits (UInt64.ofNat (sign + bits))) else none

/-- The double nearest to `± num / den`, infinite if that is out of range. -/
def ofRatio (negative : Bool) (num den : Nat) : Float :=
  match ofRatio? negative num den with
  | some x => x
  | none => if negative then -infinity else infinity

/-- The double nearest to an integer, `none` if that is out of range. -/
def ofInt? (n : Int) : Option Float := ofRatio? (n < 0) n.natAbs 1

/-- The magnitude of `x` with the sign of `s`. -/
def copySign (x s : Float) : Float :=
  if signBit x == signBit s then x else -x

/-- The magnitude of a double. -/
def abs (x : Float) : Float := if signBit x then -x else x

/-- The greatest integer at or below a finite double. -/
def floor? (x : Float) : Option Int :=
  (parts? x).map fun p =>
    let (num, den) := p.ratio
    if p.negative then Int.fdiv (-(num : Int)) den else Int.fdiv num den

/-- A finite double whose value is an integer, as that integer. -/
def integer? (x : Float) : Option Int :=
  (parts? x).bind fun p =>
    let (num, den) := p.ratio
    if num % den == 0 then
      some (if p.negative then -((num / den : Nat) : Int) else ((num / den : Nat) : Int))
    else none

/-- The order of a double against an integer, by exact value; `none` for not a number. -/
def compareInt? (x : Float) (n : Int) : Option Ordering :=
  if x.isNaN then none
  else match parts? x with
    | none => some (if signBit x then .lt else .gt)
    | some p =>
      let (num, den) := p.ratio
      let num : Int := if p.negative then -(num : Int) else num
      some (compare num (n * den))

end Worksheet.Double
