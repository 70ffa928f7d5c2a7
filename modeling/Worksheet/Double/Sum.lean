import Worksheet.Double.Basic
import Worksheet.Number.Fault

/-!
# Correctly rounded sums of doubles

The running total is kept as a list of doubles that do not overlap, so that no digit is lost; the
end result is the exact total rounded once.  A partial total beyond the range of doubles is a
fault even when later terms would bring it back.
-/

namespace Worksheet.Double

/-- A running total: the exact value of the finite terms as a list of doubles, the sum of the
terms that are not finite, and the sum of those that are infinite. -/
structure Total where
  partials : List Float
  special : Float
  infinite : Float

/-- The empty total. -/
def Total.zero : Total := ⟨[], 0.0, 0.0⟩

/-- Adds `x` to the partial sums: what each addition loses is kept, and the last sum comes
second. -/
def absorb (x : Float) : List Float → List Float × Float
  | [] => ([], x)
  | y :: ys =>
    let (large, small) := if abs x < abs y then (y, x) else (x, y)
    let sum := large + small
    let lost := small - (sum - large)
    let (kept, top) := absorb sum ys
    (if lost == 0 then kept else lost :: kept, top)

/-- The total with one more term. -/
def Total.add (t : Total) (x : Float) : Except ArithmeticFault Total :=
  let (kept, top) := absorb x t.partials
  if top == 0 then .ok { t with partials := kept }
  else if top.isFinite then .ok { t with partials := kept ++ [top] }
  else if x.isFinite then .error .sumOverflow
  else .ok ⟨[], t.special + x, if x.isInf then t.infinite + x else t.infinite⟩

/-- The exact value of a finite double, as a multiple of the least positive double. -/
def multiple (x : Float) : Int :=
  match parts? x with
  | none => 0
  | some p =>
    let n : Int := p.mantissa * Nat.pow 2 (p.exponent + 1074).toNat
    if p.negative then -n else n

/-- The value of a total. -/
def Total.value (t : Total) : Except ArithmeticFault Float :=
  if t.special != 0 then
    if t.infinite.isNaN then .error .oppositeInfinities else .ok t.special
  else
    let n := (t.partials.map multiple).foldl (· + ·) 0
    .ok (ofRatio (n < 0) n.natAbs (Nat.pow 2 1074))

/-- The sum of a list of doubles, rounded once. -/
def sum (xs : List Float) : Except ArithmeticFault Float := do
  let total ← xs.foldlM Total.add Total.zero
  total.value

/-- The first of the least elements, where an element replaces an earlier one only if it is
smaller. -/
def least? : List Float → Option Float
  | [] => none
  | x :: xs => some (xs.foldl (fun m y => if y < m then y else m) x)

/-- The first of the greatest elements, where an element replaces an earlier one only if it is
greater. -/
def greatest? : List Float → Option Float
  | [] => none
  | x :: xs => some (xs.foldl (fun m y => if m < y then y else m) x)

end Worksheet.Double
