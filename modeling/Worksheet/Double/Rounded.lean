import Worksheet.Double.Shortest

/-!
# Rounded decimal texts of a double

The exact binary value of a double, rounded to a count of places after the point or to a count of
significant digits; a tie goes to the even neighbour.
-/

namespace Worksheet.Double

/-- The digits of a natural with the point set before the last `places` of them. -/
def pointed (places n : Nat) : List Char :=
  let cs := Nat.toDigits 10 n
  let cs := List.replicate (places + 1 - cs.length) '0' ++ cs
  let whole := cs.take (cs.length - places)
  if places == 0 then whole else whole ++ '.' :: cs.drop (cs.length - places)

/-- A finite double with exactly `places` digits after the point. -/
def fixed (places : Nat) (x : Float) : List Char :=
  match parts? x with
  | none => (text x).toList
  | some p =>
    let (num, den) := p.ratio
    let digits := pointed places (roundHalfEven (num * Nat.pow 10 places) den)
    if p.negative then '-' :: digits else digits

/-- A finite double different from zero with one digit before the point, `places` digits after it
and an exponent. -/
def scientific (places : Nat) (x : Float) : List Char :=
  match parts? x with
  | none => (text x).toList
  | some p =>
    let (num, den) := p.ratio
    let k := if num == 0 then 1 else decimalExponent num den
    let t := k - 1 - (places : Int)
    let n := roundHalfEven (num * Nat.pow 10 (-t).toNat) (den * Nat.pow 10 t.toNat)
    let (n, k) := if n == Nat.pow 10 (places + 1) then (Nat.pow 10 places, k + 1) else (n, k)
    let digits := pointed places n ++ 'e' :: exponentText (k - 1)
    if p.negative then '-' :: digits else digits

/-- A decimal text without the zeros at the end of its fraction, and without the point if none of
its digits are left. -/
def trimmed (s : List Char) : List Char :=
  if s.contains '.' then
    ((s.reverse.dropWhile (· == '0')).dropWhile (· == '.')).reverse
  else s

/-- A decimal text with a point, at its end if it has none. -/
def withPoint (s : List Char) : List Char := if s.contains '.' then s else s ++ ['.']

/-- The decimal exponent of the first digit of a finite double rounded to `count` significant
digits. -/
def roundedExponent (count : Nat) (p : Parts) : Int :=
  let (num, den) := p.ratio
  if num == 0 then 0
  else
    let k := decimalExponent num den
    let t := k - (count : Int)
    let n := roundHalfEven (num * Nat.pow 10 (-t).toNat) (den * Nat.pow 10 t.toNat)
    if n == Nat.pow 10 count then k else k - 1

/-- A change of the digits of a text in front of its exponent. -/
def onDigits (change : List Char → List Char) (s : List Char) : List Char :=
  change (s.takeWhile (· != 'e')) ++ s.dropWhile (· != 'e')

/-- A finite double with `count` significant digits, changed by `change`, in positional notation
unless the first digit has a decimal exponent below `-4` or from `count` on. -/
def significantForm (change : List Char → List Char) (count : Nat) (x : Float) : List Char :=
  let count := max count 1
  match parts? x with
  | none => (text x).toList
  | some p =>
    let e := roundedExponent count p
    if e < -4 || (count : Int) ≤ e then onDigits change (scientific (count - 1) x)
    else change (fixed ((count : Int) - 1 - e).toNat x)

/-- A finite double with at most `count` significant digits, in positional notation unless the
first digit has a decimal exponent below `-4` or from `count` on. -/
def general (count : Nat) (x : Float) : List Char := significantForm trimmed count x

/-! ### Forms that may show all digits and the point -/

/-- `fixed`, with a point in any case if `full`. -/
def fixedForm (full : Bool) (places : Nat) (x : Float) : List Char :=
  if full && x.isFinite then withPoint (fixed places x) else fixed places x

/-- `scientific`, with a point in any case if `full`. -/
def scientificForm (full : Bool) (places : Nat) (x : Float) : List Char :=
  if full && x.isFinite then onDigits withPoint (scientific places x) else scientific places x

/-- `general`, with all digits and a point if `full`. -/
def generalForm (full : Bool) (count : Nat) (x : Float) : List Char :=
  significantForm (if full then withPoint else trimmed) count x

end Worksheet.Double
