import Worksheet.Double.Basic

/-!
# The shortest decimal text of a double

Among the decimals that read back as a given double, the text shows one with the fewest digits,
and of those the nearest to the double, or the even one of two that are equally near.  For `n = 1, 2, …` digits only the two neighbours of the
value on the grid of `n`-digit decimals can read back, so it is enough to test them.

The layout is a separate decision: positional when the first digit has a decimal exponent from
`-4` to `15`, and always with a point; otherwise one digit before the point and an exponent of at
least two digits.
-/

namespace Worksheet.Double

/-- The decimal `digits · 10 ^ exponent`. -/
structure Decimal where
  digits : Nat
  exponent : Int
  deriving DecidableEq, Repr

/-- The order of `a · 2 ^ p` against `b · 10 ^ t`. -/
def compareScaled (a : Nat) (p : Int) (b : Nat) (t : Int) : Ordering :=
  compare (a * Nat.pow 2 p.toNat * Nat.pow 10 (-t).toNat)
    (b * Nat.pow 10 t.toNat * Nat.pow 2 (-p).toNat)

/-- The decimal exponent above a positive quotient: `10 ^ (k - 1) ≤ num / den < 10 ^ k`, for
quotients of at least `10 ^ (-330)`. -/
def decimalExponent (num den : Nat) : Int :=
  ((Nat.toDigits 10 (num * Nat.pow 10 330 / den)).length : Int) - 330

/-- The bounds of the decimals that read back as a positive double, as multiples of a quarter of
its last place: the half-way points to its neighbours, of which the lower one is nearer below a
power of two. -/
def Parts.roundingBounds (p : Parts) : Nat × Nat :=
  (if p.mantissa == Nat.pow 2 52 && -1074 < p.exponent then 4 * p.mantissa - 1 else 4 * p.mantissa - 2,
   4 * p.mantissa + 2)

/-- Whether the decimal `digits · 10 ^ t` reads back as the double with these parts: the ends of
the interval belong to it when the significand is even. -/
def Parts.readsBack (p : Parts) (digits : Nat) (t : Int) : Bool :=
  let (low, high) := p.roundingBounds
  let below := compareScaled low (p.exponent - 2) digits t
  let above := compareScaled high (p.exponent - 2) digits t
  if p.mantissa % 2 == 0 then below != .gt && above != .lt else below == .lt && above == .gt

/-- The nearest decimal on the grid of `10 ^ t` that reads back, if one does. -/
def Parts.onGrid? (p : Parts) (t : Int) : Option Nat :=
  let (num, den) := p.ratio
  let num := num * Nat.pow 10 (-t).toNat
  let den := den * Nat.pow 10 t.toNat
  let low := num / den
  let high := low + 1
  match p.readsBack low t, p.readsBack high t with
  | false, false => none
  | true, false => some low
  | false, true => some high
  | true, true => some (roundHalfEven num den)

/-- The first grid of at least `n` digits with a decimal that reads back, tried for `fuel` counts
of digits. -/
def Parts.search (p : Parts) (k : Int) : Nat → Nat → Decimal
  | 0, n => ⟨p.ratio.1 * Nat.pow 10 (n - k.toNat) / p.ratio.2, k - n⟩
  | fuel + 1, n =>
    match p.onGrid? (k - n) with
    | some digits => ⟨digits, k - n⟩
    | none => p.search k fuel (n + 1)

/-- The shortest decimal that reads back as a finite double different from zero. -/
def Parts.shortest (p : Parts) : Decimal :=
  p.search (decimalExponent p.ratio.1 p.ratio.2) 17 1

/-- The digits of a decimal without trailing zeros, and the decimal exponent of the first one. -/
def Decimal.significant (d : Decimal) : List Char × Int :=
  let cs := Nat.toDigits 10 d.digits
  let kept := (cs.reverse.dropWhile (· == '0')).reverse
  (kept, (cs.length : Int) - 1 + d.exponent)

/-- An exponent with its sign and at least two digits. -/
def exponentText (e : Int) : List Char :=
  let digits := Nat.toDigits 10 e.natAbs
  (if e < 0 then '-' else '+') :: (if digits.length < 2 then '0' :: digits else digits)

/-- Digits laid out in positional notation, the first one at decimal exponent `e`. -/
def positional (digits : List Char) (e : Int) : List Char :=
  if e < 0 then '0' :: '.' :: List.replicate (-e - 1).toNat '0' ++ digits
  else
    let whole := e.toNat + 1
    let padded := digits ++ List.replicate (whole - digits.length) '0'
    let rest := padded.drop whole
    padded.take whole ++ '.' :: (if rest.isEmpty then ['0'] else rest)

/-- Digits laid out with an exponent. -/
def scientificLayout (digits : List Char) (e : Int) : List Char :=
  match digits with
  | [] => []
  | d :: rest => d :: (if rest.isEmpty then [] else '.' :: rest) ++ 'e' :: exponentText e

/-- The shortest text that reads back as the double. -/
def text (x : Float) : String :=
  match parts? x with
  | none => if x.isNaN then "nan" else if signBit x then "-inf" else "inf"
  | some p =>
    let magnitude :=
      if p.mantissa == 0 then ['0', '.', '0']
      else
        let (digits, e) := p.shortest.significant
        if -4 ≤ e && e < 16 then positional digits e else scientificLayout digits e
    String.ofList (if p.negative then '-' :: magnitude else magnitude)

end Worksheet.Double
