import Worksheet.Text.Digit
import Worksheet.Double.Basic

/-!
# Reading a double

A numeral is an optional sign and then either one of the words `inf`, `infinity` and `nan` in any
case, or digits with an optional point and an optional exponent.  Digits of any script count, and
single underscores may stand between two digits.  The value is the nearest double; what is too
large becomes infinite.
-/

namespace Worksheet.Double

open Worksheet.Text

/-- The digits at the head of a text, and what follows them; an underscore between two digits is
passed over. -/
def digitRun : List Char → List Nat × List Char
  | [] => ([], [])
  | c :: cs =>
    match digitValue? c with
    | none => ([], c :: cs)
    | some d =>
      match cs with
      | '_' :: c' :: cs' =>
        match digitValue? c' with
        | some _ =>
          let (ds, rest) := digitRun (c' :: cs')
          (d :: ds, rest)
        | none => ([d], '_' :: c' :: cs')
      | cs =>
        let (ds, rest) := digitRun cs
        (d :: ds, rest)

/-- The number with the given decimal digits, most significant first. -/
def ofDigits (ds : List Nat) : Nat := ds.foldl (10 * · + ·) 0

/-- The sign at the head of a text, `true` for minus, and what follows it. -/
def signed : List Char → Bool × List Char
  | '-' :: cs => (true, cs)
  | '+' :: cs => (false, cs)
  | cs => (false, cs)

/-- The exponent at the head of a text, zero if there is none, and what follows it. -/
def exponentPart (cs : List Char) : Int × List Char :=
  match cs with
  | c :: rest =>
    if c == 'e' || c == 'E' then
      let (negative, rest) := signed rest
      match digitRun rest with
      | ([], _) => (0, cs)
      | (ds, rest) => (if negative then -(ofDigits ds : Int) else ofDigits ds, rest)
    else (0, cs)
  | [] => (0, cs)

/-- The double nearest to `± digits · 10 ^ e`. -/
def ofDecimal (negative : Bool) (digits : Nat) (e : Int) : Float :=
  let size := ((Nat.toDigits 10 digits).length : Int) + e
  if digits == 0 || size < -330 then ofRatio negative 0 1
  else if 320 < size then (if negative then -infinity else infinity)
  else ofRatio negative (digits * Nat.pow 10 e.toNat) (Nat.pow 10 (-e).toNat)

/-- The value of an unsigned decimal numeral that takes up the whole text. -/
def decimal? (negative : Bool) (cs : List Char) : Option Float :=
  let (whole, rest) := digitRun cs
  let (fraction, rest) := match rest with
    | '.' :: rest => digitRun rest
    | rest => ([], rest)
  let (e, rest) := exponentPart rest
  if (whole ++ fraction).isEmpty || !rest.isEmpty then none
  else some (ofDecimal negative (ofDigits (whole ++ fraction)) (e - fraction.length))

/-- The double that a numeral without surrounding blanks denotes. -/
def read? (cs : List Char) : Option Float :=
  let (negative, rest) := signed cs
  let word := String.ofList (rest.map Char.toLower)
  if word == "inf" || word == "infinity" then some (if negative then -infinity else infinity)
  else if word == "nan" then some nan
  else decimal? negative rest

end Worksheet.Double
