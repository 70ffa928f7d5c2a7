import Worksheet.CompoundUnit.Basic
import Worksheet.Keyed

/-!
# The text of a compound unit

Equal tokens are grouped where the first of them stands; a group of two or three is written with a
raised digit, a longer one with a caret.  Groups are joined by a middle dot and the denominator
follows one slash.
-/

namespace Worksheet.CompoundUnit

/-- A token with its exponent. -/
def powerText (token : String) (count : Nat) : String :=
  match count with
  | 1 => token
  | 2 => token ++ "²"
  | 3 => token ++ "³"
  | n => token ++ "^" ++ toString n

/-- The text of one side of a unit. -/
def sideText (tokens : List String) : String :=
  "·".intercalate ((Keyed.distinct tokens).map fun t => powerText t (tokens.count t))

/-- The text of a unit. -/
def text (u : CompoundUnit) : String :=
  let numerator := sideText u.numerator
  let denominator := sideText u.denominator
  if denominator.isEmpty then (if numerator.isEmpty then "unitless" else numerator)
  else if numerator.isEmpty then "1/" ++ denominator
  else numerator ++ "/" ++ denominator

end Worksheet.CompoundUnit
