import Worksheet.Double.Rounded
import Worksheet.Quantity.Basic

/-!
# Display of numbers and quantities

A displayed number has a limited count of digits after the point and no trailing zeros.
Magnitudes below a ten-thousandth show five significant digits and an exponent instead.  A
quantity shows its number and, unless it is unitless, its unit.
-/

namespace Worksheet

/-- The count of digits after the point that a quantity shows at most. -/
def Quantity.displayDigits : Nat := 10

/-- The displayed text of a double with at most `digits` digits after the point. -/
def Double.display (digits : Nat) (x : Float) : String :=
  if x.isNaN then "NaN"
  else if x.isInf then (if Double.signBit x then "-Infinity" else "Infinity")
  else if x == 0 then "0"
  else if Double.abs x < 1e-4 then String.ofList (Double.scientific 4 x)
  else
    let text := String.ofList (Double.trimmed (Double.fixed digits x))
    if text == "-0" then "0" else text

/-- The displayed text of a quantity. -/
def Quantity.text (q : Quantity) : String :=
  let number := Double.display Quantity.displayDigits q.number
  if q.unit.isUnitless then number else number ++ " " ++ q.unit.text

end Worksheet
