import Worksheet.Double.Shortest
import Worksheet.Json.Text
import Worksheet.Value.Basic

/-!
# Writing JSON

A value on one line without blanks.  Doubles show the shortest digits that read back, in positional
notation when the first digit has a decimal exponent from `-5` to `15`; exponents have a sign and no
leading zeros.  Infinite doubles and what is not a number are written as `null`.
-/

namespace Worksheet.Json

/-- The digits of a double different from zero laid out with a signed exponent. -/
def withExponent (digits : List Char) (e : Int) : List Char :=
  match digits with
  | [] => []
  | d :: rest =>
    d :: (if rest.isEmpty then [] else '.' :: rest) ++
      'e' :: (if e < 0 then '-' else '+') :: Nat.toDigits 10 e.natAbs

/-- The text of a double. -/
def doubleText (x : Float) : String :=
  match Double.parts? x with
  | none => "null"
  | some p =>
    let magnitude :=
      if p.mantissa == 0 then ['0', '.', '0']
      else
        let (digits, e) := p.shortest.significant
        if -5 ≤ e && e < 16 then Double.positional digits e else withExponent digits e
    String.ofList (if p.negative then '-' :: magnitude else magnitude)

mutual

/-- The JSON text of a value. -/
def print : Value → String
  | .null => "null"
  | .bool b => if b then "true" else "false"
  | .number (.int n) => toString n
  | .number (.float x) => doubleText x
  | .number (.nan _) => doubleText Double.nan
  | .text s => literal s
  | .list items => "[" ++ ",".intercalate (printItems items) ++ "]"
  | .record fields => "\x7b" ++ ",".intercalate (printFields fields) ++ "\x7d"

/-- The JSON texts of the items of a list. -/
def printItems : List Value → List String
  | [] => []
  | v :: vs => print v :: printItems vs

/-- The JSON texts of the fields of a record. -/
def printFields : List (String × Value) → List String
  | [] => []
  | (k, v) :: fields => (literal k ++ ":" ++ print v) :: printFields fields

end

/-! ### Integers of 64 bits -/

/-- Whether an integer fits 64 bits, with or without a sign. -/
def fitsWord (n : Int) : Bool := -Nat.pow 2 63 ≤ n && n < Nat.pow 2 64

mutual

/-- Whether all integers of a value fit 64 bits. -/
def hasWordsOnly : Value → Bool
  | .number (.int n) => fitsWord n
  | .list items => itemsHaveWordsOnly items
  | .record fields => fieldsHaveWordsOnly fields
  | _ => true

/-- Whether all integers of the items of a list fit 64 bits. -/
def itemsHaveWordsOnly : List Value → Bool
  | [] => true
  | v :: vs => hasWordsOnly v && itemsHaveWordsOnly vs

/-- Whether all integers of the fields of a record fit 64 bits. -/
def fieldsHaveWordsOnly : List (String × Value) → Bool
  | [] => true
  | (_, v) :: fields => hasWordsOnly v && fieldsHaveWordsOnly fields

end

end Worksheet.Json
