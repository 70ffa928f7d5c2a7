import Worksheet.Double.Functions
import Worksheet.Double.Sum
import Worksheet.Formula.Fault

/-!
# Functions

The functions that a formula may call.  All arguments are values; a function that computes with
doubles reads them as numbers from left to right and names itself when one cannot be read.  Names
are case-sensitive: choices and lookups are written in capitals, mathematics and logic in small
letters.
-/

namespace Worksheet.Formula

/-- A function: how few and how many arguments it takes, and its value. -/
structure Function where
  fewest : Nat
  most : Option Nat
  apply : List Value → Outcome Value

/-- Whether a function takes a count of arguments. -/
def Function.accepts (f : Function) (count : Nat) : Bool :=
  f.fewest ≤ count && (match f.most with
    | some most => count ≤ most
    | none => true)

/-! ### Choices and lookups -/

/-- The first value whose condition holds; a value without condition at the end is the default. -/
def firstHolding : List Value → Outcome Value
  | [] => .error (.formula .noConditionHolds)
  | [default] => .ok default
  | condition :: value :: rest => if condition.isTrue then .ok value else firstHolding rest

/-- The value of `IFS`. -/
def chooseFirst : List Value → Outcome Value
  | [] => .error (.formula .noConditions)
  | arguments => firstHolding arguments

/-- The value at the first key that matches; a value without key at the end is the default. -/
def firstMatching (subject : Value) : List Value → Value
  | [] => .null
  | [default] => default
  | key :: value :: rest => if subject.matches? key then value else firstMatching subject rest

/-- The value of `SWITCH`. -/
def chooseMatching : List Value → Outcome Value
  | subject :: key :: value :: rest => .ok (firstMatching subject (key :: value :: rest))
  | _ => .error (.formula .tooFewCases)

/-- The entry of `results` beside the first key that matches. -/
def lookupIn (subject : Value) : List Value → List Value → Option Value
  | [], _ => none
  | key :: keys, results =>
    if key.matches? subject then some (results.head?.getD .null)
    else lookupIn subject keys results.tail

/-- The value of `XLOOKUP`. -/
def lookup : List Value → Outcome Value
  | subject :: .list keys :: .list results :: default =>
    .ok ((lookupIn subject keys results).getD (default.head?.getD .null))
  | _ => .error (.formula .columnsExpected)

/-- The value of `IF`. -/
def choose : List Value → Outcome Value
  | condition :: ifTrue :: rest =>
    .ok (if condition.isTrue then ifTrue else rest.head?.getD .null)
  | _ => .ok .null

/-! ### Functions on truth values -/

/-- A connective of two truth values. -/
def connective (op : Bool → Bool → Bool) : Function where
  fewest := 2
  most := some 2
  apply
    | [a, b] => .ok (.bool (op a.isTrue b.isTrue))
    | _ => .ok .null

/-- The negation of a truth value. -/
def negation : Function where
  fewest := 1
  most := some 1
  apply
    | [a] => .ok (.bool (!a.isTrue))
    | _ => .ok .null

/-! ### Functions on doubles -/

/-- A function of one double. -/
def ofUnary (name : String) (f : Float → Float) : Function where
  fewest := 1
  most := some 1
  apply
    | [a] => do return .float (f (← argument name a))
    | _ => .ok .null

/-- A function of two doubles. -/
def ofBinary (name : String) (f : Float → Float → Except ArithmeticFault Float) : Function where
  fewest := 2
  most := some 2
  apply
    | [a, b] => do
      let x ← argument name a
      let y ← argument name b
      return .float (← liftArithmetic (f x y))
    | _ => .ok .null

/-- The power of two values. -/
def power : Function := ofBinary "pow" fun x y => .ok (Double.power x y)

/-- The remainder of two values. -/
def modulo : Function := ofBinary "mod" Double.modulo

/-- The value rounded to whole numbers or to a count of places. -/
def round : Function where
  fewest := 1
  most := some 2
  apply
    | a :: rest => do
      let x ← argument "round" a
      let places ← argument "round" (rest.head?.getD (.int 0))
      return .float (← liftArithmetic (Double.roundTo x places))
    | [] => .ok .null

/-- The natural logarithm, or the logarithm in a base unless that is nothing. -/
def logarithm : Function where
  fewest := 1
  most := some 2
  apply
    | a :: rest =>
      match rest.head?.getD .null with
      | .null => do return .float (Double.ln (← argument "log" a))
      | base => do
        let x ← argument "log" a
        let b ← argument "log" base
        return .float (← liftArithmetic (Double.logBase x b))
    | [] => .ok .null

/-- The arguments with the members of lists in the place of the lists. -/
def flatten (arguments : List Value) : List Value :=
  arguments.flatMap fun
    | .list items => items
    | v => [v]

/-- A function of any number of doubles, at least one. -/
def extremum (name : String) (best? : List Float → Option Float) : Function where
  fewest := 0
  most := none
  apply arguments := do
    let xs ← (flatten arguments).mapM (argument name)
    match best? xs with
    | some x => return .float x
    | none => .error (.formula (.noValues name))

/-! ### The table -/

/-- The functions that take truth values. -/
def logicalFunctions : List (String × Function) :=
  [("and", connective (· && ·)), ("or", connective (· || ·)), ("xor", connective (· != ·)),
   ("not", negation)]

/-- The choices and lookups. -/
def choiceFunctions : List (String × Function) :=
  [("IF", ⟨2, some 3, choose⟩), ("IFS", ⟨0, none, chooseFirst⟩),
   ("SWITCH", ⟨0, none, chooseMatching⟩), ("XLOOKUP", ⟨3, some 4, lookup⟩)]

/-- The functions of one double. -/
def elementary : List (String × (Float → Float)) :=
  [("sqrt", Float.sqrt), ("cbrt", Double.cubeRoot), ("abs", Double.abs), ("ceil", Double.ceil),
   ("floor", Double.floor), ("trunc", Double.truncate), ("sign", Double.sign),
   ("log2", Double.onPositive Float.log2), ("log10", Double.onPositive Float.log10),
   ("exp", Float.exp), ("sin", Float.sin), ("cos", Float.cos), ("tan", Float.tan),
   ("asin", Float.asin), ("acos", Float.acos), ("atan", Float.atan)]

/-- The functions that compute with doubles. -/
def numericFunctions : List (String × Function) :=
  elementary.map (fun (name, f) => (name, ofUnary name f)) ++
  [("pow", power), ("mod", modulo), ("round", round), ("log", logarithm),
   ("atan2", ofBinary "atan2" fun y x => .ok (Float.atan2 y x)),
   ("min", extremum "min" Double.least?), ("max", extremum "max" Double.greatest?)]

/-- All functions by name. -/
def functions : List (String × Function) := choiceFunctions ++ numericFunctions ++ logicalFunctions

/-- The function with a name. -/
def function? (name : String) : Option Function := functions.lookup name

/-! ### Known words -/

/-- The symbols that have a value without being bound. -/
def constants : List (String × Value) :=
  [("pi", .float Double.pi), ("e", .float Double.euler)]

/-- Whether a word means something by itself in every formula. -/
def isKnownWord (word : String) : Bool :=
  (function? word).isSome || (constants.lookup word).isSome ||
    word == "true" || word == "false" || word == "null"

end Worksheet.Formula
