import Worksheet.Value.Reading

/-!
# Faults of evaluation

A formula that reads well may still have no value.  The causes that belong to the language stand
apart from the faults of arithmetic, which pass through an evaluation unchanged.
-/

namespace Worksheet.Formula

/-- Why a formula has no value, as the language sees it. -/
inductive FormulaFault where
  | undefinedSymbol (name : String)
  | undefinedFunction (name : String)
  | argumentCount (function : String)
  /-- An operand that is no number, of an operator or of the named function. -/
  | notNumeric (function : Option String) (cause : NotNumeric)
  | noConditions
  | noConditionHolds
  | tooFewCases
  | columnsExpected
  | noValues (function : String)
  | unknownBinary (symbol : String)
  | unknownUnary (symbol : String)
  deriving DecidableEq, Repr

/-- The wording of a fault of the language. -/
def FormulaFault.message : FormulaFault → String
  | undefinedSymbol name => "Undefined symbol " ++ name
  | undefinedFunction name => "Undefined function " ++ name
  | argumentCount function => "Wrong number of arguments in function " ++ function
  | notNumeric none cause => cause.message
  | notNumeric (some function) cause => function ++ ": " ++ cause.message
  | noConditions => "IFS requires pairs of (condition, value)"
  | noConditionHolds => "IFS: No condition matched"
  | tooFewCases => "SWITCH requires at least (value, case, result)"
  | columnsExpected => "XLOOKUP: lookup and return columns must be arrays"
  | noValues function => function ++ ": no values"
  | unknownBinary symbol => "Unknown operator: " ++ symbol
  | unknownUnary symbol => "Unknown unary operator: " ++ symbol

/-- Why an evaluation has no value. -/
inductive EvalFault where
  | formula (fault : FormulaFault)
  | arithmetic (fault : ArithmeticFault)
  deriving DecidableEq, Repr

/-- The wording of a fault of evaluation. -/
def EvalFault.message : EvalFault → String
  | formula fault => fault.message
  | arithmetic fault => fault.message

/-- The result of an evaluation. -/
abbrev Outcome := Except EvalFault

/-- An arithmetic result as a result of evaluation. -/
def liftArithmetic {α : Type} (result : Except ArithmeticFault α) : Outcome α :=
  result.mapError .arithmetic

/-- The number that an operand denotes, where `function` names the function that asks for it. -/
def numeric (function : Option String) (v : Value) : Outcome Number :=
  v.toNumber.mapError fun cause => .formula (.notNumeric function cause)

/-- The double that an argument of a function denotes. -/
def argument (function : String) (v : Value) : Outcome Float := do
  liftArithmetic (← numeric (some function) v).toFloat

end Worksheet.Formula
