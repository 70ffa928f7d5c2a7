/-!
# Faults of arithmetic

The ways in which an operation on numbers has no result.  They are kept apart from the faults of a
formula: a row or a node turns both into a message, an aggregate lets them through.
-/

namespace Worksheet

/-- Why an arithmetic operation has no result. -/
inductive ArithmeticFault where
  /-- An integer lies outside the range of doubles. -/
  | integerTooLarge
  /-- The quotient of two integers lies outside the range of doubles. -/
  | quotientTooLarge
  /-- An infinite number has no integer part. -/
  | infinityToInteger
  /-- What is not a number has no integer part. -/
  | nanToInteger
  /-- A double is divided by zero. -/
  | divisionByZero
  /-- A partial sum lies outside the range of doubles. -/
  | sumOverflow
  /-- The sum of both infinities. -/
  | oppositeInfinities
  deriving DecidableEq, Repr

/-- The wording of an arithmetic fault. -/
def ArithmeticFault.message : ArithmeticFault → String
  | integerTooLarge => "int too large to convert to float"
  | quotientTooLarge => "integer division result too large for a float"
  | infinityToInteger => "cannot convert float infinity to integer"
  | nanToInteger => "cannot convert float NaN to integer"
  | divisionByZero => "float division by zero"
  | sumOverflow => "intermediate overflow in fsum"
  | oppositeInfinities => "-inf + inf in fsum"

end Worksheet
