import Worksheet.Text.Blank
import Worksheet.Double.Reading
import Worksheet.Value.Basic

/-!
# Reading values as numbers

Three readings of a value as a number stand beside each other.  Formulas read nothing and blank
text as zero and refuse other text.  A cell that enters a row's scope turns into a number when its
text is a numeral.  Aggregates and filters have no reading for nothing and for text that is no
numeral.
-/

namespace Worksheet

/-- Why a value cannot be read as a number. -/
inductive NotNumeric where
  | text (s : String)
  | list
  | record
  deriving DecidableEq, Repr

/-- The wording of a failed reading. -/
def NotNumeric.message : NotNumeric → String
  | text s => "Cannot convert \"" ++ s ++ "\" to a number"
  | list => "Cannot convert list to a number"
  | record => "Cannot convert dict to a number"

namespace Value

/-- The double that a text denotes when blanks around it are dropped; blank text has none. -/
def numeralOf? (s : String) : Option Float := Double.read? (Text.trimChars s.toList)

/-- The reading of formulas: nothing and blank text are zero, truth values 0 and 1. -/
def toNumber : Value → Except NotNumeric Number
  | null => .ok (.float 0.0)
  | bool b => .ok (.float (if b then 1.0 else 0.0))
  | number x => .ok x
  | text s =>
    if Text.isBlankText s then .ok (.float 0.0)
    else
      match numeralOf? s with
      | some x => .ok (.float x)
      | none => .error (.text s)
  | list _ => .error .list
  | record _ => .error .record

/-- The reading of a cell that enters a scope: a text that is a numeral becomes a number, all else
stays as it is. -/
def ofCell : Value → Value
  | text s => if Text.isBlankText s then text s else
    match numeralOf? s with
    | some x => float x
    | none => text s
  | v => v

/-- The double unless it is not a number. -/
def actualNumber? (x : Float) : Option Float := if x.isNaN then none else some x

/-- The reading of aggregates: blank text is zero; nothing, other text, lists, records and what is
not a number have none. -/
def numericReading : Value → Except ArithmeticFault (Option Float)
  | null => .ok none
  | bool b => .ok (some (if b then 1.0 else 0.0))
  | number x => return actualNumber? (← x.toFloat)
  | text s =>
    .ok (if Text.isBlankText s then some 0.0 else (numeralOf? s).bind actualNumber?)
  | list _ => .ok none
  | record _ => .ok none

end Value

end Worksheet
