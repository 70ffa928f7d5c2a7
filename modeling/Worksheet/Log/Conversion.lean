import Worksheet.Double.Rounded
import Worksheet.Text.Quoted
import Worksheet.Value.Basic

/-!
# Conversions of arguments

What an argument looks like in the place where a template has put it.  A conversion says how the
argument is read and written, as a text, an integer, a double or a character; a layout says how
wide it is made, on which side it is padded, and which sign a number shows.

An argument is a value, or the arguments of a message taken together as one.
-/

namespace Worksheet.Log

/-- What goes into a template. -/
inductive Argument where
  | single (v : Value)
  /-- The arguments of a message together. -/
  | several (vs : List Value)

/-- Why a template cannot be filled in. -/
inductive TemplateFault where
  | incomplete
  | incompleteName
  | unknownLetter (c : Char) (index : Nat)
  | tooFewArguments
  | unusedArguments
  | namesExpected
  | missingName (name : String)
  /-- A list is asked for an argument by name. -/
  | listedArguments
  /-- An argument of an integer conversion that reads doubles too. -/
  | notANumber (letter : Char) (kind : String)
  /-- An argument of an integer conversion that reads integers only. -/
  | notAnInteger (letter : Char) (kind : String)
  | notAFloat (kind : String)
  | notACharacter
  | noCharacter
  /-- A code that only stands for half of a character. -/
  | halfCharacter
  | widthTooBig
  | precisionTooBig
  /-- An argument that a width or a count of digits is left to. -/
  | starNotAnInteger
  /-- An argument that a width is left to and that no word holds. -/
  | starWidthTooLarge
  /-- An argument that a count of digits is left to and that no half word holds. -/
  | starPrecisionTooLarge
  /-- An integer of more digits than can be counted. -/
  | precisionTooLarge
  | arithmetic (fault : ArithmeticFault)
  deriving DecidableEq, Repr

/-- The wording of a fault. -/
def TemplateFault.message : TemplateFault → String
  | incomplete => "incomplete format"
  | incompleteName => "incomplete format key"
  | unknownLetter c index =>
    "unsupported format character '" ++
      (if 31 ≤ c.toNat && c.toNat < 127 then c.toString else "?") ++ "' (0x" ++
      String.ofList (Nat.toDigits 16 c.toNat) ++ ") at index " ++ toString index
  | tooFewArguments => "not enough arguments for format string"
  | unusedArguments => "not all arguments converted during string formatting"
  | namesExpected => "format requires a mapping"
  | missingName name => Text.quoted name
  | listedArguments => "list indices must be integers or slices, not str"
  | notANumber letter kind =>
    "%" ++ letter.toString ++ " format: a real number is required, not " ++ kind
  | notAnInteger letter kind =>
    "%" ++ letter.toString ++ " format: an integer is required, not " ++ kind
  | notAFloat kind => "must be real number, not " ++ kind
  | notACharacter => "%c requires int or char"
  | noCharacter => "%c arg not in range(0x110000)"
  | halfCharacter => "str is not valid UTF-8: surrogates not allowed"
  | widthTooBig => "width too big"
  | precisionTooBig => "precision too big"
  | starNotAnInteger => "* wants int"
  | starWidthTooLarge => "Python int too large to convert to C ssize_t"
  | starPrecisionTooLarge => "Python int too large to convert to C int"
  | precisionTooLarge => "precision too large"
  | arithmetic fault => fault.message

/-- The name of the kind of a value. -/
def kindOf : Value → String
  | .null => "NoneType"
  | .bool _ => "bool"
  | .number (.int _) => "int"
  | .number (.float _) => "float"
  | .number (.nan _) => "float"
  | .text _ => "str"
  | .list _ => "list"
  | .record _ => "dict"

namespace Argument

/-- The name of the kind of an argument. -/
def kind : Argument → String
  | single v => kindOf v
  | several _ => "tuple"

/-- The form of an argument inside a list. -/
def written : Argument → String
  | single v => v.written
  | several [v] => "(" ++ v.written ++ ",)"
  | several vs => "(" ++ ", ".intercalate (Value.writtenItems vs) ++ ")"

/-- The text of an argument that stands alone. -/
def plainText : Argument → String
  | single v => v.plainText
  | argument => argument.written

/-- Whether an argument is nothing, false, zero or has no parts. -/
def isEmpty : Argument → Bool
  | single v => v.isEmpty
  | several vs => vs.isEmpty

end Argument

/-- How an argument is written. -/
inductive Conversion where
  | text
  /-- Texts in quotes. -/
  | quoted
  /-- Texts in quotes, with all characters that are not ASCII written by their codes. -/
  | quotedAscii
  /-- An integer, or the integer part of a double. -/
  | integer
  /-- An integer in another base, behind a mark of the base if the layout asks for one. -/
  | based (base : Nat) (mark : Char)
  | fixed
  | scientific
  | general
  | character
  deriving DecidableEq, Repr

/-- The conversions by their letters; capitals write numbers in capitals. -/
def conversions : List (Char × Conversion) :=
  [('s', .text), ('r', .quoted), ('a', .quotedAscii), ('d', .integer), ('i', .integer),
   ('u', .integer), ('x', .based 16 'x'), ('X', .based 16 'X'), ('o', .based 8 'o'), ('f', .fixed),
   ('F', .fixed), ('e', .scientific), ('E', .scientific), ('g', .general), ('G', .general),
   ('c', .character)]

/-- Whether a conversion writes a number. -/
def Conversion.isNumeric : Conversion → Bool
  | text | quoted | quotedAscii | character => false
  | _ => true

/-- How a written argument is laid out. -/
structure Layout where
  leftAligned : Bool := false
  zeroPadded : Bool := false
  showsPlus : Bool := false
  /-- Whether a number without a sign has a blank in its place. -/
  showsBlank : Bool := false
  /-- Whether an integer shows its base, and a double its point and all its digits. -/
  alternate : Bool := false
  width : Nat := 0
  precision : Option Nat := none
  deriving DecidableEq, Repr

/-- A sign and the text behind it. -/
structure Signed where
  sign : List Char
  body : List Char
  deriving DecidableEq, Repr

namespace Layout

/-- The sign that a number shows. -/
def sign (layout : Layout) (negative : Bool) : List Char :=
  if negative then ['-']
  else if layout.showsPlus then ['+']
  else if layout.showsBlank then [' ']
  else []

/-- A text, cut off where the layout says. -/
def shorten (layout : Layout) (s : List Char) : Signed :=
  ⟨[], match layout.precision with
    | some n => s.take n
    | none => s⟩

/-- A written argument padded up to the width; zeros go between a sign and its number. -/
def pad (layout : Layout) (conversion : Conversion) (s : Signed) : List Char :=
  let missing := layout.width - (s.sign.length + s.body.length)
  if layout.leftAligned then s.sign ++ s.body ++ List.replicate missing ' '
  else if layout.zeroPadded && conversion.isNumeric then
    s.sign ++ List.replicate missing '0' ++ s.body
  else List.replicate missing ' ' ++ s.sign ++ s.body

end Layout

/-! ### Reading arguments -/

/-- The integer part of a double. -/
def integerPart (x : Float) : Except TemplateFault Int :=
  match Double.floor? (Double.abs x) with
  | some n => .ok (if Double.signBit x then -n else n)
  | none => .error (.arithmetic (if x.isNaN then .nanToInteger else .infinityToInteger))

/-- The number of an argument, of which truth values are zero and one. -/
def Argument.number? : Argument → Option Number
  | single v => v.numeral?
  | several _ => none

/-- The integer of an argument that may be a double. -/
def integerOf (letter : Char) (argument : Argument) : Except TemplateFault Int :=
  match argument.number? with
  | some (.int n) => .ok n
  | some (.float x) => integerPart x
  | some (.nan _) => integerPart Double.nan
  | none => .error (.notANumber letter argument.kind)

/-- The integer of an argument that is one. -/
def exactInteger? (argument : Argument) : Option Int :=
  match argument.number? with
  | some (.int n) => some n
  | _ => none

/-- The integer of an argument that must be one. -/
def exactIntegerOf (letter : Char) (argument : Argument) : Except TemplateFault Int :=
  match exactInteger? argument with
  | some n => .ok n
  | none => .error (.notAnInteger letter argument.kind)

/-- The double of an argument. -/
def doubleOf (argument : Argument) : Except TemplateFault Float :=
  match argument.number? with
  | some n => n.toFloat.mapError .arithmetic
  | none => .error (.notAFloat argument.kind)

/-- The character of an argument: a text of one character, or a code. -/
def characterOf (argument : Argument) : Except TemplateFault Char :=
  match argument, exactInteger? argument with
  | .single (.text s), _ =>
    match s.toList with
    | [c] => .ok c
    | _ => .error .notACharacter
  | _, some n =>
    if n < 0 || 0x110000 ≤ n then .error .noCharacter
    else if 0xD800 ≤ n && n < 0xE000 then .error .halfCharacter
    else .ok (Char.ofNat n.toNat)
  | _, none => .error .notACharacter

/-! ### Writing arguments -/

/-- The count of digits behind the point, or of significant ones, unless the layout has its own. -/
def usualPrecision : Nat := 6

/-- The most digits that an integer can be asked for. -/
def mostDigits : Nat := Nat.pow 2 31 - 4

/-- An integer of at least as many digits as the layout asks for. -/
def writeInteger (layout : Layout) (mark : List Char) (base : Nat) (n : Int) :
    Except TemplateFault Signed :=
  let least := layout.precision.getD 0
  if mostDigits < least then .error .precisionTooLarge
  else
    let digits := Nat.toDigits base n.natAbs
    let zeros := List.replicate (least - digits.length) '0'
    .ok ⟨layout.sign (n < 0) ++ (if layout.alternate then mark else []), zeros ++ digits⟩

/-- A double in one of its forms, which gives the digits with a minus sign if there is one. -/
def writeDouble (layout : Layout) (form : Bool → Nat → Float → List Char) (x : Float) : Signed :=
  let digits := form layout.alternate (layout.precision.getD usualPrecision) x
  ⟨layout.sign (digits.head? == some '-'), if digits.head? == some '-' then digits.drop 1 else digits⟩

/-- An argument by a conversion, without padding. -/
def Conversion.write (conversion : Conversion) (layout : Layout) (letter : Char)
    (argument : Argument) : Except TemplateFault Signed := do
  match conversion with
  | text => return layout.shorten argument.plainText.toList
  | quoted => return layout.shorten argument.written.toList
  | quotedAscii => return layout.shorten (Text.asciiOnly argument.written.toList)
  | integer => writeInteger layout [] 10 (← integerOf letter argument)
  | based base mark => writeInteger layout ['0', mark] base (← exactIntegerOf letter argument)
  | fixed => return writeDouble layout Double.fixedForm (← doubleOf argument)
  | scientific => return writeDouble layout Double.scientificForm (← doubleOf argument)
  | general => return writeDouble layout Double.generalForm (← doubleOf argument)
  | character => return ⟨[], [← characterOf argument]⟩

/-- An argument in the form that a letter asks for. -/
def convert (conversion : Conversion) (layout : Layout) (letter : Char) (argument : Argument) :
    Except TemplateFault (List Char) := do
  let written ← conversion.write layout letter argument
  let written := if letter.isUpper then { written with body := written.body.map Char.toUpper }
    else written
  return layout.pad conversion written

end Worksheet.Log
