import Worksheet.Log.Conversion
import Worksheet.Text.Digit
import Worksheet.Text.Word

/-!
# Templates with percent directives

A template is text in which directives such as `%s`, `%-8s` or `%(name)05d` stand for arguments,
which are taken in order or by name.  A directive has flags, a least width, a count of digits and a
letter that names a conversion; a star leaves the width or the count to an argument of its own.
Arguments are asked for from left to right, and the first thing that is wrong is reported.
-/

namespace Worksheet.Log

/-- A width or a count of digits. -/
inductive Measure where
  | given (n : Nat)
  /-- Left to an argument, which comes ahead of the one that is written. -/
  | taken
  deriving DecidableEq, Repr

/-- A place in a template where an argument goes. -/
structure Directive where
  /-- The name of the argument, if it is taken by name. -/
  key : Option String
  /-- The layout that the flags ask for. -/
  flags : Layout
  width : Measure
  precision : Option Measure
  /-- The letter of the conversion, if the end of the template does not cut it off. -/
  letter : Option Char
  deriving DecidableEq, Repr

/-- A part of a template. -/
inductive Part where
  | plain (c : Char)
  /-- A directive whose letter stands at `index`. -/
  | directive (d : Directive) (index : Nat)
  /-- A directive whose name the end of the template cuts off. -/
  | cutOffName
  deriving DecidableEq, Repr

/-! ### Reading templates -/

/-- Whether a character is a flag of a directive. -/
def isFlag (c : Char) : Bool := c == '#' || c == '0' || c == '-' || c == ' ' || c == '+'

/-- The number at the head of a text, zero if there is none, and the rest. -/
def leadingNumber (s : List Char) : Nat × List Char :=
  ((s.takeWhile Char.isDigit).foldl (fun n c => 10 * n + (c.toNat - 48)) 0,
   s.dropWhile Char.isDigit)

/-- The text up to the parenthesis that closes the one before it, with `depth` more of them open,
and the rest behind it. -/
def enclosed? (depth : Nat) : List Char → Option (List Char × List Char)
  | [] => none
  | ')' :: s =>
    match depth with
    | 0 => some ([], s)
    | depth + 1 => (enclosed? depth s).map fun (inner, rest) => (')' :: inner, rest)
  | '(' :: s => (enclosed? (depth + 1) s).map fun (inner, rest) => ('(' :: inner, rest)
  | c :: s => (enclosed? depth s).map fun (inner, rest) => (c :: inner, rest)

/-- The name in parentheses at the head of a text, if there is one, and the rest; nothing if its
end is missing. -/
def leadingKey? : List Char → Option (Option String × List Char)
  | '(' :: s => (enclosed? 0 s).map fun (name, rest) => (some (String.ofList name), rest)
  | s => some (none, s)

/-- A text without the size letter it may start with, which says nothing. -/
def withoutSize : List Char → List Char
  | 'h' :: s => s
  | 'l' :: s => s
  | 'L' :: s => s
  | s => s

/-- The measure at the head of a text, zero if there is none, and the rest. -/
def leadingMeasure : List Char → Measure × List Char
  | '*' :: s => (.taken, s)
  | s => let (n, rest) := leadingNumber s; (.given n, rest)

/-- The count of digits behind a point at the head of a text, if there is one, and the rest. -/
def leadingPrecision : List Char → Option Measure × List Char
  | '.' :: s => let (m, rest) := leadingMeasure s; (some m, rest)
  | s => (none, s)

/-- The layout that flags ask for. -/
def layoutOf (flags : List Char) : Layout :=
  { leftAligned := flags.contains '-', zeroPadded := flags.contains '0'
    showsPlus := flags.contains '+', showsBlank := flags.contains ' '
    alternate := flags.contains '#' }

/-- The part that starts behind a percent sign at `index`, and its length. -/
def partAt (index : Nat) (s : List Char) : Part × Nat :=
  match leadingKey? s with
  | none => (.cutOffName, s.length)
  | some (key, rest) =>
    let flags := layoutOf (rest.takeWhile isFlag)
    let (width, rest) := leadingMeasure (rest.dropWhile isFlag)
    let (precision, rest) := leadingPrecision rest
    let rest := withoutSize rest
    let length := s.length - (rest.length - 1)
    (.directive ⟨key, flags, width, precision, rest.head?⟩ (index + length), length)

/-- The parts of a template from `index` on, after `skip` characters that belong to a directive. -/
def partsFrom : Nat → Nat → List Char → List Part
  | _, _, [] => []
  | index, skip + 1, _ :: s => partsFrom (index + 1) skip s
  | index, 0, '%' :: '%' :: s => .plain '%' :: partsFrom (index + 1) 1 ('%' :: s)
  | index, 0, '%' :: s =>
    let (part, width) := partAt index s
    part :: partsFrom (index + 1) width s
  | index, 0, c :: s => .plain c :: partsFrom (index + 1) 0 s

/-- The parts of a template. -/
def partsOf (template : String) : List Part := partsFrom 0 0 template.toList

/-! ### Filling templates in -/

/-- How the arguments of a template are asked for by name. -/
inductive Names where
  /-- They have no names. -/
  | absent
  | given (fields : List (String × Argument))
  /-- They are the items of a list, which has places in the place of names. -/
  | listed

/-- Whether arguments without names may be left over. -/
def Names.mayLeaveSome : Names → Bool
  | absent => false
  | _ => true

/-- The arguments of a template. -/
structure Arguments where
  /-- Those taken in order. -/
  inOrder : List Argument
  names : Names := .absent

/-- A single value as the arguments of a template. -/
def Arguments.ofValue (v : Value) : Arguments where
  inOrder := [.single v]
  names := match v with
    | .record fields => .given (fields.map fun (name, v) => (name, .single v))
    | .list _ => .listed
    | _ => .absent

/-- An argument as the arguments of a template. -/
def Arguments.ofArgument : Argument → Arguments
  | .single v => .ofValue v
  | .several vs => { inOrder := vs.map .single }

/-- The argument with a name. -/
def Names.find (names : Names) (key : String) : Except TemplateFault Argument :=
  match names with
  | absent => .error .namesExpected
  | listed => .error .listedArguments
  | given fields =>
    match fields.lookup key with
    | some argument => .ok argument
    | none => .error (.missingName key)

/-- The argument that is next in order, and those behind it. -/
def nextArgument : List Argument → Except TemplateFault (Argument × List Argument)
  | [] => .error .tooFewArguments
  | argument :: rest => .ok (argument, rest)

/-- A count that a template may give, or leave to an argument. -/
structure Limit where
  /-- Counts stay below this. -/
  bound : Nat
  /-- The fault of a count in the template. -/
  ofGiven : TemplateFault
  /-- The fault of a count in an argument. -/
  ofTaken : TemplateFault

/-- The limit of widths. -/
def widthLimit : Limit := ⟨Nat.pow 2 63, .widthTooBig, .starWidthTooLarge⟩

/-- The limit of counts of digits. -/
def precisionLimit : Limit := ⟨Nat.pow 2 31, .precisionTooBig, .starPrecisionTooLarge⟩

/-- The number of a measure, and the arguments left. -/
def Measure.number (limit : Limit) (inOrder : List Argument) :
    Measure → Except TemplateFault (Int × List Argument)
  | given n => if n < limit.bound then .ok (n, inOrder) else .error limit.ofGiven
  | taken => do
    let (argument, rest) ← nextArgument inOrder
    match exactInteger? argument with
    | none => throw .starNotAnInteger
    | some n =>
      if -(limit.bound : Int) ≤ n && n < limit.bound then return (n, rest) else throw limit.ofTaken

/-- The layout of a directive, and the arguments left: a width below zero aligns to the left, and a
count below zero is zero.  The least of all widths has no opposite and counts as none. -/
def Directive.layout (d : Directive) (inOrder : List Argument) :
    Except TemplateFault (Layout × List Argument) := do
  let (width, rest) ← d.width.number widthLimit inOrder
  let layout := { d.flags with
    width := width.natAbs % widthLimit.bound, leftAligned := d.flags.leftAligned || width < 0 }
  match d.precision with
  | none => return (layout, rest)
  | some measure =>
    let (count, rest) ← measure.number precisionLimit rest
    return ({ layout with precision := some count.toNat }, rest)

/-- What a directive takes its arguments from: one that names an argument, from that one alone. -/
def Directive.arguments (d : Directive) (names : Names) (inOrder : List Argument) :
    Except TemplateFault (List Argument) :=
  match d.key with
  | some key => (fun argument => [argument]) <$> names.find key
  | none => .ok inOrder

/-- An argument in the place of a directive, and the arguments left. -/
def Directive.write (d : Directive) (index : Nat) (inOrder : List Argument) :
    Except TemplateFault (List Char × List Argument) := do
  let (layout, rest) ← d.layout inOrder
  match d.letter with
  | none => throw .incomplete
  | some letter =>
    let (argument, rest) ← nextArgument rest
    match conversions.lookup letter with
    | some conversion => return (← convert conversion layout letter argument, rest)
    | none => throw (.unknownLetter letter index)

/-- The parts of a template with arguments in their places. -/
def fillParts (names : Names) :
    List Argument → List Part → Except TemplateFault (List Char)
  | rest, [] => if names.mayLeaveSome || rest.isEmpty then .ok [] else .error .unusedArguments
  | inOrder, .plain c :: parts => do return c :: (← fillParts names inOrder parts)
  | _, .cutOffName :: _ => .error (if names.mayLeaveSome then .incompleteName else .namesExpected)
  | inOrder, .directive d index :: parts => do
    let (written, rest) ← d.write index (← d.arguments names inOrder)
    return written ++ (← fillParts names rest parts)

/-- A template with arguments in their places. -/
def fill (template : String) (arguments : Arguments) : Except TemplateFault String := do
  return String.ofList (← fillParts arguments.names arguments.inOrder (partsOf template))

/-! ### Templates that name arguments -/

/-- The letters of directives that may take their argument by name, and the letters that are the
same in another case. -/
def namedLetters : List Char :=
  ['d', 'i', 'o', 'u', 'x', 'e', 'f', 'g', 'c', 'r', 's', 'a', '%', 'İ', 'ı', 'ſ']

/-- Whether a letter, in either case, may end a directive that takes its argument by name. -/
def endsNamed (c : Char) : Bool := namedLetters.contains c.toLower

/-- What follows a width, or the star that stands for one, at the head of a text. -/
def afterWidth : List Char → List Char
  | '*' :: s => s
  | s => s.dropWhile Text.isDecimalDigit

/-- What follows a point with a count of digits at the head of a text. -/
def afterPrecision : List Char → List Char
  | '.' :: c :: s =>
    if c == '*' || Text.isDecimalDigit c then afterWidth (c :: s) else '.' :: c :: s
  | s => s

/-- Whether a text starts with a directive that takes its argument by name. -/
def startsNamed : List Char → Bool
  | '%' :: '(' :: s =>
    match s.dropWhile Text.isWordChar with
    | ')' :: rest =>
      let tail := afterPrecision (afterWidth (rest.dropWhile isFlag))
      s.head? != some ')' && (tail.head?.map endsNamed).getD false
    | _ => false
  | _ => false

/-- Whether a directive that takes its argument by name stands in a text. -/
def namesSome : List Char → Bool
  | [] => false
  | c :: s => startsNamed (c :: s) || namesSome s

/-- Whether some directive of a template takes its argument by name. -/
def hasNamedDirective (template : String) : Bool := namesSome template.toList

end Worksheet.Log
