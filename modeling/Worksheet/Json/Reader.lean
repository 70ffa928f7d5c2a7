import Worksheet.Double.Reading
import Worksheet.Json.Text
import Worksheet.Keyed
import Worksheet.Value.Basic

/-!
# Reading JSON

A JSON text denotes a value: a number without point and exponent is an integer, every other number
a double, and an object a record in which the last of several equal keys counts.  The words `NaN`,
`Infinity` and `-Infinity` are numbers too.  A text that denotes nothing is refused at the offset
of the first character that cannot continue it.
-/

namespace Worksheet.Json

/-- Whether a character may stand between the parts of a JSON text. -/
def isSpace (c : Char) : Bool := c == ' ' || c == '\t' || c == '\n' || c == '\r'

/-- An array or object whose next member is being read; what is complete stands latest first. -/
inductive Frame where
  | array (items : List Value)
  | field (fields : List (String × Value)) (key : String)

/-- What may come next. -/
inductive Focus where
  | value
  /-- The first item of an array, or its end. -/
  | firstItem
  /-- The first key of an object, or its end. -/
  | firstKey
  | key (fields : List (String × Value))
  | colon (fields : List (String × Value)) (key : String)
  | done (v : Value)

/-- The state of the reader. -/
structure Reader where
  focus : Focus
  frames : List Frame

/-- The length of the ASCII digits at the head of a text. -/
def plainDigits (s : List Char) : Nat := (s.takeWhile Char.isDigit).length

/-- The length of the whole part of a number: a zero, or digits that do not start with zero. -/
def wholeWidth : List Char → Nat
  | '0' :: _ => 1
  | s => plainDigits s

/-- The length of a point with digits at the head of a text. -/
def pointWidth : List Char → Nat
  | '.' :: s => if plainDigits s == 0 then 0 else 1 + plainDigits s
  | _ => 0

/-- The length of an exponent at the head of a text. -/
def powerWidth : List Char → Nat
  | c :: s =>
    if c == 'e' || c == 'E' then
      let sign := match s with
        | '+' :: _ => 1
        | '-' :: _ => 1
        | _ => 0
      match plainDigits (s.drop sign) with
      | 0 => 0
      | n + 1 => 1 + sign + (n + 1)
    else 0
  | [] => 0

/-- The number at the head of a text, and its length. -/
def number? (s : List Char) : Option (Value × Nat) :=
  let sign := if s.head? == some '-' then 1 else 0
  match wholeWidth (s.drop sign) with
  | 0 => none
  | n + 1 =>
    let whole := sign + (n + 1)
    let point := pointWidth (s.drop whole)
    let power := powerWidth (s.drop (whole + point))
    let width := whole + point + power
    let text := s.take width
    if point + power == 0 then
      let magnitude : Int := Text.digitsValue text
      some (.int (if sign == 1 then -magnitude else magnitude), width)
    else (Double.read? text).map fun x => (.float x, width)

/-- The words that are values. -/
def words : List (String × Value) :=
  [("null", .null), ("true", .bool true), ("false", .bool false), ("NaN", .number (.nan 0)),
   ("Infinity", .float Double.infinity), ("-Infinity", .float (-Double.infinity))]

/-- The word at the head of a text, and its length. -/
def word? (s : List Char) : Option (Value × Nat) :=
  (words.find? fun word => word.1.toList.isPrefixOf s).map fun word => (word.2, word.1.length)

/-- The state after the start of a value at offset `i`, and the number of characters it takes. -/
def startValue (frames : List Frame) (i : Nat) (s : List Char) : Except Nat (Reader × Nat) :=
  match s with
  | '"' :: rest => do
    let (text, stop) ← stringFrom i (i + 1) 0 rest
    return (⟨.done (.text (String.ofList text)), frames⟩, stop - i)
  | '[' :: _ => .ok (⟨.firstItem, frames⟩, 1)
  | '\x7b' :: _ => .ok (⟨.firstKey, frames⟩, 1)
  | s =>
    match word? s, number? s with
    | some (v, width), _ => .ok (⟨.done v, frames⟩, width)
    | none, some (v, width) => .ok (⟨.done v, frames⟩, width)
    | none, none => .error i

/-- The state after the start of a key at offset `i`, and the number of characters it takes. -/
def startKey (frames : List Frame) (fields : List (String × Value)) (i : Nat) (s : List Char) :
    Except Nat (Reader × Nat) :=
  match s with
  | '"' :: rest => do
    let (text, stop) ← stringFrom i (i + 1) 0 rest
    return (⟨.colon fields (String.ofList text), frames⟩, stop - i)
  | _ => .error i

/-- The state after a character that follows a complete value. -/
def afterValue (frames : List Frame) (v : Value) (i : Nat) (c : Char) : Except Nat Reader :=
  match frames, c with
  | .array items :: frames, ',' => .ok ⟨.value, .array (v :: items) :: frames⟩
  | .array items :: frames, ']' => .ok ⟨.done (.list (v :: items).reverse), frames⟩
  | .field fields key :: frames, ',' => .ok ⟨.key ((key, v) :: fields), frames⟩
  | .field fields key :: frames, '\x7d' =>
    .ok ⟨.done (.record (Keyed.ofPairs ((key, v) :: fields).reverse)), frames⟩
  | _, _ => .error i

/-- The state after what starts at offset `i`, and the number of characters that takes. -/
def Reader.step (r : Reader) (i : Nat) (c : Char) (s : List Char) : Except Nat (Reader × Nat) :=
  match r.focus with
  | .value => startValue r.frames i (c :: s)
  | .firstItem =>
    if c == ']' then .ok (⟨.done (.list []), r.frames⟩, 1)
    else startValue (.array [] :: r.frames) i (c :: s)
  | .firstKey =>
    if c == '\x7d' then .ok (⟨.done (.record []), r.frames⟩, 1)
    else startKey r.frames [] i (c :: s)
  | .key fields => startKey r.frames fields i (c :: s)
  | .colon fields key =>
    if c == ':' then .ok (⟨.value, .field fields key :: r.frames⟩, 1) else .error i
  | .done v => return (← afterValue r.frames v i c, 1)

/-- Reads on at offset `i`, after `skip` characters that have been dealt with. -/
def Reader.run (r : Reader) (i : Nat) : Nat → List Char → Except Nat Value
  | _, [] =>
    match r.focus, r.frames with
    | .done v, [] => .ok v
    | _, _ => .error i
  | skip + 1, _ :: s => r.run (i + 1) skip s
  | 0, c :: s =>
    if isSpace c then r.run (i + 1) 0 s
    else
      match r.step i c s with
      | .ok (next, width) => next.run (i + 1) (width - 1) s
      | .error offset => .error offset

/-- The value that a JSON text denotes, or the offset at which it is refused. -/
def read (text : String) : Except Nat Value := Reader.run ⟨.value, []⟩ 0 0 text.toList

end Worksheet.Json
