import Worksheet.Log.Calendar
import Worksheet.Text.Case

/-!
# Date patterns

A pattern is text in which fields such as `%Y`, `%-d` or `%10A` stand for parts of a moment.  A
field has flags, a least width, perhaps the letter `E` or `O` for another way of writing, and a
letter for the part.  Flags choose the padding (`_` blanks, `0` zeros, `-` none for numbers) and the
case (`^` capitals, `#` the other case).  A field that means nothing is text.
-/

namespace Worksheet.Log

/-- A field of a pattern. -/
structure DateField where
  /-- The last flag that chooses the padding. -/
  padding : Option Char
  capitals : Bool
  otherCase : Bool
  width : Nat
  /-- The letter for another way of writing. -/
  way : Option Char
  /-- The letter of the part, if the pattern does not end before it. -/
  letter : Option Char
  /-- The field as it stands in the pattern. -/
  source : List Char
  deriving DecidableEq, Repr

/-- What a letter stands for. -/
inductive DatePart where
  /-- A word that may change its case. -/
  | word (s : String)
  /-- The half of the day, which small letters can be asked for. -/
  | halfDay (s : String)
  /-- A text that keeps its case. -/
  | fixed (s : String)
  /-- The name of the time zone, which is not padded when padding is turned off. -/
  | zone (s : String)
  /-- A number of at least some digits. -/
  | number (digits : Nat) (n : Int)
  /-- A number padded with blanks. -/
  | blankNumber (n : Int)
  /-- The distance from universal time, in hours and minutes. -/
  | offset (n : Int)
  /-- What another pattern stands for. -/
  | pattern (s : String)
  deriving DecidableEq, Repr

/-! ### Reading patterns -/

/-- Whether a character is a flag of a field. -/
def isDateFlag (c : Char) : Bool := c == '_' || c == '-' || c == '0' || c == '^' || c == '#'

/-- The field behind a percent sign and the rest of the pattern. -/
def dateFieldAt (s : List Char) : DateField × List Char :=
  let flags := s.takeWhile isDateFlag
  let rest := s.dropWhile isDateFlag
  let digits := rest.takeWhile Char.isDigit
  let rest := rest.dropWhile Char.isDigit
  let way := rest.head?.filter fun c => c == 'E' || c == 'O'
  let rest := if way.isSome then rest.drop 1 else rest
  ({ padding := (flags.filter fun c => c != '^' && c != '#').getLast?
     capitals := flags.contains '^'
     otherCase := flags.contains '#'
     width := digits.foldl (fun n c => 10 * n + (c.toNat - 48)) 0
     way
     letter := rest.head?
     source := '%' :: s.take (s.length - (rest.length - 1)) },
   rest.drop 1)

/-! ### Parts of a moment -/

/-- The letters that do not allow a way of writing. -/
def lettersWithout (way : Char) : List Char :=
  if way == 'E' then
    ['a', 'A', 'b', 'h', 'B', 'D', 'd', 'e', 'F', 'g', 'G', 'H', 'I', 'j', 'k', 'l', 'M', 'm', 'S',
     'U', 'V', 'W', 'w']
  else ['a', 'A', 'c', 'D', 'F', 'x', 'X', 'Y']

/-- What a letter stands for. -/
def Moment.part? (t : Moment) (letter : Char) : Option DatePart :=
  match letter with
  | '%' => some (.fixed "%")
  | 'n' => some (.fixed "\n")
  | 't' => some (.fixed "\t")
  | 'a' => some (.word (t.weekdayName.take 3).toString)
  | 'A' => some (.word t.weekdayName)
  | 'b' => some (.word (t.monthName.take 3).toString)
  | 'h' => some (.word (t.monthName.take 3).toString)
  | 'B' => some (.word t.monthName)
  | 'p' => some (.halfDay t.half)
  | 'P' => some (.fixed (String.ofList (t.half.toList.map Char.toLower)))
  | 'Z' => some (.zone "GMT")
  | 'z' => some (.offset 0)
  | 's' => some (.fixed (toString t.seconds))
  | 'Y' => some (.number 1 t.year)
  | 'y' => some (.number 2 (Int.emod t.year 100))
  | 'C' => some (.number 1 (Int.fdiv t.year 100))
  | 'G' => some (.number 1 t.weekOfYear.1)
  | 'g' => some (.number 2 (Int.emod t.weekOfYear.1 100))
  | 'V' => some (.number 2 t.weekOfYear.2)
  | 'U' => some (.number 2 (t.week t.weekday))
  | 'W' => some (.number 2 (t.week t.sinceMonday))
  | 'u' => some (.number 1 (t.sinceMonday + 1))
  | 'w' => some (.number 1 t.weekday)
  | 'j' => some (.number 3 t.yearDay)
  | 'm' => some (.number 2 t.month)
  | 'd' => some (.number 2 t.day)
  | 'e' => some (.blankNumber t.day)
  | 'H' => some (.number 2 t.hour)
  | 'k' => some (.blankNumber t.hour)
  | 'I' => some (.number 2 t.clockHour)
  | 'l' => some (.blankNumber t.clockHour)
  | 'M' => some (.number 2 t.minute)
  | 'S' => some (.number 2 t.second)
  | 'c' => some (.pattern "%a %b %e %H:%M:%S %Y")
  | 'x' => some (.pattern "%m/%d/%y")
  | 'D' => some (.pattern "%m/%d/%y")
  | 'F' => some (.pattern "%Y-%m-%d")
  | 'X' => some (.pattern "%H:%M:%S")
  | 'T' => some (.pattern "%H:%M:%S")
  | 'R' => some (.pattern "%H:%M")
  | 'r' => some (.pattern "%I:%M:%S %p")
  | _ => none

/-- What a field stands for, unless it is text. -/
def Moment.partOf? (t : Moment) (field : DateField) : Option DatePart := do
  let letter ← field.letter
  let part ← t.part? letter
  match field.way with
  | none => return part
  | some way => if (lettersWithout way).contains letter then none else return part

/-! ### Writing fields -/

namespace DateField

/-- A text padded on the left up to the width. -/
def pad (field : DateField) (s : List Char) : List Char :=
  List.replicate (field.width - s.length) (if field.padding == some '0' then '0' else ' ') ++ s

/-- A number of at least `digits` digits, padded with zeros or, if `blank`, with blanks, unless the
flags say otherwise. -/
def writeNumber (field : DateField) (digits : Nat) (blank : Bool) (n : Int) : List Char :=
  let sign := if n < 0 then ['-'] else []
  let shown := Nat.toDigits 10 n.natAbs
  let missing := max digits field.width - (sign.length + shown.length)
  if field.padding == some '-' then field.pad (sign ++ shown)
  else if field.padding == some '_' || (blank && field.padding != some '0') then
    List.replicate missing ' ' ++ sign ++ shown
  else sign ++ List.replicate missing '0' ++ shown

/-- The capital of a character that has one of one character. -/
def capital (c : Char) : Char :=
  match (Text.upper c.toString).toList with
  | [u] => u
  | _ => c

/-- Capitals if the field asks for them. -/
def inCase (capitals : Bool) (s : List Char) : List Char :=
  if capitals then s.map capital else s

/-- A field that means nothing, as text; names of months change their case even then. -/
def asText (field : DateField) : List Char :=
  let isMonth := field.letter == some 'b' || field.letter == some 'h'
  field.pad (inCase (field.capitals || (field.otherCase && isMonth)) field.source)

/-- The text of a part that needs no other pattern. -/
def write (field : DateField) : DatePart → List Char
  | .word s => field.pad (inCase (field.capitals || field.otherCase) s.toList)
  | .halfDay s => field.pad (if field.otherCase then s.toList.map Char.toLower else s.toList)
  | .fixed s => field.pad s.toList
  | .zone s => if field.padding == some '-' then s.toList else field.pad s.toList
  | .number digits n => field.writeNumber digits false n
  | .blankNumber n => field.writeNumber 2 true n
  | .offset n => field.pad [if n < 0 then '-' else '+'] ++ field.writeNumber 4 false n.natAbs
  | .pattern _ => []

end DateField

/-- The pieces of a text by a pattern that is read for at most `fuel` steps, where `inner` writes
the patterns of parts; nothing if a field is wider than `limit`. -/
def Moment.writePieces (t : Moment) (limit : Nat) (inner : String → List Char) :
    Nat → List Char → Option (List Char)
  | 0, _ => some []
  | _, [] => some []
  | fuel + 1, '%' :: s =>
    let (field, rest) := dateFieldAt s
    if limit ≤ field.width then none
    else
      let written := match t.partOf? field with
        | none => field.asText
        | some (.pattern p) => DateField.inCase field.capitals (field.pad (inner p))
        | some part => field.write part
      (t.writePieces limit inner fuel rest).map (written ++ ·)
  | fuel + 1, c :: s => (t.writePieces limit inner fuel s).map (c :: ·)

/-- The text of a moment by the pattern of a part. -/
def Moment.formatPart (t : Moment) (pattern : String) : List Char :=
  (t.writePieces 1 (fun _ => []) pattern.length pattern.toList).getD []

/-- The length that a text by a pattern of `length` characters stays below: the first of 1024, 2048,
4096, … from 256 characters for each of the pattern on. -/
def roomFor (length : Nat) : Nat := 1024 * Nat.pow 2 (Nat.log2 (2 * ((length + 3) / 4) - 1))

/-- The text of a moment by a pattern; empty if it is too long. -/
def Moment.format (t : Moment) (pattern : String) : Except TimeFault String :=
  let room := roomFor pattern.length
  if pattern.toList.contains '\x00' then .error .nullInPattern
  else
    match t.writePieces room t.formatPart pattern.length pattern.toList with
    | none => .ok ""
    | some s => .ok (if s.length < room then String.ofList s else "")

end Worksheet.Log
