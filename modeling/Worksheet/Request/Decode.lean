import Worksheet.Keyed
import Worksheet.Request.Issue
import Worksheet.Value.Reading

/-!
# Decoding values

Decoders turn the parts of a request into typed values.  A number may also come as a truth value or
as a numeral in a text, and an integer as a double without a fraction; nothing else changes its
kind.
-/

namespace Worksheet.Request

/-- A reading of a value as something else. -/
abbrev Decoder (α : Type) := Value → Validated α

/-! ### Plain values -/

/-- Any value. -/
def anything : Decoder Value := Validated.valid

/-- A text. -/
def text : Decoder String
  | .text s => .valid s
  | _ => .refuse .notText

/-- Nothing, or what the decoder reads. -/
def optional {α : Type} (decoder : Decoder α) : Decoder (Option α)
  | .null => .valid none
  | v => (decoder v).map some

/-- Whether a character is trimmed around numerals. -/
def isPadding (c : Char) : Bool := Text.isBlank c && !(28 ≤ c.toNat && c.toNat < 32)

/-- A text without the padding at its ends. -/
def trimPadding (s : List Char) : List Char :=
  ((s.dropWhile isPadding).reverse.dropWhile isPadding).reverse

/-- Whether single underscores, neither first nor last, stand in a text. -/
def hasInnerUnderscores : List Char → Bool
  | s => s.contains '_' && s.head? != some '_' && s.getLast? != some '_' &&
    !Text.occursIn ['_', '_'] s

/-- The double of a numeral in plain digits. -/
def plainNumeral? (s : List Char) : Option Float :=
  if s.any (fun c => c == '_' || 128 ≤ c.toNat) then none else Double.read? s

/-- The double that a text denotes in a request. -/
def numeral? (s : String) : Option Float :=
  let s := s.toList
  match plainNumeral? (trimPadding s) with
  | some x => some x
  | none => if hasInnerUnderscores s then plainNumeral? (s.filter (· != '_')) else none

/-- A double. -/
def float : Decoder Float
  | .bool b => .valid (if b then 1.0 else 0.0)
  | .number x =>
    match x.toFloat with
    | .ok x => .valid x
    | .error _ => .refuse .notNumber
  | .text s =>
    match numeral? s with
    | some x => .valid x
    | none => .refuse .unreadableNumber
  | _ => .refuse .notNumber

/-- A text without the plus sign it may start with; a minus sign must not follow that. -/
def withoutPlus? : List Char → Option (List Char)
  | '+' :: '-' :: _ => none
  | '+' :: s => some s
  | s => some s

/-- Whether a digit other than zero, or a minus sign, can start a numeral. -/
def startsNumeral (c : Char) : Bool := c == '-' || (c.isDigit && c != '0')

/-- What is left of a numeral behind zeros, and underscores among them, that it starts with; `last`
is the one before.  A numeral of zeros keeps the last character, and so does one with a point
behind the zeros. -/
def behindZeros? (last : Char) : List Char → Option (List Char)
  | [] => some [last]
  | c :: s =>
    if c == '0' || c == '_' then behindZeros? c s
    else if startsNumeral c then some (c :: s)
    else if c == '.' then some (last :: c :: s)
    else none

/-- A numeral without the zeros it starts with. -/
def withoutZeros? : List Char → Option (List Char)
  | [] => none
  | c :: s =>
    if c == '0' then behindZeros? c s
    else if startsNumeral c then some (c :: s)
    else none

/-- A text without its point and what follows it, if that is at least one zero and nothing else. -/
def withoutZeroFraction (s : List Char) : List Char :=
  let fraction := (s.dropWhile (· != '.')).drop 1
  if !fraction.isEmpty && fraction.all (· == '0') then s.takeWhile (· != '.') else s

/-- A text without underscores, if each of them stands between two digits. -/
def withoutUnderscores? (s : List Char) : Option (List Char) :=
  let parts := Text.splitWhere (· == '_') s
  if parts.length == 1 then some s
  else if parts.all fun part => (part.getLast?.map Char.isDigit).getD false then some parts.flatten
  else none

/-- The integer of a numeral in plain digits, of which only zero starts with a zero. -/
def plainInteger? (s : List Char) : Option Int :=
  let negative := s.head? == some '-'
  let digits := if negative then s.drop 1 else s
  if digits.isEmpty || !digits.all Char.isDigit || (1 < digits.length && digits.head? == some '0')
  then none
  else
    let n : Int := Text.digitsValue digits
    some (if negative then -n else n)

/-- The integer that a text denotes in a request. -/
def integerNumeral? (s : String) : Option Int := do
  let s ← withoutPlus? (trimPadding s.toList)
  let s ← withoutZeros? s
  plainInteger? (← withoutUnderscores? (withoutZeroFraction s))

/-- The integers of 64 bits with a sign are those from the opposite of this up to below it. -/
def wordBound : Int := Nat.pow 2 63

/-- The integer that a double is, between the bounds of 64 bits. -/
def integerOfDouble (x : Float) : Validated Int :=
  match Double.integer? x with
  | some n => if -wordBound < n && n < wordBound then .valid n else .refuse .tooLarge
  | none => .refuse (if x.isFinite then .fractional else .notFinite)

/-- An integer. -/
def integer : Decoder Int
  | .bool b => .valid (if b then 1 else 0)
  | .number (.int n) => .valid n
  | .number (.float x) => integerOfDouble x
  | .number (.nan _) => integerOfDouble Double.nan
  | .text s =>
    match integerNumeral? s with
    | some n => .valid n
    | none => .refuse .unreadableInteger
  | _ => .refuse .notInteger

/-- An integer of at least `bound`. -/
def integerFrom (bound : Int) : Decoder Int := fun v =>
  (integer v).check fun n => if n < bound then .refuse (.below bound) else .valid n

/-- The texts that stand for truth values. -/
def truthWords : List (String × Bool) :=
  [("0", false), ("off", false), ("f", false), ("false", false), ("n", false), ("no", false),
   ("1", true), ("on", true), ("t", true), ("true", true), ("y", true), ("yes", true)]

/-- The integer of 64 bits that a number is. -/
def wholeWord? : Number → Option Int
  | .int n => if -wordBound ≤ n && n < wordBound then some n else none
  | .float x => (Double.integer? x).filter fun n => -wordBound < n && n < wordBound
  | .nan _ => none

/-- A truth value: as such, as a word, or as zero or one. -/
def truthValue : Decoder Bool
  | .bool b => .valid b
  | .text s =>
    match truthWords.lookup (String.ofList (s.toList.map Char.toLower)) with
    | some b => .valid b
    | none => .refuse .unreadableTruthValue
  | .number x =>
    match wholeWord? x with
    | some 0 => .valid false
    | some 1 => .valid true
    | some _ => .refuse .unreadableTruthValue
    | none => .refuse .notTruthValue
  | _ => .refuse .notTruthValue

/-- One of a few named values. -/
def oneOf {α : Type} (values : List α) (name : α → String) : Decoder α := fun v =>
  match v with
  | .text s =>
    match values.find? fun a => name a == s with
    | some a => .valid a
    | none => .refuse (.notAmong (values.map name))
  | _ => .refuse (.notAmong (values.map name))

/-! ### Lists and records -/

/-- A list whose items the decoder reads. -/
def list {α : Type} (decoder : Decoder α) : Decoder (List α)
  | .list items =>
    .all ((items.zipIdx).map fun (v, i) => (decoder v).under (toString i))
  | _ => .refuse .notList

/-- A record with any keys whose entries the decoder reads. -/
def mapping {α : Type} (decoder : Decoder α) : Decoder (List (String × α))
  | .record fields =>
    .all (fields.map fun (k, v) => ((decoder v).under k).map fun a => (k, a))
  | _ => .refuse .notMapping

/-- The fields of a record. -/
abbrev Fields := List (String × Value)

/-- A record with fixed fields, read by a function on them. -/
def record {α : Type} (decode : Fields → Validated α) : Decoder α
  | .record fields => decode fields
  | _ => .refuse .notRecord

/-- A field that has to be present. -/
def Fields.required {α : Type} (fields : Fields) (name : String) (decoder : Decoder α) :
    Validated α :=
  match fields.lookup name with
  | some v => (decoder v).under name
  | none => (Validated.refuse .missing).under name

/-- A field that stands for `default` when it is absent. -/
def Fields.optional {α : Type} (fields : Fields) (name : String) (default : α)
    (decoder : Decoder α) : Validated α :=
  match fields.lookup name with
  | some v => (decoder v).under name
  | none => .valid default

/-- A record whose field `type` tells which of several shapes it has. -/
def tagged {α : Type} (shapes : List (String × (Fields → Validated α))) : Decoder α
  | .record fields =>
    match fields.lookup "type" with
    | none => .refuse .tagMissing
    | some tag =>
      let unknown := Validated.refuse (.tagUnknown tag.plainText (shapes.map (·.1)))
      match tag with
      | .text name =>
        match shapes.lookup name with
        | some decode => (decode fields).under name
        | none => unknown
      | _ => unknown
  | _ => .refuse .notTaggedRecord

end Worksheet.Request
