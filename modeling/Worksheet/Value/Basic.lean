import Worksheet.Number.Basic
import Worksheet.Text.Quoted

/-!
# Values

The values of cells, scopes and formula results: nothing, a truth value, a number, a text, a list
or a record with ordered fields.  `Value.written` is the form in which lists and records show
their members; `Value.text` is the form in which comparisons as text see a value.  Integers are
written with all their digits, and lists and records stand within each other to any depth: the
limits that an interpreter sets to either are left out.
-/

namespace Worksheet

/-- A value of a cell or a formula. -/
inductive Value where
  | null
  | bool (b : Bool)
  | number (x : Number)
  | text (s : String)
  | list (items : List Value)
  | record (fields : List (String × Value))

/-- Values a formula may look up by name. -/
abbrev Scope := String → Option Value

namespace Value

/-- An integer value. -/
abbrev int (n : Int) : Value := number (.int n)

/-- A double value. -/
abbrev float (x : Float) : Value := number (.float x)

instance : Inhabited Value := ⟨null⟩

mutual

/-- The form of a value inside a list or a record. -/
def written : Value → String
  | null => "None"
  | bool b => if b then "True" else "False"
  | number x => x.text
  | text s => Text.quoted s
  | list items => "[" ++ ", ".intercalate (writtenItems items) ++ "]"
  | record fields => "\x7b" ++ ", ".intercalate (writtenFields fields) ++ "\x7d"

/-- The forms of the members of a list. -/
def writtenItems : List Value → List String
  | [] => []
  | v :: vs => written v :: writtenItems vs

/-- The forms of the fields of a record. -/
def writtenFields : List (String × Value) → List String
  | [] => []
  | (k, v) :: fields => (Text.quoted k ++ ": " ++ written v) :: writtenFields fields

end

/-- The text of a value that stands alone: a text without quotes, all else as inside a list. -/
def plainText : Value → String
  | text s => s
  | v => v.written

/-- The text of a value in comparisons: an integral double shows no point. -/
def toText : Value → String
  | null => "null"
  | bool b => if b then "true" else "false"
  | number (.int n) => toString n
  | number (.float x) =>
    match Double.integer? x with
    | some n => toString n
    | none => Double.text x
  | number (.nan _) => Double.text Double.nan
  | text s => s
  | v => v.written

/-- Whether a condition holds: not for nothing, false, zero, not a number and what is empty. -/
def isTrue : Value → Bool
  | null => false
  | bool b => b
  | number (.int n) => n != 0
  | number (.float x) => !(x == 0 || x.isNaN)
  | number (.nan _) => false
  | text s => !s.isEmpty
  | list items => !items.isEmpty
  | record fields => !fields.isEmpty

/-- Whether a value is nothing, false, zero or has no parts. -/
def isEmpty : Value → Bool
  | null => true
  | bool b => !b
  | number x => x.isZero
  | text s => s.isEmpty
  | list items => items.isEmpty
  | record fields => fields.isEmpty

/-- A truth value or a number, as a number. -/
def numeral? : Value → Option Number
  | bool b => some (.int (if b then 1 else 0))
  | number x => some x
  | _ => none

mutual

/-- Equality of members of lists and records: truth values are the numbers 0 and 1, numbers compare
by exact value, what is not a number is known by its occurrence, and the order of a record's fields
does not matter. -/
def alike : Value → Value → Bool
  | null, null => true
  | bool a, b =>
    match b.numeral? with
    | some y => Number.alike (.int (if a then 1 else 0)) y
    | none => false
  | number x, b =>
    match b.numeral? with
    | some y => Number.alike x y
    | none => false
  | text s, text t => s == t
  | list xs, list ys => alikeItems xs ys
  | record fs, record gs => fs.length == gs.length && alikeFields fs gs
  | _, _ => false

/-- Equality of lists, member by member. -/
def alikeItems : List Value → List Value → Bool
  | [], [] => true
  | x :: xs, y :: ys => alike x y && alikeItems xs ys
  | _, _ => false

/-- Whether every field of the first record has an equal field in the second. -/
def alikeFields : List (String × Value) → List (String × Value) → Bool
  | [], _ => true
  | (k, v) :: fs, gs =>
    (match gs.lookup k with
    | some w => alike v w
    | none => false) && alikeFields fs gs

end

/-- Equality by content: as for members of lists, except that what is not a number equals
nothing. -/
def same (a b : Value) : Bool :=
  match a.numeral?, b.numeral? with
  | some x, some y => Number.equal x y
  | _, _ => alike a b

/-- Whether a value is a list or a record. -/
def isCompound : Value → Bool
  | list _ => true
  | record _ => true
  | _ => false

/-- The equality of lookups: equal by content, or, between plain values, equal as text. -/
def matches? (a b : Value) : Bool :=
  same a b || (!a.isCompound && !b.isCompound && a.toText == b.toText)

end Value

end Worksheet
