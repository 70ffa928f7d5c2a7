import Worksheet.Text.Quoted

/-!
# String literals of JSON

The characters between the quotes of a JSON string, read and written.  Reading reports the offset
of the character at which a literal breaks off: the opening quote when the end is missing, the
backslash of an unknown escape, the letter `u` of a broken code, or a bare control character.
-/

namespace Worksheet.Json

/-- The character of an escape of one letter. -/
def letterEscape? : Char → Option Char
  | '"' => some '"'
  | '\\' => some '\\'
  | '/' => some '/'
  | 'b' => some '\x08'
  | 'f' => some '\x0c'
  | 'n' => some '\n'
  | 'r' => some '\r'
  | 't' => some '\t'
  | _ => none

/-- The value of a hexadecimal digit. -/
def hexDigit? (c : Char) : Option Nat :=
  if c.isDigit then some (c.toNat - 48)
  else if 'a' ≤ c && c ≤ 'f' then some (c.toNat - 87)
  else if 'A' ≤ c && c ≤ 'F' then some (c.toNat - 55)
  else none

/-- The number that four hexadecimal digits at the head of a text denote; a further character has
to follow them. -/
def hexCode? : List Char → Option Nat
  | a :: b :: c :: d :: _ :: _ => do
    return ((((← hexDigit? a) * 16 + (← hexDigit? b)) * 16) + (← hexDigit? c)) * 16 +
      (← hexDigit? d)
  | _ => none

/-- What stands for half of a pair of codes that lacks its other half. -/
def loneHalf : Char := '\uFFFD'

/-- The character of an escape by code, whose digits start the text `s` at offset `i`, and its
length without the backslash and the letter `u`; two codes may form a pair. -/
def codeEscape (i : Nat) (s : List Char) : Except Nat (Char × Nat) :=
  match hexCode? s with
  | none => .error (i - 1)
  | some code =>
    if code < 0xD800 || 0xDFFF < code then .ok (Char.ofNat code, 4)
    else if 0xDBFF < code then .ok (loneHalf, 4)
    else
      match s.drop 4 with
      | '\\' :: 'u' :: rest =>
        match hexCode? rest with
        | none => .error (i + 5)
        | some low =>
          if 0xDC00 ≤ low && low ≤ 0xDFFF then
            .ok (Char.ofNat (0x10000 + (code - 0xD800) * 0x400 + (low - 0xDC00)), 10)
          else .ok (loneHalf, 4)
      | _ => .ok (loneHalf, 4)

/-- The character at the head of a literal's text at offset `i`, and how much of the text it takes
up; the literal starts at `start`. -/
def charAt (start i : Nat) : List Char → Except Nat (Char × Nat)
  | [] => .error start
  | ['\\'] => .error start
  | '\\' :: 'u' :: s => (codeEscape (i + 2) s).map fun (c, width) => (c, width + 2)
  | '\\' :: c :: _ =>
    match letterEscape? c with
    | some d => .ok (d, 2)
    | none => .error i
  | c :: _ => if c.toNat < 32 then .error i else .ok (c, 1)

/-- The characters of a literal from offset `i` on, after `skip` characters that belong to an
escape, and the offset behind its closing quote. -/
def stringFrom (start : Nat) : Nat → Nat → List Char → Except Nat (List Char × Nat)
  | _, _, [] => .error start
  | i, skip + 1, _ :: s => stringFrom start (i + 1) skip s
  | i, 0, c :: s =>
    if c == '"' then .ok ([], i + 1)
    else do
      let (d, width) ← charAt start i (c :: s)
      let (ds, stop) ← stringFrom start (i + 1) (width - 1) s
      return (d :: ds, stop)

/-- The form of one character inside a literal. -/
def escapeChar (c : Char) : List Char :=
  if c == '"' || c == '\\' then ['\\', c]
  else if c == '\n' then ['\\', 'n']
  else if c == '\r' then ['\\', 'r']
  else if c == '\t' then ['\\', 't']
  else if c == '\x08' then ['\\', 'b']
  else if c == '\x0c' then ['\\', 'f']
  else if c.toNat < 32 then '\\' :: 'u' :: Text.hexadecimal 4 c.toNat
  else [c]

/-- A text as a literal. -/
def literal (s : String) : String :=
  String.ofList ('"' :: s.toList.flatMap escapeChar ++ ['"'])

end Worksheet.Json
