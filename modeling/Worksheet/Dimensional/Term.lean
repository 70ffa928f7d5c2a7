import Worksheet.Dimensional.Token

/-!
# Terms over quantities

A term is a sum, difference, product, quotient or negation of names and decimals.  The reader is a
stack of unfinished terms: a product binds more tightly than a sum, a negation more tightly than a
product, and equal operators group to the left.  A token sequence that is no term is refused as a
whole.  As for expressions, the depth of a term is not limited.
-/

namespace Worksheet.Dimensional

/-- Operators between two terms. -/
inductive Op where
  | add | sub | mul | div
  deriving DecidableEq, Repr

/-- A formula over quantities. -/
inductive Term where
  | name (text : String)
  | number (text : List Char)
  | neg (a : Term)
  | binary (op : Op) (a b : Term)
  deriving DecidableEq, Repr

/-- How tightly an operator binds: products more tightly than sums. -/
def Op.level : Op → Nat
  | add | sub => 1
  | mul | div => 2

/-- The operator that a sign stands for. -/
def Sign.op? : Sign → Option Op
  | plus => some .add
  | minus => some .sub
  | star => some .mul
  | slash => some .div
  | _ => none

/-- An unfinished term that waits for what stands on its right. -/
inductive Frame where
  | neg
  | binary (op : Op) (left : Term)
  | group
  deriving DecidableEq, Repr

/-- Closes the frames that bind at least as tightly as `level`. -/
def unwind (level : Nat) : List Frame → Term → List Frame × Term
  | .neg :: frames, a => unwind level frames (.neg a)
  | .binary op left :: frames, a =>
    if level ≤ op.level then unwind level frames (.binary op left a)
    else (.binary op left :: frames, a)
  | frames, a => (frames, a)

/-- The state of the reader: the term just completed, if one is, and the open frames. -/
structure Reader where
  complete : Option Term
  frames : List Frame
  deriving DecidableEq, Repr

/-- The state after a token where an operand is expected. -/
def startOperand (frames : List Frame) : Token → Option Reader
  | .name text => some ⟨some (.name (String.ofList text)), frames⟩
  | .number text => some ⟨some (.number text), frames⟩
  | .sign .minus => some ⟨none, .neg :: frames⟩
  | .sign .openParen => some ⟨none, .group :: frames⟩
  | .sign _ => none

/-- The state after a token behind a complete term. -/
def continueWith (frames : List Frame) (a : Term) : Token → Option Reader
  | .sign .closeParen =>
    match unwind 0 frames a with
    | (.group :: frames, a) => some ⟨some a, frames⟩
    | _ => none
  | .sign s =>
    s.op?.map fun op =>
      let (frames, a) := unwind op.level frames a
      ⟨none, .binary op a :: frames⟩
  | _ => none

/-- The state after a token, `none` if it cannot stand there. -/
def Reader.step (r : Reader) (token : Token) : Option Reader :=
  match r.complete with
  | none => startOperand r.frames token
  | some a => continueWith r.frames a token

/-- The term that is complete at the end. -/
def Reader.finish? (r : Reader) : Option Term :=
  r.complete.bind fun a =>
    match unwind 0 r.frames a with
    | ([], a) => some a
    | _ => none

/-- The term that a token sequence denotes as a whole. -/
def parse? (tokens : List Token) : Option Term :=
  (tokens.foldlM Reader.step ⟨none, []⟩).bind Reader.finish?

end Worksheet.Dimensional
