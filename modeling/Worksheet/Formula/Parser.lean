import Worksheet.Double.Reading
import Worksheet.Formula.Expr
import Worksheet.Formula.SyntaxFault

/-!
# Reading a formula

The reader keeps a stack of frames, each an unfinished expression that waits for the operand on
its right, and a focus: what has just been read and what may follow.  A lexeme either starts an
operand or continues a complete one.  An operator first closes every frame that binds at least as
tightly as it does, then opens a frame of its own:

* `? :` binds least, then `or`, `xor`, `and`, `not`, the comparisons, `+ -`, `* / %`, the signs and
  `^`;
* all operators of two operands group to the left, except `^`, whose right operand may be signed;
* the branches of `? :` may be any expression.

The word `not` is a negation only where the frames admit one; behind an arithmetic operator or a
sign it is a name like others.  Expressions stand within each other to any depth: the limit that an
interpreter sets to recursion is left out.
-/

namespace Worksheet.Formula

/-! ### Binding strength -/

/-- How tightly an operator binds. -/
def BinaryOp.level : BinaryOp → Nat
  | or => 1
  | xor => 2
  | and => 3
  | equal | notEqual | less | greater | atMost | atLeast => 5
  | add | sub => 6
  | mul | div | mod => 7
  | pow => 9
  | other _ => 10

/-- The least level that the left operand of an operator may have: `^` takes an operand that needs
no parentheses anywhere. -/
def BinaryOp.leftLevel : BinaryOp → Nat
  | pow => 10
  | op => op.level

/-- How tightly an operator in front of its operand binds. -/
def UnaryOp.level : UnaryOp → Nat
  | not => 4
  | _ => 8

/-! ### Frames -/

/-- An unfinished expression that waits for what stands on its right. -/
inductive Frame where
  | unary (op : UnaryOp)
  | binary (op : BinaryOp) (left : Expr)
  /-- An open parenthesis. -/
  | group
  /-- A call with the arguments read so far. -/
  | call (name : String) (arguments : List Expr)
  /-- A condition whose first branch is being read. -/
  | choice (condition : Expr)
  /-- A condition and its first branch; the second branch is being read. -/
  | alternative (condition ifTrue : Expr)

/-- Closes the frames that bind at least as tightly as `level`, around the expression that has been
read last. -/
def unwind (level : Nat) : List Frame → Expr → List Frame × Expr
  | .unary op :: frames, e =>
    if level ≤ op.level then unwind level frames (.unary op e) else (.unary op :: frames, e)
  | .binary op left :: frames, e =>
    if level ≤ op.level then unwind level frames (.binary op left e)
    else (.binary op left :: frames, e)
  | .alternative condition ifTrue :: frames, e =>
    if level == 0 then unwind level frames (.conditional condition ifTrue e)
    else (.alternative condition ifTrue :: frames, e)
  | frames, e => (frames, e)

/-- Whether a negation may start behind these frames. -/
def admitsNegation : List Frame → Bool
  | .unary op :: _ => op == .not
  | .binary op _ :: _ => op == .or || op == .xor || op == .and
  | _ => true

/-! ### The reader -/

/-- What has just been read. -/
inductive Focus where
  /-- An operand has to follow. -/
  | operand
  /-- A name, which an open parenthesis makes the name of a call. -/
  | named (name : String)
  /-- A complete operand. -/
  | complete (e : Expr)

/-- The state of the reader. -/
structure Reader where
  focus : Focus
  frames : List Frame

/-- The state before the first lexeme. -/
def Reader.start : Reader := ⟨.operand, []⟩

/-- The value of a number: an integer when it is written without point and exponent and is in the
range of doubles. -/
def numberValue (text : List Char) : Value :=
  let x := (Double.read? text).getD 0
  if text.any fun c => c == '.' || c == 'e' || c == 'E' then .float x
  else
    match Double.integer? x with
    | some n => .int n
    | none => .float x

/-- The text between the quotes of a string literal. -/
def stringValue (text : List Char) : Value := .text (String.ofList (text.drop 1).dropLast)

/-- The operator between two operands that a terminal stands for. -/
def Terminal.binary? : Terminal → Option BinaryOp
  | .plus => some .add
  | .minus => some .sub
  | .star => some .mul
  | .slash => some .div
  | .percent => some .mod
  | .caret => some .pow
  | .equal => some .equal
  | .notEqual => some .notEqual
  | .less => some .less
  | .greater => some .greater
  | .atMost => some .atMost
  | .atLeast => some .atLeast
  | .and => some .and
  | .or => some .or
  | .xor => some .xor
  | _ => none

/-- The state after a lexeme where an operand is expected, `none` if it cannot stand there. -/
def startOperand (frames : List Frame) (lexeme : Lexeme) : Option Reader :=
  match lexeme.terminal with
  | .number => some ⟨.complete (.literal (numberValue lexeme.text)), frames⟩
  | .string => some ⟨.complete (.literal (stringValue lexeme.text)), frames⟩
  | .true => some ⟨.complete (.literal (.bool true)), frames⟩
  | .false => some ⟨.complete (.literal (.bool false)), frames⟩
  | .null => some ⟨.complete (.literal .null), frames⟩
  | .name => some ⟨.named (String.ofList lexeme.text), frames⟩
  | .minus => some ⟨.operand, .unary .neg :: frames⟩
  | .plus => some ⟨.operand, .unary .plus :: frames⟩
  | .not => some ⟨.operand, .unary .not :: frames⟩
  | .openParen => some ⟨.operand, .group :: frames⟩
  | .closeParen =>
    match frames with
    | .call name [] :: frames => some ⟨.complete (.call name []), frames⟩
    | _ => none
  | _ => none

/-- The state after a parenthesis is closed behind a complete expression. -/
def closeParen (frames : List Frame) (e : Expr) : Option Reader :=
  match unwind 0 frames e with
  | (.group :: frames, e) => some ⟨.complete e, frames⟩
  | (.call name arguments :: frames, e) => some ⟨.complete (.call name (arguments ++ [e])), frames⟩
  | _ => none

/-- The state after a comma behind a complete expression. -/
def nextArgument (frames : List Frame) (e : Expr) : Option Reader :=
  match unwind 0 frames e with
  | (.call name arguments :: frames, e) => some ⟨.operand, .call name (arguments ++ [e]) :: frames⟩
  | _ => none

/-- The state after a colon behind a complete expression. -/
def nextBranch (frames : List Frame) (e : Expr) : Option Reader :=
  match unwind 0 frames e with
  | (.choice condition :: frames, e) => some ⟨.operand, .alternative condition e :: frames⟩
  | _ => none

/-- The state after a lexeme behind a complete expression, `none` if it cannot stand there. -/
def continueWith (frames : List Frame) (e : Expr) (lexeme : Lexeme) : Option Reader :=
  match lexeme.terminal.binary? with
  | some op =>
    let (frames, e) := unwind op.leftLevel frames e
    some ⟨.operand, .binary op e :: frames⟩
  | none =>
    match lexeme.terminal with
    | .question =>
      let (frames, e) := unwind BinaryOp.or.level frames e
      some ⟨.operand, .choice e :: frames⟩
    | .colon => nextBranch frames e
    | .comma => nextArgument frames e
    | .closeParen => closeParen frames e
    | _ => none

/-- The state after a lexeme, `none` if it cannot stand there. -/
def Reader.step (r : Reader) (lexeme : Lexeme) : Option Reader :=
  match r.focus with
  | .operand => startOperand r.frames lexeme
  | .named name =>
    if lexeme.terminal == .openParen then some ⟨.operand, .call name [] :: r.frames⟩
    else continueWith r.frames (.symbol name) lexeme
  | .complete e => continueWith r.frames e lexeme

/-- The lexeme at the head of a text, as the reader's state has it. -/
def Reader.lexeme? (r : Reader) (s : List Char) : Option Lexeme :=
  match r.focus with
  | .operand => operandLexeme? (admitsNegation r.frames) s
  | _ => operatorLexeme? s

/-- The expression that is complete at the end of the text. -/
def Reader.finish? (r : Reader) : Option Expr :=
  let closed := fun e => match unwind 0 r.frames e with
    | ([], e) => some e
    | _ => none
  match r.focus with
  | .operand => none
  | .named name => closed (.symbol name)
  | .complete e => closed e

/-- Reads on at `position`, after `skip` characters that belong to the last lexeme, which starts at
`last`. -/
def Reader.run (r : Reader) (last position : Position) : Nat → List Char → Except SyntaxFault Expr
  | _, [] =>
    match r.finish? with
    | some e => .ok e
    | none => .error (.unexpectedEnd last)
  | skip + 1, c :: s => r.run last (position.after c) skip s
  | 0, c :: s =>
    if isLayout c then r.run last (position.after c) 0 s
    else
      match r.lexeme? (c :: s) with
      | none => .error (.noLexeme c position)
      | some lexeme =>
        match r.step lexeme with
        | none => .error (.unexpected lexeme position)
        | some next => next.run position (position.after c) (lexeme.text.length - 1) s

/-- The expression that a formula denotes. -/
def parse (formula : String) : Except SyntaxFault Expr :=
  Reader.start.run {} {} 0 formula.toList

end Worksheet.Formula
