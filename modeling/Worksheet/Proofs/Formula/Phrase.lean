import Worksheet.Formula.Parser
import Worksheet.Proofs.Text.Numeral

/-!
# Formulas as they are written

A phrase is an expression as it is written: its numbers and texts with their spelling, and with
parentheses.  Every phrase is of one kind, and every place in a phrase takes a least kind: an
operand of a looser kind fits there in parentheses only.  `Phrase.grouped` writes exactly the
parentheses that are needed, and `Phrase.Fits` says that at least those are there.
-/

namespace Worksheet.Formula

open Worksheet.Text

/-! ### Kinds of expressions -/

/-- The kinds of expressions, from the loosest to the tightest. -/
inductive Kind where
  | conditional | or | xor | and | not | comparison | additive | multiplicative | sign | power | atom
  deriving DecidableEq, Repr

/-- The place of a kind in the order of kinds. -/
def Kind.level : Kind → Nat
  | conditional => 0
  | or => 1
  | xor => 2
  | and => 3
  | not => 4
  | comparison => 5
  | additive => 6
  | multiplicative => 7
  | sign => 8
  | power => 9
  | atom => 10

lemma Kind.level_le_atom (k : Kind) : k.level ≤ Kind.atom.level := by cases k <;> decide

/-- The next tighter kind. -/
def Kind.next : Kind → Kind
  | conditional => or
  | or => xor
  | xor => and
  | and => not
  | not => comparison
  | comparison => additive
  | additive => multiplicative
  | multiplicative => sign
  | sign => power
  | power => atom
  | atom => atom

/-- The kind of what an operator makes of two operands. -/
def BinaryOp.kind : BinaryOp → Kind
  | or => .or
  | xor => .xor
  | and => .and
  | equal | notEqual | less | greater | atMost | atLeast => .comparison
  | add | sub => .additive
  | mul | div | mod => .multiplicative
  | pow => .power
  | other _ => .atom

/-- The least kind of a left operand: operators group to the left, but the base of a power is an
atom. -/
def BinaryOp.leftKind : BinaryOp → Kind
  | pow => .atom
  | op => op.kind

/-- The least kind of a right operand: the next tighter one, but an exponent may be signed. -/
def BinaryOp.rightKind : BinaryOp → Kind
  | pow => .sign
  | op => op.kind.next

/-- The kind of what an operator makes of the operand behind it, and the least kind of that
operand. -/
def UnaryOp.kind : UnaryOp → Kind
  | not => .not
  | _ => .sign

/-! ### Phrases -/

/-- An expression as it is written. -/
inductive Phrase where
  | number (text : List Char)
  | string (quote : Char) (content : List Char)
  | truth (b : Bool)
  | null
  | symbol (name : List Char)
  | call (name : List Char) (arguments : List Phrase)
  | unary (op : UnaryOp) (operand : Phrase)
  | binary (op : BinaryOp) (left right : Phrase)
  | conditional (condition ifTrue ifFalse : Phrase)
  /-- A phrase in parentheses. -/
  | group (inner : Phrase)

namespace Phrase

/-- Induction on phrases; the arguments of a call are covered as members of a list. -/
@[induction_eliminator]
theorem induction {motive : Phrase → Prop} (number : ∀ text, motive (number text))
    (string : ∀ quote content, motive (string quote content)) (truth : ∀ b, motive (truth b))
    (null : motive null) (symbol : ∀ name, motive (symbol name))
    (call : ∀ name arguments, (∀ a ∈ arguments, motive a) → motive (call name arguments))
    (unary : ∀ op a, motive a → motive (unary op a))
    (binary : ∀ op a b, motive a → motive b → motive (binary op a b))
    (conditional : ∀ c a b, motive c → motive a → motive b → motive (conditional c a b))
    (group : ∀ a, motive a → motive (group a)) (a : Phrase) : motive a :=
  @Phrase.rec motive (fun arguments => ∀ a ∈ arguments, motive a)
    number string truth null symbol call unary binary conditional group
    (fun _ ha => absurd ha List.not_mem_nil)
    (fun _ _ ha harguments => List.forall_mem_cons.2 ⟨ha, harguments⟩) a

/-- The kind of a phrase. -/
def kind : Phrase → Kind
  | unary op _ => op.kind
  | binary op _ _ => op.kind
  | conditional _ _ _ => .conditional
  | _ => .atom

mutual

/-- The expression that a phrase stands for. -/
def expr : Phrase → Expr
  | number text => .literal (numberValue text)
  | string _ content => .literal (.text (String.ofList content))
  | truth b => .literal (.bool b)
  | null => .literal .null
  | symbol name => .symbol (String.ofList name)
  | call name arguments => .call (String.ofList name) (exprs arguments)
  | unary op a => .unary op a.expr
  | binary op a b => .binary op a.expr b.expr
  | conditional c a b => .conditional c.expr a.expr b.expr
  | group a => a.expr

/-- The expressions of arguments. -/
def exprs : List Phrase → List Expr
  | [] => []
  | a :: arguments => a.expr :: exprs arguments

end

mutual

/-- A phrase without its parentheses. -/
def bare : Phrase → Phrase
  | call name arguments => call name (bareAll arguments)
  | unary op a => unary op a.bare
  | binary op a b => binary op a.bare b.bare
  | conditional c a b => conditional c.bare a.bare b.bare
  | group a => a.bare
  | number text => number text
  | string quote content => string quote content
  | truth b => truth b
  | null => null
  | symbol name => symbol name

/-- Arguments without their parentheses. -/
def bareAll : List Phrase → List Phrase
  | [] => []
  | a :: arguments => a.bare :: bareAll arguments

end

/-- A phrase where a kind is expected: in parentheses if its own is looser. -/
def within (k : Kind) (a : Phrase) : Phrase := if k.level ≤ a.kind.level then a else group a

mutual

/-- A phrase with exactly the parentheses that it needs. -/
def grouped : Phrase → Phrase
  | call name arguments => call name (groupedAll arguments)
  | unary op a => unary op (a.grouped.within op.kind)
  | binary op a b => binary op (a.grouped.within op.leftKind) (b.grouped.within op.rightKind)
  | conditional c a b => conditional (c.grouped.within .or) a.grouped b.grouped
  | group a => a.grouped
  | number text => number text
  | string quote content => string quote content
  | truth b => truth b
  | null => null
  | symbol name => symbol name

/-- Arguments with the parentheses that they need inside. -/
def groupedAll : List Phrase → List Phrase
  | [] => []
  | a :: arguments => a.grouped :: groupedAll arguments

end

mutual

/-- Every operand that is looser than its place allows stands in parentheses. -/
def Fits : Phrase → Prop
  | call _ arguments => FitAll arguments
  | unary op a => op.kind.level ≤ a.kind.level ∧ a.Fits
  | binary op a b => (op.leftKind.level ≤ a.kind.level ∧ a.Fits) ∧
    op.rightKind.level ≤ b.kind.level ∧ b.Fits
  | conditional c a b => (Kind.or.level ≤ c.kind.level ∧ c.Fits) ∧ a.Fits ∧ b.Fits
  | group a => a.Fits
  | _ => True

/-- The arguments fit. -/
def FitAll : List Phrase → Prop
  | [] => True
  | a :: arguments => a.Fits ∧ FitAll arguments

end

/-- A name as it is written: a letter or an underscore, then letters, digits and underscores, and
none of the words that are no names. -/
def IsName (name : List Char) : Prop :=
  ∃ c cs, name = c :: cs ∧ isNameStart c = true ∧ (∀ d ∈ cs, isNameChar d = true) ∧
    String.ofList name ∉ ["not", "true", "false", "null"]

/-- The quotes that a text may stand in. -/
def IsQuote (c : Char) : Prop := c = '"' ∨ c = '\''

mutual

/-- Numbers, texts and names are as they are written in a formula, and all operators are those of
the language. -/
def Proper : Phrase → Prop
  | number text => IsNumeral text
  | string quote content => IsQuote quote ∧ quote ∉ content
  | symbol name => IsName name
  | call name arguments => IsName name ∧ ProperAll arguments
  | unary op a => (∀ s, op ≠ .other s) ∧ a.Proper
  | binary op a b => (∀ s, op ≠ .other s) ∧ a.Proper ∧ b.Proper
  | conditional c a b => c.Proper ∧ a.Proper ∧ b.Proper
  | group a => a.Proper
  | _ => True

/-- The arguments are as they are written. -/
def ProperAll : List Phrase → Prop
  | [] => True
  | a :: arguments => a.Proper ∧ ProperAll arguments

end

/-! ### With and without parentheses -/

@[simp]
lemma exprs_eq_map (arguments : List Phrase) : exprs arguments = arguments.map expr := by
  induction arguments with
  | nil => rfl
  | cons a arguments ih => rw [exprs, ih, List.map_cons]

@[simp]
lemma bareAll_eq_map (arguments : List Phrase) : bareAll arguments = arguments.map bare := by
  induction arguments with
  | nil => rfl
  | cons a arguments ih => rw [bareAll, ih, List.map_cons]

lemma groupedAll_eq_map (arguments : List Phrase) :
    groupedAll arguments = arguments.map grouped := by
  induction arguments with
  | nil => rfl
  | cons a arguments ih => rw [groupedAll, ih, List.map_cons]

@[simp]
lemma fitAll_iff {arguments : List Phrase} : FitAll arguments ↔ ∀ a ∈ arguments, a.Fits := by
  induction arguments with
  | nil => simp [FitAll]
  | cons a arguments ih => rw [FitAll, ih, List.forall_mem_cons]

@[simp]
lemma properAll_iff {arguments : List Phrase} :
    ProperAll arguments ↔ ∀ a ∈ arguments, a.Proper := by
  induction arguments with
  | nil => simp [ProperAll]
  | cons a arguments ih => rw [ProperAll, ih, List.forall_mem_cons]

lemma expr_bare (a : Phrase) : a.bare.expr = a.expr := by
  induction a with
  | call name arguments ih => simpa [bare, expr] using ih
  | unary op a ih => rw [bare, expr, expr, ih]
  | binary op a b iha ihb => rw [bare, expr, expr, iha, ihb]
  | conditional c a b ihc iha ihb => rw [bare, expr, expr, ihc, iha, ihb]
  | group a ih => rw [bare, expr, ih]
  | _ => rfl

lemma proper_bare (a : Phrase) : a.bare.Proper ↔ a.Proper := by
  induction a with
  | call name arguments ih =>
    simp only [bare, Proper, properAll_iff, bareAll_eq_map, List.forall_mem_map]
    exact and_congr_right fun _ => forall₂_congr ih
  | unary op a ih => rw [bare, Proper, Proper, ih]
  | binary op a b iha ihb => rw [bare, Proper, Proper, iha, ihb]
  | conditional c a b ihc iha ihb => rw [bare, Proper, Proper, ihc, iha, ihb]
  | group a ih => rw [bare, Proper, ih]
  | _ => rfl

lemma bare_within (k : Kind) (a : Phrase) : (a.within k).bare = a.bare := by
  rw [within]
  split
  · rfl
  · rw [bare]

lemma bare_grouped (a : Phrase) : a.grouped.bare = a.bare := by
  induction a with
  | call name arguments ih => simpa [grouped, bare, groupedAll_eq_map] using ih
  | unary op a ih => rw [grouped, bare, bare, bare_within, ih]
  | binary op a b iha ihb => rw [grouped, bare, bare, bare_within, bare_within, iha, ihb]
  | conditional c a b ihc iha ihb => rw [grouped, bare, bare, bare_within, ihc, iha, ihb]
  | group a ih => rw [grouped, bare, ih]
  | _ => rfl

lemma Fits.within {a : Phrase} (h : a.Fits) (k : Kind) :
    k.level ≤ (a.within k).kind.level ∧ (a.within k).Fits := by
  rw [Phrase.within]
  split
  · rename_i hlevel
    exact ⟨hlevel, h⟩
  · refine ⟨k.level_le_atom, ?_⟩
    rw [Fits]
    exact h

/-- The parentheses that are needed are enough. -/
lemma fits_grouped (a : Phrase) : a.grouped.Fits := by
  induction a with
  | call name arguments ih => simpa [grouped, Fits, groupedAll_eq_map] using ih
  | unary op a ih =>
    rw [grouped, Fits]
    exact ih.within _
  | binary op a b iha ihb =>
    rw [grouped, Fits]
    exact ⟨iha.within _, ihb.within _⟩
  | conditional c a b ihc iha ihb =>
    rw [grouped, Fits]
    exact ⟨ihc.within _, iha, ihb⟩
  | group a ih =>
    rw [grouped]
    exact ih
  | _ => trivial

end Phrase

end Worksheet.Formula
