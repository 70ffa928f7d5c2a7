import Worksheet.Value.Basic

/-!
# Expressions

The syntax tree of a formula.  Every literal carries its value; operators are named by what they
compute and know the symbol they are written with.  Operators outside the language keep their
symbol, so that a tree may be built that no formula denotes; evaluating such a node is a fault.
-/

namespace Worksheet.Formula

/-- Operators between two operands. -/
inductive BinaryOp where
  | add | sub | mul | div | mod | pow
  | equal | notEqual | less | greater | atMost | atLeast
  | and | or | xor
  /-- An operator outside the language. -/
  | other (symbol : String)
  deriving DecidableEq, Repr

/-- Operators in front of one operand. -/
inductive UnaryOp where
  | neg | plus | not
  /-- An operator outside the language. -/
  | other (symbol : String)
  deriving DecidableEq, Repr

/-- The symbols of the operators of the language. -/
def BinaryOp.symbols : List (BinaryOp × String) :=
  [(add, "+"), (sub, "-"), (mul, "*"), (div, "/"), (mod, "%"), (pow, "^"), (equal, "=="),
   (notEqual, "!="), (less, "<"), (greater, ">"), (atMost, "<="), (atLeast, ">="), (and, "and"),
   (or, "or"), (xor, "xor")]

/-- The symbol of an operator. -/
def BinaryOp.symbol : BinaryOp → String
  | other s => s
  | op => (symbols.lookup op).getD ""

/-- The operator with a symbol. -/
def BinaryOp.ofSymbol (s : String) : BinaryOp :=
  match symbols.find? fun entry => entry.2 == s with
  | some entry => entry.1
  | none => other s

/-- The symbol of an operator. -/
def UnaryOp.symbol : UnaryOp → String
  | neg => "-"
  | plus => "+"
  | not => "not"
  | other s => s

/-- The operator with a symbol. -/
def UnaryOp.ofSymbol (s : String) : UnaryOp :=
  if s == "-" then neg else if s == "+" then plus else if s == "not" then not else other s

/-- A formula as a tree. -/
inductive Expr where
  | literal (value : Value)
  | symbol (name : String)
  | call (name : String) (arguments : List Expr)
  | binary (op : BinaryOp) (left right : Expr)
  | unary (op : UnaryOp) (operand : Expr)
  | conditional (condition ifTrue ifFalse : Expr)
  deriving Inhabited

end Worksheet.Formula
