import LSystem.Text.Basic

/-! # Syntax of expressions

The tree of an expression. Forms that the language has but that have no value here keep only what
the grammar asks about them: displays and starred expressions may be the target of an assignment,
all others are known by the name of their node. -/

namespace LSystem.Expr

inductive BinaryOp where
  | add
  | sub
  | mul
  | matMul
  | div
  | floorDiv
  | mod
  | pow
  | shiftLeft
  | shiftRight
  | bitAnd
  | bitOr
  | bitXor
  deriving DecidableEq, Repr

inductive UnaryOp where
  | plus
  | minus
  | invert
  | not
  deriving DecidableEq, Repr

/-- Operators that stop at the operand that decides. -/
inductive LogicalOp where
  | and
  | or
  deriving DecidableEq, Repr

inductive CompareOp where
  | eq
  | ne
  | lt
  | le
  | gt
  | ge
  | same
  | notSame
  | member
  | notMember
  deriving DecidableEq, Repr

inductive Literal where
  | none
  | bool (b : Bool)
  | int (i : Int)
  | float (x : Float)
  | imaginary (x : Float)
  | text (s : Text)
  | bytes (s : Text)
  | ellipsis
  deriving DecidableEq, Repr

inductive Display where
  | tuple
  | list
  | set
  deriving DecidableEq, Repr

inductive Term where
  | literal (value : Literal)
  | name (id : String)
  | unary (op : UnaryOp) (operand : Term)
  | binary (op : BinaryOp) (left right : Term)
  | logical (op : LogicalOp) (operands : List Term)
  /-- `first ops[0] rest[0] ops[1] rest[1] …`. -/
  | compare (first : Term) (ops : List CompareOp) (rest : List Term)
  | conditional (test yes no : Term)
  /-- The last arguments are given by name, an argument without a name being a whole table of
  them. -/
  | call (callee : Term) (positional : List Term) (names : List (Option String)) (named : List Term)
  | attribute (object : Term) (name : String)
  | subscript (container index : Term)
  | slice (lower upper step : Term)
  | interpolation (parts : List Term)
  /-- An interpolated value, with the text that says how to lay it out. -/
  | interpolated (value : Term) (layout : Option Term)
  | display (kind : Display) (items : List Term)
  | starred (value : Term)
  /-- Any other form. -/
  | other (node : String)
  deriving Repr

inductive Statement where
  | expression (value : Term)
  /-- The assignment of a value to any targets. -/
  | assign (value : Term)
  | importing
  /-- Any other form. -/
  | other (node : String)
  deriving Repr

def Display.node : Display → String
  | .tuple => "Tuple"
  | .list => "List"
  | .set => "Set"

end LSystem.Expr
