import Backtest.Language.Value

/-!
# Expressions and statements

The trees that texts of the definition language are read into. Operators are split by how they
combine their operands, so that each rule of evaluation covers its own operators and no other.
-/

namespace Backtest.Language

/-- Operators on numbers; some of them also join texts and lists. -/
inductive ArithmeticOp where
  | add
  | sub
  | mul
  | div
  | floorDiv
  | mod
  | pow
  deriving DecidableEq, Repr

/-- Tests for equality. -/
inductive EqualityOp where
  | eq
  | ne
  deriving DecidableEq, Repr

/-- Tests of order. -/
inductive OrderOp where
  | lt
  | le
  | gt
  | ge
  deriving DecidableEq, Repr

/-- Operators that evaluate their right operand only if the left one does not decide. -/
inductive LogicOp where
  | and
  | or
  deriving DecidableEq, Repr

/-- Operators between two operands. -/
inductive BinaryOp where
  | arithmetic (op : ArithmeticOp)
  | equality (op : EqualityOp)
  | order (op : OrderOp)
  | logic (op : LogicOp)
  deriving DecidableEq, Repr

/-- Operators before one operand. -/
inductive UnaryOp where
  | neg
  | not
  deriving DecidableEq, Repr

/-- The spelling of an operator on numbers. -/
def ArithmeticOp.symbol : ArithmeticOp → String
  | .add => "+"
  | .sub => "-"
  | .mul => "*"
  | .div => "/"
  | .floorDiv => "//"
  | .mod => "%"
  | .pow => "**"

/-- The spelling of a test for equality. -/
def EqualityOp.symbol : EqualityOp → String
  | .eq => "=="
  | .ne => "!="

/-- The spelling of a test of order. -/
def OrderOp.symbol : OrderOp → String
  | .lt => "<"
  | .le => "<="
  | .gt => ">"
  | .ge => ">="

/-- The spelling of a logical operator. -/
def LogicOp.symbol : LogicOp → String
  | .and => "and"
  | .or => "or"

/-- The spelling of an operator between two operands. -/
def BinaryOp.symbol : BinaryOp → String
  | .arithmetic op => op.symbol
  | .equality op => op.symbol
  | .order op => op.symbol
  | .logic op => op.symbol

/-- The spelling of an operator before its operand. -/
def UnaryOp.symbol : UnaryOp → String
  | .neg => "-"
  | .not => "not"

/-- An expression. -/
inductive Expr where
  | literal (value : Value)
  | name (name : String)
  | list (items : List Expr)
  | unary (op : UnaryOp) (operand : Expr)
  | binary (op : BinaryOp) (left right : Expr)
  | call (function : String) (args : List Expr)

instance : Inhabited Expr := ⟨.literal .nothing⟩

/-- One line of a script: a name bound to an expression, or an expression for its effect. -/
inductive Statement where
  | assign (name : String) (value : Expr)
  | expr (value : Expr)

end Backtest.Language
