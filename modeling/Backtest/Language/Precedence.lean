import Backtest.Language.Expr

/-!
# Precedence

The levels at which expressions are read and written, from the loosest operator to the atoms, and the
symbols that belong to each.
-/

namespace Backtest.Language

/-- The levels whose operators form chains that group to the left. -/
inductive Chain where
  | disjunction
  | conjunction
  | sum
  | product
  deriving DecidableEq, Repr

/-- The levels of precedence. -/
inductive Level where
  | chain (c : Chain)
  | negation
  | comparison
  | sign
  | power
  | atom
  deriving DecidableEq, Repr

/-- The level of the operands of a chain. -/
def Chain.operand : Chain → Level
  | disjunction => .chain conjunction
  | conjunction => .negation
  | sum => .chain product
  | product => .sign

/-- The number of levels that bind more tightly. -/
@[simp] def Level.rank : Level → Nat
  | chain .disjunction => 8
  | chain .conjunction => 7
  | negation => 6
  | comparison => 5
  | chain .sum => 4
  | chain .product => 3
  | sign => 2
  | power => 1
  | atom => 0

/-- The operands of a chain bind more tightly than the chain. -/
theorem Chain.operand_rank_lt (c : Chain) : c.operand.rank < (Level.chain c).rank := by
  cases c <;> decide

/-- The loosest level, at which whole expressions are read. -/
abbrev Level.loosest : Level :=
  .chain .disjunction

/-- The tests that a comparison is made of. A symbol stands before those that it begins with. -/
def comparisonSymbols : List (String × BinaryOp) :=
  [("==", .equality .eq), ("!=", .equality .ne), ("<=", .order .le), (">=", .order .ge),
   ("<", .order .lt), (">", .order .gt)]

/-- The operators of a sum. -/
def sumSymbols : List (String × BinaryOp) :=
  [("+", .arithmetic .add), ("-", .arithmetic .sub)]

/-- The operators of a product. A symbol stands before those that it begins with. -/
def productSymbols : List (String × BinaryOp) :=
  [("//", .arithmetic .floorDiv), ("*", .arithmetic .mul), ("/", .arithmetic .div),
   ("%", .arithmetic .mod)]

/-- The level at which an operator between two operands is read. -/
def BinaryOp.level : BinaryOp → Level
  | .logic .or => .chain .disjunction
  | .logic .and => .chain .conjunction
  | .equality _ => .comparison
  | .order _ => .comparison
  | .arithmetic .add => .chain .sum
  | .arithmetic .sub => .chain .sum
  | .arithmetic .mul => .chain .product
  | .arithmetic .div => .chain .product
  | .arithmetic .floorDiv => .chain .product
  | .arithmetic .mod => .chain .product
  | .arithmetic .pow => .power

/-- The level at which an operator before its operand is read. -/
def UnaryOp.level : UnaryOp → Level
  | .not => .negation
  | .neg => .sign

end Backtest.Language
