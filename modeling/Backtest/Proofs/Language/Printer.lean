import Backtest.Language.Parser

/-!
# Writing expressions

Expressions as texts, with one blank between any two tokens and no more parentheses than precedence asks
for. An operand stands in parentheses exactly if its operator is looser than the place it stands in.
-/

namespace Backtest.Language

/-- The literals that a tree can be written with. -/
inductive Value.Plain : Value → Prop where
  | nothing : Plain .nothing
  | bool (b : Bool) : Plain (.bool b)
  | int (n : Int64) (nonneg : 0 ≤ n.toInt) : Plain (.int n)
  | str (s : String) : Plain (.str s)

/-- Trees in which all names are identifiers and all literals have a property. -/
inductive Expr.WellFormed (P : Value → Prop) : Expr → Prop where
  | literal {value : Value} (h : P value) : WellFormed P (.literal value)
  | name {name : String} (h : isIdentifier name) : WellFormed P (.name name)
  | list {items : List Expr} (h : ∀ e ∈ items, WellFormed P e) : WellFormed P (.list items)
  | unary (op : UnaryOp) {operand : Expr} (h : WellFormed P operand) : WellFormed P (.unary op operand)
  | binary (op : BinaryOp) {left right : Expr} (hleft : WellFormed P left) (hright : WellFormed P right) :
      WellFormed P (.binary op left right)
  | call {function : String} {args : List Expr} (h : isIdentifier function)
      (hargs : ∀ e ∈ args, WellFormed P e) : WellFormed P (.call function args)

/-- How a character stands between double quotes. -/
def escapeChar (c : Char) : List Char :=
  if c = '\\' ∨ c = '"' then ['\\', c] else [c]

/-- The token of a literal. -/
def Value.token : Value → String
  | .str s => String.ofList ('"' :: s.toList.flatMap escapeChar ++ ['"'])
  | value => value.repr

/-- The level at which an expression is read without parentheses. -/
def Expr.level : Expr → Level
  | .unary op _ => op.level
  | .binary op _ _ => op.level
  | _ => .atom

/-- The level of the left operand of an operator of a level. -/
def Level.left : Level → Level
  | .comparison => .chain .sum
  | .power => .atom
  | level => level

/-- The level of the right or only operand of an operator of a level. -/
def Level.right : Level → Level
  | .chain c => c.operand
  | .comparison => .chain .sum
  | .power => .sign
  | level => level

/-- Tokens of a level at a place for another level, in parentheses if the place binds more tightly. -/
def placed (place own : Level) (tokens : List String) : List String :=
  if own.rank ≤ place.rank then tokens else "(" :: (tokens ++ [")"])

mutual

/-- The tokens of an expression. -/
def Expr.tokens : Expr → List String
  | .literal value => [value.token]
  | .name name => [name]
  | .list items => "[" :: (itemTokens items ++ ["]"])
  | .unary op operand => op.symbol :: placed op.level.right operand.level operand.tokens
  | .binary op left right =>
    placed op.level.left left.level left.tokens ++
      op.symbol :: placed op.level.right right.level right.tokens
  | .call function args => function :: "(" :: (itemTokens args ++ [")"])

/-- The tokens of items, with commas between them. -/
def itemTokens : List Expr → List String
  | [] => []
  | item :: items => item.tokens ++ moreTokens items

/-- The tokens of items that follow another. -/
def moreTokens : List Expr → List String
  | [] => []
  | item :: items => "," :: (item.tokens ++ moreTokens items)

end

/-- The text of an expression. -/
def Expr.text (e : Expr) : String :=
  " ".intercalate e.tokens

end Backtest.Language
