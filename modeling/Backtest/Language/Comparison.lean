import Backtest.Language.Failure

/-!
# Comparison

Equality and order of values. Numbers of all kinds compare as doubles, texts by code points, lists item
by item with the shorter one first; values of other kinds are equal only to themselves and have no
order.
-/

namespace Backtest.Language

/-- The order of two doubles, if both are numbers. -/
def floatOrder? (a b : Float) : Option Ordering :=
  if a < b then some .lt
  else if a == b then some .eq
  else if b < a then some .gt
  else none

/-- Equality of values that are not both numbers or both lists. -/
def Value.sameText : Value → Value → Bool
  | .nothing, .nothing => true
  | .str a, .str b => a == b
  | _, _ => false

mutual

/-- Equality of values. -/
def Value.equal : Value → Value → Bool
  | .list a, .list b => equalItems a b
  | a, b =>
    match a.toFloat?, b.toFloat? with
    | some x, some y => x == y
    | _, _ => a.sameText b

/-- Equality of lists: as many items, each equal to its counterpart. -/
def equalItems : List Value → List Value → Bool
  | [], [] => true
  | a :: as, b :: bs => a.equal b && equalItems as bs
  | _, _ => false

end

mutual

/-- The order of two values, if they have one. -/
def Value.order? : Value → Value → Option Ordering
  | .str a, .str b => some (compare a b)
  | .list a, .list b => orderItems? a b
  | a, b =>
    match a.toFloat?, b.toFloat? with
    | some x, some y => floatOrder? x y
    | _, _ => none

/-- The order of two lists: that of the first items that differ, or else of the lengths. -/
def orderItems? : List Value → List Value → Option Ordering
  | [], [] => some .eq
  | [], _ :: _ => some .lt
  | _ :: _, [] => some .gt
  | a :: as, b :: bs =>
    match a.order? b with
    | some .eq => orderItems? as bs
    | decided => decided

end

/-- Whether a test of order accepts an ordering. -/
def OrderOp.accepts : OrderOp → Ordering → Bool
  | .lt, o => o == .lt
  | .le, o => o != .gt
  | .gt, o => o == .gt
  | .ge, o => o != .lt

/-- The answer of a test of order. -/
def applyOrder (op : OrderOp) (left right : Value) : Except EvalError Value :=
  match left.order? right with
  | some o => .ok (.bool (op.accepts o))
  | none => .error (.type (.unordered op left.typeName right.typeName))

/-- The answer of a test for equality. -/
def applyEquality (op : EqualityOp) (left right : Value) : Value :=
  match op with
  | .eq => .bool (left.equal right)
  | .ne => .bool (!left.equal right)

end Backtest.Language
