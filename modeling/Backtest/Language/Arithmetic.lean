import Backtest.Language.Failure

/-!
# Arithmetic

Operators on numbers, texts and lists. Whole numbers are computed exactly and then have to fit into
64 bits; division and remainder round toward negative infinity; with a double on either side both
operands are doubles.
-/

namespace Backtest.Language

/-- Whether an integer fits into 64 bits. -/
def Fits (n : Int) : Prop :=
  Int64.minValue.toInt ≤ n ∧ n ≤ Int64.maxValue.toInt

instance (n : Int) : Decidable (Fits n) :=
  inferInstanceAs (Decidable (_ ∧ _))

/-- The value of an exact result, if it fits. -/
def exactInt (n : Int) : Except EvalError Value :=
  if Fits n then .ok (.int (Int64.ofInt n)) else .error (.type .integerOverflow)

/-- The largest exponent of a power of whole numbers. -/
def greatestExponent : Int := 4294967295

/-- The power of two whole numbers, unless it is certain not to fit: every base but zero and the units
has outgrown 64 bits by the exponent 64. -/
def power? (base : Int) (exponent : Nat) : Option Int :=
  if base.natAbs ≤ 1 then
    some (if exponent = 0 then 1 else if exponent % 2 = 0 then base * base else base)
  else if exponent < 64 then some (Int.pow base exponent)
  else none

/-- The quotient of two whole numbers rounded toward zero and the remainder, which has the sign of the
first. The least number has no quotient by minus one in 64 bits. -/
def truncated (a b : Int64) : Except EvalError (Int64 × Int64) :=
  if a = Int64.minValue ∧ b = -1 then .error (.type .integerOverflow) else .ok (a / b, a % b)

/-- Whether a quotient that leaves a remainder is above that of exact division: something remains, and its
sign is not that of the divisor. -/
def roundedUp (remainder divisor : Int64) : Bool :=
  remainder != 0 && decide (remainder < 0) != decide (divisor < 0)

/-- An operator on doubles. Division by zero is an error, also in a power. -/
def floatArithmetic (op : ArithmeticOp) (a b : Float) : Except EvalError Value :=
  match op with
  | .add => .ok (.float (a + b))
  | .sub => .ok (.float (a - b))
  | .mul => .ok (.float (a * b))
  | .div => if b == 0.0 then .error .zeroDivision else .ok (.float (a / b))
  | .floorDiv => if b == 0.0 then .error .zeroDivision else .ok (.float (a / b).floor)
  | .mod => if b == 0.0 then .error .zeroDivision else .ok (.float (a - b * (a / b).floor))
  | .pow =>
    if a == 0.0 && b < 0.0 then .error .zeroDivision else .ok (.float (a.pow b))

/-- An operator on whole numbers. True division and negative powers yield doubles. Quotients and remainders
are corrected where they were rounded up. -/
def intArithmetic (op : ArithmeticOp) (a b : Int64) : Except EvalError Value :=
  let x := a.toInt
  let y := b.toInt
  match op with
  | .add => exactInt (x + y)
  | .sub => exactInt (x - y)
  | .mul => exactInt (x * y)
  | .div => floatArithmetic .div (Number.ofInt64 a) (Number.ofInt64 b)
  | .floorDiv =>
    if b = 0 then .error .zeroDivision
    else do
      let (quotient, remainder) ← truncated a b
      pure (.int (if roundedUp remainder b then quotient - 1 else quotient))
  | .mod =>
    if b = 0 then .error .zeroDivision
    else do
      let (_, remainder) ← truncated a b
      pure (.int (if roundedUp remainder b then remainder + b else remainder))
  | .pow =>
    if y < 0 then
      if x = 0 then .error .zeroDivision
      else floatArithmetic .pow (Number.ofInt64 a) (Number.ofInt64 b)
    else if greatestExponent < y then .error (.type .integerOverflow)
    else
      match power? x y.toNat with
      | some n => exactInt n
      | none => .error (.type .integerOverflow)

/-- The most bytes that a repeated text may take. -/
def greatestTextLength : Nat := 16 * 1024 * 1024

/-- The most bytes that the length of a text can be told as. -/
def greatestLength : Nat := Nat.pow 2 64 - 1

/-- A text repeated; a negative count repeats it never, and the empty text has no copies to join. -/
def repeatText (s : String) (count : Int64) : Except EvalError Value :=
  let times := if s.isEmpty then 0 else count.toInt.toNat
  let length := s.utf8ByteSize * times
  if length ≤ greatestTextLength then .ok (.str (Nat.repeat (· ++ s) times ""))
  else .error (.memory (min length greatestLength))

/-- A number of one of the two kinds. -/
inductive Numeric where
  | int (n : Int64)
  | float (x : Float)

/-- The double that a number is. -/
def Numeric.toFloat : Numeric → Float
  | .int n => Number.ofInt64 n
  | .float x => x

/-- The number that a value is, booleans counting as zero and one. -/
def Value.numeric? : Value → Option Numeric
  | .bool b => some (.int (if b then 1 else 0))
  | .int n => some (.int n)
  | .float x => some (.float x)
  | _ => none

/-- An operator on two numbers. -/
def Numeric.arithmetic (op : ArithmeticOp) : Numeric → Numeric → Except EvalError Value
  | .int a, .int b => intArithmetic op a b
  | a, b => floatArithmetic op a.toFloat b.toFloat

/-- An operator on two values: numbers are computed with, texts and lists joined, a text repeated. -/
def applyArithmetic (op : ArithmeticOp) (left right : Value) : Except EvalError Value :=
  match op, left, right with
  | .add, .str a, .str b => .ok (.str (a ++ b))
  | .add, .list a, .list b => .ok (.list (a ++ b))
  | .mul, .str s, .int n => repeatText s n
  | .mul, .int n, .str s => repeatText s n
  | op, left, right =>
    match left.numeric?, right.numeric? with
    | some a, some b => a.arithmetic op b
    | _, _ => .error (.type (.operands op left.typeName right.typeName))

/-- The negative of a value. -/
def applyNegation : Value → Except EvalError Value
  | .int n => exactInt (-n.toInt)
  | .bool b => .ok (.int (if b then -1 else 0))
  | .float x => .ok (.float (-x))
  | v => .error (.type (.negation v.typeName))

end Backtest.Language
