import Backtest.Language.Arithmetic
import Backtest.Language.Comparison
import Backtest.Number.Reading

/-!
# Built-in functions

The ten functions that every expression can call. A call is looked up here first, so a host cannot take
over one of their names.
-/

namespace Backtest.Language

/-- The fault of a call with another number of arguments than the function takes. -/
def wrongCount (function : String) (expected : ArgumentCount) (args : List Value) :
    Except EvalError Value :=
  .error (.arity function expected args.length)

/-- The size of a number. -/
def absolute : List Value → Except EvalError Value
  | [.int n] => exactInt n.toInt.natAbs
  | [.float x] => .ok (.float x.abs)
  | [.bool b] => .ok (.int (if b then 1 else 0))
  | [v] => .error (.type (.absolute v.typeName))
  | args => wrongCount "abs" (.exactly 1) args

/-- The first of the items that no item precedes in the wanted direction, `best` being the first of
those seen so far. -/
def extremumFrom (wanted : Ordering) (best : Value) : List Value → Except EvalError Value
  | [] => .ok best
  | item :: rest =>
    match item.order? best with
    | none => .error (.type (.incomparable item.typeName best.typeName))
    | some o => extremumFrom wanted (if o == wanted then item else best) rest

/-- The least or greatest of the arguments, or of the items of a single list. -/
def extremum (function : String) (wanted : Ordering) (args : List Value) :
    Except EvalError Value :=
  let items := match args with
    | [.list items] => items
    | args => args
  match args, items with
  | [], _ => wrongCount function (.atLeast 1) args
  | _, [] => .error (.type (.emptySequence function))
  | _, first :: rest => extremumFrom wanted first rest

/-- The number of characters of a text or items of a list. -/
def length : List Value → Except EvalError Value
  | [.str s] => .ok (.int (Int64.ofNat s.length))
  | [.list items] => .ok (.int (Int64.ofNat items.length))
  | [v] => .error (.type (.length v.typeName))
  | args => wrongCount "len" (.exactly 1) args

/-- The whole number that a value is or reads as; a double loses its fraction and stops at the bounds
of 64 bits. -/
def toInteger : List Value → Except EvalError Value
  | [.int n] => .ok (.int n)
  | [.bool b] => .ok (.int (if b then 1 else 0))
  | [.str s] =>
    match Number.readInt64? (Text.trimBlanks s.toList) with
    | some n => .ok (.int n)
    | none => .error (.type (.integerLiteral s))
  | [v] =>
    match v with
    | .float x => if x.isFinite then .ok (.int x.toInt64) else .error (.type (.integerOf v.typeName))
    | _ => .error (.type (.integerOf v.typeName))
  | args => wrongCount "int" (.exactly 1) args

/-- The double that a value is or reads as. -/
def toDouble : List Value → Except EvalError Value
  | [.str s] =>
    match Number.readFloat? (Text.trimBlanks s.toList) with
    | some x => .ok (.float x)
    | none => .error (.type (.floatLiteral s))
  | [v] =>
    match v.toFloat? with
    | some x => .ok (.float x)
    | none => .error (.type (.floatOf v.typeName))
  | args => wrongCount "float" (.exactly 1) args

/-- The text of a value. -/
def toText : List Value → Except EvalError Value
  | [v] => .ok (.str v.text)
  | args => wrongCount "str" (.exactly 1) args

/-- The truth value of a value. -/
def toBoolean : List Value → Except EvalError Value
  | [v] => .ok (.bool v.truthy)
  | args => wrongCount "bool" (.exactly 1) args

/-- `acc * base ^ n`, multiplied up from the low binary digit of `n`. -/
def squareMultiply (acc base : Float) (n : Nat) : Float :=
  let acc := if n % 2 = 1 then acc * base else acc
  if h : n / 2 = 0 then acc else squareMultiply acc (base * base) (n / 2)
termination_by n
decreasing_by omega

/-- Ten to the power of a number of digits, which counts modulo the range of 32 bits. -/
def decimalScale (places : Int64) : Float :=
  let n := places.toInt32.toInt
  let power := squareMultiply 1.0 10.0 n.natAbs
  if n < 0 then 1.0 / power else power

/-- The nearest whole number, halves going away from zero; with a number of places the nearest
multiple of that decimal place, as a double. -/
def rounded : List Value → Except EvalError Value
  | [.int n] => .ok (.int n)
  | [.float x] => .ok (.int x.round.toInt64)
  | [v] => .error (.type (.rounding v.typeName))
  | [v, places] =>
    match places, v.toFloat? with
    | .int n, some x => .ok (.float ((x * decimalScale n).round / decimalScale n))
    | _, _ => .error (.type (.rounding v.typeName))
  | args => wrongCount "round" (.either 1 2) args

/-- The sum of the items of a list, starting from zero. -/
def total : List Value → Except EvalError Value
  | [.list items] => items.foldlM (applyArithmetic .add) (.int 0)
  | [v] => .error (.type (.iteration v.typeName))
  | args => wrongCount "sum" (.exactly 1) args

/-- The built-in functions by name. -/
def builtin? : String → Option (List Value → Except EvalError Value)
  | "abs" => some absolute
  | "min" => some (extremum "min" .lt)
  | "max" => some (extremum "max" .gt)
  | "len" => some length
  | "int" => some toInteger
  | "float" => some toDouble
  | "str" => some toText
  | "bool" => some toBoolean
  | "round" => some rounded
  | "sum" => some total
  | _ => none

end Backtest.Language
