import Backtest.Language.Bindings
import Backtest.Language.Builtins
import Backtest.Language.Parser

/-!
# Evaluation

The value of an expression under bindings, with a host whose functions may change a state of its own.
Operands and arguments are evaluated from left to right, and the first failure ends the evaluation with
the state as it then is.
-/

namespace Backtest.Language

/-- Functions beyond the built-in ones, over a state. A call answers `none` if the host has no such
function. -/
structure Host (σ : Type) where
  call : String → List Value → σ → Option (Except EvalError Value) × σ

/-- A host without functions. -/
def Host.core : Host Unit :=
  ⟨fun _ _ s => (none, s)⟩

/-- Computations that may fail and that keep the host's state even then. -/
abbrev EvalM (σ : Type) := ExceptT EvalError (StateM σ)

/-- A result that does not touch the state. -/
def EvalM.ofExcept {σ α : Type} (result : Except EvalError α) : EvalM σ α :=
  fun s => (result, s)

/-- The value of a call: the built-in functions first, then those of the host. -/
def callFunction {σ : Type} (host : Host σ) (name : String) (args : List Value) : EvalM σ Value :=
  match builtin? name with
  | some function => .ofExcept (function args)
  | none => fun s =>
    match host.call name args s with
    | (some result, s') => (result, s')
    | (none, s') => (.error (.unknownFunction name), s')

/-- Whether the left operand of a logical operator is its value. -/
def LogicOp.decided (op : LogicOp) (left : Value) : Bool :=
  match op with
  | .and => !left.truthy
  | .or => left.truthy

mutual

/-- The value of an expression. -/
def evaluate {σ : Type} (host : Host σ) (bindings : Bindings) : Expr → EvalM σ Value
  | .literal v => return v
  | .name n =>
    match bindings.get? n with
    | some v => return v
    | none => throw (.undefinedName n)
  | .list items => do
    let values ← evaluateAll host bindings items
    return .list values
  | .unary .not e => do
    let v ← evaluate host bindings e
    return .bool !v.truthy
  | .unary .neg e => do
    let v ← evaluate host bindings e
    .ofExcept (applyNegation v)
  | .binary (.logic op) l r => do
    let left ← evaluate host bindings l
    if op.decided left then return left else evaluate host bindings r
  | .binary (.equality op) l r => do
    let left ← evaluate host bindings l
    let right ← evaluate host bindings r
    return applyEquality op left right
  | .binary (.order op) l r => do
    let left ← evaluate host bindings l
    let right ← evaluate host bindings r
    .ofExcept (applyOrder op left right)
  | .binary (.arithmetic op) l r => do
    let left ← evaluate host bindings l
    let right ← evaluate host bindings r
    .ofExcept (applyArithmetic op left right)
  | .call function args => do
    let values ← evaluateAll host bindings args
    callFunction host function values

/-- The values of expressions, evaluated in order. -/
def evaluateAll {σ : Type} (host : Host σ) (bindings : Bindings) :
    List Expr → EvalM σ (List Value)
  | [] => return []
  | e :: rest => do
    let v ← evaluate host bindings e
    let vs ← evaluateAll host bindings rest
    return v :: vs

end

/-- The value of a text under bindings, with the built-in functions only. -/
def evalText (bindings : Bindings) (text : String) : Except EvalError Value :=
  match parse text with
  | .error e => .error (.parse e)
  | .ok e => (evaluate Host.core bindings e ()).1

end Backtest.Language
