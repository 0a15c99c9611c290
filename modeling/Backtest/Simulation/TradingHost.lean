import Backtest.Language.Script
import Backtest.Simulation.Desk
import Backtest.Simulation.Outlook

/-!
# Trading functions

The functions by which the script of a strategy trades and looks at the market. A pipeline column that
cannot be loaded fails the script, and is also kept as what the failure really was.
-/

namespace Backtest.Simulation

open Backtest.Language (ArgumentCount Bindings EvalError Host ScriptError ScriptLine ScriptState Value)
open Backtest.Market (Column PriceField UnregisteredColumn)

/-- What trading functions work on: the desk, and a column that could not be loaded. -/
structure TradingState where
  desk : Desk
  pending : Option UnregisteredColumn

/-- The text that an argument is. -/
def symbolArgument (function : String) : Value → Except EvalError String
  | .str s => .ok s
  | v => .error (.type (.argument function "symbol str" v.typeName))

/-- The whole number that an argument is. -/
def intArgument (function : String) : Value → Except EvalError Int
  | .int n => .ok n.toInt
  | v => .error (.type (.argument function "int" v.typeName))

/-- The price field that an argument names. -/
def fieldArgument (function : String) (v : Value) : Except EvalError PriceField := do
  match PriceField.ofName (← symbolArgument function v) with
  | .ok field => return field
  | .error message => throw (.host message)

/-- The column that an argument names. -/
def columnArgument (function : String) (v : Value) : Except EvalError Column := do
  match Column.ofText (← symbolArgument function v) with
  | .ok column => return column
  | .error message => throw (.host message)

/-- A price as a value of the language. -/
def priceValue : Option Float → Value
  | some x => .float x
  | none => .nothing

/-- A function of strategy scripts. -/
inductive TradingFunction where
  | order
  | cancel
  | price
  | history
  | position
  | cash
  | portfolioValue
  | session
  | pipeline
  deriving DecidableEq, Repr

namespace TradingFunction

/-- All functions. -/
def all : List TradingFunction :=
  [order, cancel, price, history, position, cash, portfolioValue, session, pipeline]

/-- The name that a function is called by. -/
def name : TradingFunction → String
  | order => "order"
  | cancel => "cancel"
  | price => "price"
  | history => "history"
  | position => "position"
  | cash => "cash"
  | portfolioValue => "portfolio_value"
  | session => "session"
  | pipeline => "pipeline"

/-- The numbers of arguments that a function takes. -/
def arity : TradingFunction → ArgumentCount
  | order => .exactly 2
  | cancel => .exactly 1
  | price => .either 1 2
  | history => .exactly 3
  | position => .exactly 1
  | cash => .exactly 0
  | portfolioValue => .exactly 0
  | session => .exactly 0
  | pipeline => .either 2 3

/-- What a function that only looks answers. -/
def look (f : TradingFunction) (o : Outlook) (args : List Value) : Except EvalError Value :=
  match f, args with
  | price, [symbol] => do
    let symbol ← symbolArgument f.name symbol
    return priceValue (o.price symbol .close)
  | price, [symbol, field] => do
    let symbol ← symbolArgument f.name symbol
    let field ← fieldArgument f.name field
    return priceValue (o.price symbol field)
  | history, [symbol, field, count] => do
    let symbol ← symbolArgument f.name symbol
    let field ← fieldArgument f.name field
    let count ← intArgument f.name count
    return .list ((o.history symbol field count.toNat).map priceValue)
  | position, [symbol] => do
    let symbol ← symbolArgument f.name symbol
    return .int (Int64.ofInt (o.ledger.amountOf symbol))
  | cash, [] => return .float o.ledger.cash
  | portfolioValue, [] => return .float o.ledger.portfolioValue
  | session, [] => return .str o.session.text
  | _, _ => throw (.arity f.name f.arity args.length)

/-- The column, the symbol and the window that a pipeline call asks for. -/
def pipelineArguments (args : List Value) : Except EvalError (Column × String × Nat) := do
  let (column, symbol, count) ← match args with
    | [column, symbol] => pure (column, symbol, 1)
    | [column, symbol, count] => do
      let count ← intArgument pipeline.name count
      pure (column, symbol, count.toNat)
    | _ => throw (.arity pipeline.name pipeline.arity args.length)
  let column ← columnArgument pipeline.name column
  let symbol ← symbolArgument pipeline.name symbol
  return (column, symbol, count)

/-- What a pipeline call answers, and the column if it could not be loaded. -/
def runPipeline (o : Outlook) (args : List Value) (s : TradingState) :
    Except EvalError Value × TradingState :=
  match pipelineArguments args with
  | .error e => (.error e, s)
  | .ok (column, symbol, count) =>
    match o.pipelineValue column symbol count with
    | .ok value => (.ok (priceValue value), s)
    | .error e => (.error (.host e.message), { s with pending := some e })

/-- What a call answers, and the state after it. -/
def apply (f : TradingFunction) (o : Outlook) (args : List Value) (s : TradingState) :
    Except EvalError Value × TradingState :=
  match f, args with
  | order, [symbol, amount] =>
    match symbolArgument f.name symbol, intArgument f.name amount with
    | .ok symbol, .ok amount =>
      (.ok (.int (Int64.ofNat s.desk.blotter.nextId)),
        { s with desk := s.desk.order symbol amount o.session })
    | .ok _, .error e => (.error e, s)
    | .error e, _ => (.error e, s)
  | cancel, [id] =>
    match intArgument f.name id with
    | .ok id =>
      (.ok (.bool (s.desk.blotter.canCancel id.toNat)), { s with desk := s.desk.cancel id.toNat })
    | .error e => (.error e, s)
  | pipeline, args => runPipeline o args s
  | f, args => (f.look o args, s)

end TradingFunction

/-- The host of strategy scripts. -/
def tradingHost (o : Outlook) : Host TradingState where
  call name args s :=
    match TradingFunction.all.find? fun f => f.name == name with
    | none => (none, s)
    | some f =>
      match f.apply o args s with
      | (result, next) => (some result, next)

/-- Why a strategy's script failed: the column that could not be loaded, if there is one, or the script
error. -/
inductive TradingFault where
  | column (error : UnregisteredColumn)
  | script (error : ScriptError)
  deriving DecidableEq, Repr

/-- Runs the lines of a strategy's script for a session. -/
def runTrading (o : Outlook) (lines : List ScriptLine) (d : Desk) (b : Bindings) :
    Except TradingFault Unit × Desk × Bindings :=
  match Language.runLines (tradingHost o) lines ⟨b, d, none⟩ with
  | (.ok (), s) => (.ok (), s.host.desk, s.bindings)
  | (.error e, s) =>
    (.error (match s.host.pending with
      | some column => .column column
      | none => .script e), s.host.desk, s.bindings)

end Backtest.Simulation
