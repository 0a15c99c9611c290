import Backtest.Component.Registry
import Backtest.Files.Environment
import Backtest.Language.Script

/-!
# Registration

The functions by which an extension script changes the registries. A call that fails changes nothing.
-/

namespace Backtest.Component

open Backtest.Files (Environment)
open Backtest.Language (EvalError Host Value)
open Backtest.Metrics (MetricKind)
open Backtest.Trading (CancelPolicy)

/-- The text that an argument is. -/
def textArgument (function : String) : Value → Except EvalError String
  | .str s => .ok s
  | v => .error (.type (.argument function "str" v.typeName))

/-- The metric that an argument names. -/
def metricArgument (function : String) (v : Value) : Except EvalError MetricKind := do
  let name ← textArgument function v
  match MetricKind.ofName? name with
  | some kind => return kind
  | none => throw (.host ("unknown metric " ++ Text.quote name))

/-- A change of the registries with nothing to tell, or the failure of the registry. -/
def changed (result : Except RegistryError Components) : Except EvalError (Value × Components) :=
  match result with
  | .ok c => .ok (.nothing, c)
  | .error e => .error (.host e.message)

namespace Components

/-- Registers a list of metrics under a name. -/
def registerMetrics (c : Components) (name : String) (kinds : List MetricKind) :
    Except RegistryError Components :=
  (c.metricsSets.register name kinds).map fun r => { c with metricsSets := r }

/-- Registers blotters of a policy under a name. -/
def registerBlotter (c : Components) (name : String) (policy : CancelPolicy) :
    Except RegistryError Components :=
  (c.blotters.register name policy).map fun r => { c with blotters := r }

/-- Frees the name of a list of metrics. -/
def unregisterMetrics (c : Components) (name : String) : Except RegistryError Components :=
  (c.metricsSets.unregister name).map fun r => { c with metricsSets := r }

/-- Frees the name of blotters. -/
def unregisterBlotter (c : Components) (name : String) : Except RegistryError Components :=
  (c.blotters.unregister name).map fun r => { c with blotters := r }

end Components

/-- A function of extension scripts. -/
inductive RegistrationFunction where
  | registerMetricsSet
  | registerBlotter
  | unregisterMetricsSet
  | unregisterBlotter
  | getenv
  deriving DecidableEq, Repr

namespace RegistrationFunction

/-- All functions. -/
def all : List RegistrationFunction :=
  [registerMetricsSet, registerBlotter, unregisterMetricsSet, unregisterBlotter, getenv]

/-- The name that a function is called by. -/
def name : RegistrationFunction → String
  | registerMetricsSet => "register_metrics_set"
  | registerBlotter => "register_blotter"
  | unregisterMetricsSet => "unregister_metrics_set"
  | unregisterBlotter => "unregister_blotter"
  | getenv => "getenv"

/-- The numbers of arguments that a function takes. -/
def arity : RegistrationFunction → Language.ArgumentCount
  | registerMetricsSet => .exactly 2
  | registerBlotter => .either 1 2
  | unregisterMetricsSet => .exactly 1
  | unregisterBlotter => .exactly 1
  | getenv => .either 1 2

/-- What a call answers and the registries after it. -/
def apply (f : RegistrationFunction) (environment : Environment) (args : List Value)
    (c : Components) : Except EvalError (Value × Components) :=
  match f, args with
  | registerMetricsSet, [name, .list kinds] => do
    let name ← textArgument f.name name
    let kinds ← kinds.mapM (metricArgument f.name)
    changed (c.registerMetrics name kinds)
  | registerMetricsSet, [name, kinds] => do
    let _ ← textArgument f.name name
    throw (.type (.argument f.name "list of metric names" kinds.typeName))
  | registerBlotter, [name] => do
    let name ← textArgument f.name name
    changed (c.registerBlotter name .never)
  | registerBlotter, [name, policy] => do
    let name ← textArgument f.name name
    let policy ← textArgument f.name policy
    match CancelPolicy.ofName policy with
    | .ok policy => changed (c.registerBlotter name policy)
    | .error message => throw (.host message)
  | unregisterMetricsSet, [name] => do
    let name ← textArgument f.name name
    changed (c.unregisterMetrics name)
  | unregisterBlotter, [name] => do
    let name ← textArgument f.name name
    changed (c.unregisterBlotter name)
  | getenv, [key] => do
    let key ← textArgument f.name key
    return (((environment.get? key).map Value.str).getD .nothing, c)
  | getenv, [key, default] => do
    let key ← textArgument f.name key
    return (((environment.get? key).map Value.str).getD default, c)
  | _, _ => .error (.arity f.name f.arity args.length)

end RegistrationFunction

/-- The host of extension scripts. -/
def registrationHost (environment : Environment) : Host Components where
  call name args c :=
    match RegistrationFunction.all.find? fun f => f.name == name with
    | none => (none, c)
    | some f =>
      match f.apply environment args c with
      | .ok (v, next) => (some (.ok v), next)
      | .error e => (some (.error e), c)

end Backtest.Component
