import Backtest.Metrics.Set
import Backtest.Text.Quoted

/-!
# Registries

The components that a run can be configured with, by name. A name is bound once and has to be freed
before it can be bound again.
-/

namespace Backtest.Component

open Backtest.Metrics (MetricKind)
open Backtest.Trading (CancelPolicy)

/-- The kinds of components. -/
inductive ComponentKind where
  | metricsSet
  | blotter
  deriving DecidableEq, Repr

/-- The name of a kind of components. -/
def ComponentKind.text : ComponentKind → String
  | metricsSet => "metrics set"
  | blotter => "blotter"

/-- Why a registry did not change. -/
inductive RegistryError where
  | duplicate (kind : ComponentKind) (name : String)
  | notRegistered (kind : ComponentKind) (name : String)
  deriving DecidableEq, Repr

/-- The wording of a registry error. -/
def RegistryError.message : RegistryError → String
  | .duplicate kind name => kind.text ++ " " ++ Text.quote name ++ " is already registered"
  | .notRegistered kind name => kind.text ++ " " ++ Text.quote name ++ " was not registered"

/-- What components of one kind are made from, by name. -/
structure Registry (α : Type) where
  kind : ComponentKind
  entries : SortedMap String α

namespace Registry

variable {α : Type}

/-- The names that are bound, in increasing order. -/
def names (r : Registry α) : List String :=
  r.entries.keys

/-- What is registered under a name. -/
def get? (r : Registry α) (name : String) : Option α :=
  r.entries.get? name

/-- Binds a name that is free. -/
def register (r : Registry α) (name : String) (a : α) : Except RegistryError (Registry α) :=
  if (r.get? name).isSome then .error (.duplicate r.kind name)
  else .ok { r with entries := r.entries.insert name a }

/-- Frees a name that is bound. -/
def unregister (r : Registry α) (name : String) : Except RegistryError (Registry α) :=
  if (r.get? name).isSome then .ok { r with entries := r.entries.erase name }
  else .error (.notRegistered r.kind name)

end Registry

/-- The registries that a run is configured from: lists of metrics, and policies of blotters. -/
structure Components where
  metricsSets : Registry (List MetricKind)
  blotters : Registry CancelPolicy

namespace Components

/-- Registries without entries. -/
def empty : Components :=
  ⟨⟨.metricsSet, .empty⟩, ⟨.blotter, .empty⟩⟩

/-- The metrics sets `default`, of every kind, and `none`, and a `default` blotter that never
cancels. -/
def standard : Components :=
  ⟨⟨.metricsSet, .ofList [("default", MetricKind.all), ("none", [])]⟩,
    ⟨.blotter, .ofList [("default", .never)]⟩⟩

end Components

/-- A component given by its registered name, or directly. -/
inductive Choice (α : Type) where
  | named (name : String)
  | given (component : α)

end Backtest.Component
