import Backtest.Run.Resolution
import Mathlib.Data.List.Induction

/-!
# Changes of registries

A registry changes by binding a name that is free and by freeing one that is bound, and in no other way. What
a name stands for in the end is therefore settled by the last change that is about it, whatever the changes of
other names and of the other registry are.
-/

namespace Backtest.Component

open Backtest.Metrics (MetricKind)
open Backtest.Run (resolveChoice)
open Backtest.Trading (CancelPolicy)

variable {α : Type}

/-- A change of a registry. -/
inductive Change (α : Type) where
  | bind (name : String) (component : α)
  | free (name : String)
  deriving DecidableEq, Repr

/-- The name that a change is about. -/
def Change.name : Change α → String
  | bind name _ => name
  | free name => name

/-- What the name of a change stands for afterwards, if anything. -/
def Change.bound? : Change α → Option α
  | bind _ component => some component
  | free _ => none

/-- The last change about a name. -/
def lastChange? (name : String) (changes : List (Change α)) : Option (Change α) :=
  (changes.filter fun change => change.name = name).getLast?

/-- The last change of a name is the newest if that is one of it. -/
theorem lastChange?_concat (name : String) (changes : List (Change α)) (change : Change α) :
    lastChange? name (changes ++ [change]) =
      if change.name = name then some change else lastChange? name changes := by
  rw [lastChange?, lastChange?, List.filter_append]
  by_cases own : change.name = name <;> simp [own]

namespace Registry

/-- Whether a registry accepts a change: a name that is to be bound has to be free, and one that is to be
freed has to be bound. -/
def accepts (r : Registry α) (change : Change α) : Bool :=
  (r.get? change.name).isSome != change.bound?.isSome

/-- The registry with a change made. -/
def apply (r : Registry α) : Change α → Registry α
  | .bind name component => { r with entries := r.entries.insert name component }
  | .free name => { r with entries := r.entries.erase name }

/-- A change is made to its own name alone. -/
theorem get?_apply (r : Registry α) (change : Change α) (name : String) :
    (r.apply change).get? name = if change.name = name then change.bound? else r.get? name := by
  have same : compare name change.name = .eq ↔ change.name = name :=
    ⟨fun h => (Std.LawfulEqCmp.eq_of_compare h).symm, fun h => h ▸ Std.ReflCmp.compare_self⟩
  cases change with
  | bind own component =>
    rw [apply, get?, SortedMap.get?_insert]
    simp only [beq_iff_eq, Change.name] at same ⊢
    simp only [same]
    rfl
  | free own =>
    rw [apply, get?, SortedMap.get?_erase]
    simp only [beq_iff_eq, Change.name] at same ⊢
    simp only [same]
    rfl

/-- Asks a registry for a change. -/
def change (r : Registry α) : Change α → Except RegistryError (Registry α)
  | .bind name component => r.register name component
  | .free name => r.unregister name

/-- How a registry refuses a change. -/
def refusal (r : Registry α) : Change α → RegistryError
  | .bind name _ => .duplicate r.kind name
  | .free name => .notRegistered r.kind name

/-- A registry makes the changes that it accepts, and no other. -/
theorem change_eq (r : Registry α) (change : Change α) :
    r.change change = if r.accepts change then .ok (r.apply change) else .error (r.refusal change) := by
  cases change with
  | bind name component =>
    rw [Registry.change, register, accepts, Change.name, Change.bound?]
    cases r.get? name <;> rfl
  | free name =>
    rw [Registry.change, unregister, accepts, Change.name, Change.bound?]
    cases r.get? name <;> rfl

/-- A registry differs from another by a change: the name of the change is bound in one of the two and free in
the other, and all other names stand for the same in both. -/
structure DiffersBy (change : Change α) (before after : Registry α) : Prop where
  kind : after.kind = before.kind
  turned : (before.get? change.name).isSome ≠ (after.get? change.name).isSome
  own : after.get? change.name = change.bound?
  others : ∀ name, name ≠ change.name → after.get? name = before.get? name

/-- A change that is accepted makes a difference in its own entry only. -/
theorem differsBy_apply {r : Registry α} {change : Change α} (accepted : r.accepts change = true) :
    DiffersBy change r (r.apply change) := by
  have own : (r.apply change).get? change.name = change.bound? := by rw [get?_apply, if_pos rfl]
  refine ⟨by cases change <;> rfl, ?_, own, fun name other => ?_⟩
  · rw [own]
    exact bne_iff_ne.1 accepted
  · rw [get?_apply, if_neg other.symm]

/-- The last change about a name settles what it stands for. -/
theorem get?_foldl_apply (r : Registry α) (changes : List (Change α)) (name : String) :
    (changes.foldl apply r).get? name =
      match lastChange? name changes with
      | some change => change.bound?
      | none => r.get? name := by
  induction changes using List.reverseRecOn with
  | nil => rfl
  | append_singleton changes change ih =>
    rw [List.foldl_append, List.foldl_cons, List.foldl_nil, get?_apply, lastChange?_concat, ih]
    split <;> rfl

/-- A registry stands for the changes of another: a name is bound if and only if it was bound last, or was
bound at first and is in no change; it is loaded as what it was bound to last, and a name that is in no change
stands for what it did at first. -/
structure Reflects (last first : Registry α) (changes : List (Change α)) : Prop where
  bound : ∀ name, (last.get? name).isSome ↔
    (∃ component, lastChange? name changes = some (.bind name component)) ∨
      lastChange? name changes = none ∧ (first.get? name).isSome
  loaded : ∀ name component, lastChange? name changes = some (.bind name component) →
    resolveChoice last (.named name) = .ok component
  untouched : ∀ name, lastChange? name changes = none → last.get? name = first.get? name

/-- The last change of a name is a change of it. -/
theorem name_of_lastChange? {name : String} {changes : List (Change α)} {change : Change α}
    (last : lastChange? name changes = some change) : change.name = name := by
  have here := List.mem_of_getLast? last
  exact of_decide_eq_true (List.mem_filter.1 here).2

/-- Changes are reflected. -/
theorem reflects_foldl_apply (r : Registry α) (changes : List (Change α)) :
    (changes.foldl apply r).Reflects r changes := by
  refine ⟨fun name => ?bound, fun name component last => ?loaded, fun name none => ?untouched⟩
  case bound =>
    rw [get?_foldl_apply]
    cases last : lastChange? name changes with
    | none => simp
    | some change =>
      cases change with
      | bind own component =>
        obtain rfl : own = name := name_of_lastChange? last
        simp [Change.bound?]
      | free own => simp [Change.bound?]
  case loaded =>
    rw [resolveChoice, get?_foldl_apply, last]
    rfl
  case untouched => rw [get?_foldl_apply, none]

end Registry

/-- A change of one of the registries. -/
inductive Operation where
  | metrics (change : Change (List MetricKind))
  | blotter (change : Change CancelPolicy)

/-- The changes of the metrics sets among some operations. -/
def metricsChanges (operations : List Operation) : List (Change (List MetricKind)) :=
  operations.filterMap fun
    | .metrics change => some change
    | .blotter _ => none

/-- The changes of the blotters among some operations. -/
def blotterChanges (operations : List Operation) : List (Change CancelPolicy) :=
  operations.filterMap fun
    | .metrics _ => none
    | .blotter change => some change

/-- An operation turns some components into others: one entry of one registry changes. -/
def Operation.Turns (before after : Components) : Operation → Prop
  | .metrics change =>
    Registry.DiffersBy change before.metricsSets after.metricsSets ∧ after.blotters = before.blotters
  | .blotter change =>
    Registry.DiffersBy change before.blotters after.blotters ∧ after.metricsSets = before.metricsSets

namespace Components

/-- Whether the registry that an operation is about accepts it. -/
def accepts (c : Components) : Operation → Bool
  | .metrics change => c.metricsSets.accepts change
  | .blotter change => c.blotters.accepts change

/-- The components with an operation made. -/
def apply (c : Components) : Operation → Components
  | .metrics change => { c with metricsSets := c.metricsSets.apply change }
  | .blotter change => { c with blotters := c.blotters.apply change }

/-- Asks the registry that an operation is about for its change. -/
def operate (c : Components) : Operation → Except RegistryError Components
  | .metrics change => (c.metricsSets.change change).map fun r => { c with metricsSets := r }
  | .blotter change => (c.blotters.change change).map fun r => { c with blotters := r }

/-- How the registry that an operation is about refuses it. -/
def refusal (c : Components) : Operation → RegistryError
  | .metrics change => c.metricsSets.refusal change
  | .blotter change => c.blotters.refusal change

/-- Operations are made if they are accepted, and only then. -/
theorem operate_eq (c : Components) (operation : Operation) :
    c.operate operation =
      if c.accepts operation then .ok (c.apply operation) else .error (c.refusal operation) := by
  cases operation with
  | metrics change =>
    rw [operate, accepts, Registry.change_eq]
    cases c.metricsSets.accepts change <;> rfl
  | blotter change =>
    rw [operate, accepts, Registry.change_eq]
    cases c.blotters.accepts change <;> rfl

/-- Operations that are accepted change one entry of one registry. -/
theorem turns_apply {c : Components} {operation : Operation} (accepted : c.accepts operation = true) :
    operation.Turns c (c.apply operation) := by
  cases operation with
  | metrics change => exact ⟨Registry.differsBy_apply accepted, rfl⟩
  | blotter change => exact ⟨Registry.differsBy_apply accepted, rfl⟩

/-- Operations change each registry by their changes of it. -/
theorem foldl_apply (c : Components) (operations : List Operation) :
    operations.foldl apply c =
      ⟨(metricsChanges operations).foldl Registry.apply c.metricsSets,
        (blotterChanges operations).foldl Registry.apply c.blotters⟩ := by
  induction operations generalizing c with
  | nil => rfl
  | cons operation rest ih =>
    rw [List.foldl_cons, ih]
    cases operation <;> rfl

end Components

end Backtest.Component
