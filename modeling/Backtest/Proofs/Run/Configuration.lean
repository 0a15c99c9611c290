import Backtest.Proofs.Calendar.Sessions
import Backtest.Proofs.Files.Growth
import Backtest.Run.Execution

/-!
# The check of a configuration

A request is checked in stages: its definitions, its dates, the name of its metrics and that of its blotter.
Each stage has a fault that can be read off the request and the registries by itself, whatever is wrong
elsewhere. The fault of a request is that of the earliest stage that has one, and it is the one that making
the program and finding the components end in.
-/

namespace Backtest.Run

open Backtest.Calendar (Date Schedule TradingCalendar)
open Backtest.Component (Choice Components Registry)
open Backtest.Language (buildBindings)
open Backtest.Market (BenchmarkReturns Bundle)

/-- A range of dates is refused if and only if it has no session. -/
theorem checkDateRange_eq (calendar : TradingCalendar) (first last : Date) :
    checkDateRange calendar first last =
      if calendar.sessionsInRange first last = [] then .error (.emptyDateRange first last) else .ok () := by
  have count : 0 < calendar.sessionDistance first last ↔ calendar.sessionsInRange first last ≠ [] :=
    Schedule.sessionDistance_pos_iff
  rw [checkDateRange]
  by_cases empty : calendar.sessionsInRange first last = []
  · have none : ¬0 < calendar.sessionDistance first last := fun some => count.1 some empty
    rw [if_pos empty, if_pos (by omega)]
  · have some := count.2 empty
    rw [if_neg empty, if_neg (by omega)]

/-- A range of dates is accepted if and only if it has a session. -/
theorem checkDateRange_eq_ok_iff {calendar : TradingCalendar} {first last : Date} :
    checkDateRange calendar first last = .ok () ↔ calendar.sessionsInRange first last ≠ [] := by
  rw [checkDateRange_eq]
  split <;> simp_all

/-- The stages in which a request is checked, and nothing else is done. -/
inductive Stage where
  | definitions
  | dates
  | metrics
  | blotter

/-- All stages in their order. -/
def Stage.all : List Stage :=
  [definitions, dates, metrics, blotter]

/-- The error of a choice by a name that nothing is registered under. -/
def unknown? {α : Type} (registry : Registry α) : Choice α → Option RunError
  | .given _ => none
  | .named name =>
    if (registry.get? name).isSome then none else some (.unknownComponent registry.kind name)

/-- A choice fails if and only if it is unknown. -/
theorem resolveChoice_eq_error_iff {α : Type} {registry : Registry α} {choice : Choice α} {e : RunError} :
    resolveChoice registry choice = .error e ↔ unknown? registry choice = some e := by
  cases choice with
  | given component => simp [resolveChoice, unknown?]
  | named name =>
    rw [resolveChoice, unknown?]
    cases registry.get? name <;> simp

/-- A choice that is found is not unknown. -/
theorem unknown?_of_resolveChoice {α : Type} {registry : Registry α} {choice : Choice α} {component : α}
    (found : resolveChoice registry choice = .ok component) : unknown? registry choice = none := by
  by_contra unknown
  obtain ⟨e, fault⟩ := Option.ne_none_iff_exists'.1 unknown
  rw [resolveChoice_eq_error_iff.2 fault] at found
  cases found

namespace Request

variable {σ : Type}

/-- The fault of a request at a stage: definitions that are no definitions, have no value, or come without a
text to go with; dates without a session; or a name that stands for no component. -/
def faultOf? (r : Request σ) (components : Components) : Stage → Option RunError
  | .definitions =>
    match r.strategy with
    | .script _ _ =>
      match buildBindings r.seed r.defines with
      | .error fault => some (.definition fault)
      | .ok _ => none
    | .callbacks _ _ => if r.defines = [] then none else some (.conflict .definesWithoutSource)
  | .dates =>
    if (r.calendar.getD .xnys).sessionsInRange r.first r.last = [] then
      some (.emptyDateRange r.first r.last)
    else none
  | .metrics => unknown? components.metricsSets r.metrics
  | .blotter => unknown? components.blotters r.blotter

/-- The fault of the earliest stage that has one. -/
def fault? (r : Request σ) (components : Components) : Option RunError :=
  Stage.all.findSome? (r.faultOf? components)

variable {r : Request σ} {components : Components} {e : RunError}

/-- A request has no program if and only if its definitions have a fault. -/
theorem program_eq_error_iff : r.program = .error e ↔ r.faultOf? components .definitions = some e := by
  rw [program, faultOf?]
  cases r.strategy with
  | script filename text =>
    dsimp only
    cases buildBindings r.seed r.defines <;> simp
  | callbacks strategy state =>
    dsimp only
    cases r.defines <;> simp

/-- The components are looked for stage by stage. -/
theorem resolve_eq_error_iff :
    resolve components r.metrics r.blotter r.calendar r.first r.last = .error e ↔
      [Stage.dates, .metrics, .blotter].findSome? (r.faultOf? components) = some e := by
  simp only [List.findSome?_cons, List.findSome?_nil, faultOf?, resolve, bind, Except.bind,
    checkDateRange_eq]
  by_cases empty : (r.calendar.getD .xnys).sessionsInRange r.first r.last = []
  · simp [empty]
  · simp only [if_neg empty]
    cases metrics : resolveChoice components.metricsSets r.metrics with
    | error fault => simp [resolveChoice_eq_error_iff.1 metrics]
    | ok kinds =>
      rw [unknown?_of_resolveChoice metrics]
      cases blotter : resolveChoice components.blotters r.blotter with
      | error fault => simp [resolveChoice_eq_error_iff.1 blotter]
      | ok policy => simp [unknown?_of_resolveChoice blotter, pure, Except.pure]

/-- A request has a fault if its program cannot be made, or else if its components cannot be found. -/
theorem fault?_eq_some_iff :
    r.fault? components = some e ↔
      r.program = .error e ∨
        (∃ program, r.program = .ok program) ∧
          resolve components r.metrics r.blotter r.calendar r.first r.last = .error e := by
  have unmade : r.program = .error e ↔ r.faultOf? components .definitions = some e := program_eq_error_iff
  rw [resolve_eq_error_iff, unmade, fault?, Stage.all, List.findSome?_cons]
  cases made : r.program with
  | error fault =>
    simp [program_eq_error_iff.1 made]
  | ok program =>
    have sound : r.faultOf? components .definitions = none := by
      by_contra unsound
      obtain ⟨e, fault⟩ := Option.ne_none_iff_exists'.1 unsound
      rw [program_eq_error_iff.2 fault] at made
      cases made
    simp [sound]

/-- A request without a fault has a program and components. -/
theorem exists_of_fault?_eq_none (sound : r.fault? components = none) :
    ∃ program resolved, r.program = .ok program ∧
      resolve components r.metrics r.blotter r.calendar r.first r.last = .ok resolved := by
  cases made : r.program with
  | error e =>
    rw [fault?_eq_some_iff.2 (.inl made)] at sound
    cases sound
  | ok program =>
    cases found : resolve components r.metrics r.blotter r.calendar r.first r.last with
    | error e =>
      rw [fault?_eq_some_iff.2 (.inr ⟨⟨program, made⟩, found⟩)] at sound
      cases sound
    | ok resolved => exact ⟨program, resolved, rfl, rfl⟩

/-- A scenario with components that have been found has a session. -/
theorem scenario_sessions_ne_nil {resolved : Resolved}
    (found : resolve components r.metrics r.blotter r.calendar r.first r.last = .ok resolved)
    (benchmark : BenchmarkReturns) (bundle : Bundle) :
    (r.scenario resolved benchmark bundle).sessions ≠ [] := by
  unfold resolve at found
  obtain ⟨_, range, found⟩ := exists_of_bind_eq_ok found
  obtain ⟨metrics, -, found⟩ := exists_of_bind_eq_ok found
  obtain ⟨policy, -, found⟩ := exists_of_bind_eq_ok found
  cases found
  exact checkDateRange_eq_ok_iff.1 range

end Request

end Backtest.Run
