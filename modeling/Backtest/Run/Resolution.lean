import Backtest.Calendar.Trading
import Backtest.Run.Failure

/-!
# Resolution

What a run is configured with, looked up by name: the calendar, whose sessions have to reach into the
range of dates, the metrics and the blotter. No data is opened here.
-/

namespace Backtest.Run

open Backtest.Calendar (Date TradingCalendar WeekdayCalendar)
open Backtest.Component (Choice Components Registry)
open Backtest.Metrics (MetricKind)
open Backtest.Trading (CancelPolicy)

/-- The calendar of a name. -/
def findCalendar (name : String) : Except RunError TradingCalendar :=
  match WeekdayCalendar.ofName name with
  | .ok calendar => .ok calendar.toTradingCalendar
  | .error upper => .error (.conflict (.unknownCalendar upper))

/-- Refuses a range of dates without a session. -/
def checkDateRange (calendar : TradingCalendar) (first last : Date) : Except RunError Unit :=
  if calendar.sessionDistance first last < 1 then .error (.emptyDateRange first last) else .ok ()

/-- The component that a choice stands for. -/
def resolveChoice {α : Type} (registry : Registry α) : Choice α → Except RunError α
  | .given component => .ok component
  | .named name =>
    match registry.get? name with
    | some component => .ok component
    | none => .error (.unknownComponent registry.kind name)

/-- The components of a run. -/
structure Resolved where
  calendar : TradingCalendar
  metrics : List MetricKind
  policy : CancelPolicy

/-- Finds the components of a run. The New York calendar is taken if none is given. -/
def resolve (components : Components) (metrics : Choice (List MetricKind))
    (blotter : Choice CancelPolicy) (calendar : Option TradingCalendar) (first last : Date) :
    Except RunError Resolved := do
  let calendar := calendar.getD .xnys
  checkDateRange calendar first last
  let metrics ← resolveChoice components.metricsSets metrics
  let policy ← resolveChoice components.blotters blotter
  return ⟨calendar, metrics, policy⟩

end Backtest.Run
