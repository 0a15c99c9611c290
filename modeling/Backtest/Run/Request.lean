import Backtest.Run.Resolution
import Backtest.Simulation.Simulator

/-!
# Requests

Everything that the caller of a run decides.
-/

namespace Backtest.Run

open Backtest.Calendar (Date Moment TradingCalendar)
open Backtest.Component (Choice)
open Backtest.Files (Environment Workspace)
open Backtest.Language (Bindings)
open Backtest.Market (BenchmarkReturns Bundle)
open Backtest.Metrics (MetricKind)
open Backtest.Simulation (Strategy)
open Backtest.Trading (CancelPolicy)

/-- A strategy as it is given: with a state of its own, or as a text with the name of its file. -/
inductive StrategySource (σ : Type) where
  | callbacks (strategy : Strategy σ) (state : σ)
  | script (filename text : String)

/-- A text that is in no file. -/
def StrategySource.ofText {σ : Type} (text : String) : StrategySource σ :=
  .script "<algorithm>" text

/-- The text of a file. -/
def StrategySource.ofFile {σ : Type} (w : Workspace) (path : String) :
    Except RunError (StrategySource σ) :=
  match w.readText path with
  | .ok text => .ok (.script path text)
  | .error fault => .error (.io fault)

/-- A request for a run. -/
structure Request (σ : Type) where
  strategy : StrategySource σ
  first : Date
  last : Date
  defines : List String := []
  /-- What definitions are added to. -/
  seed : Bindings := .empty
  capitalBase : Float := 10000000.0
  frequency : DataFrequency := .daily
  bundle : String := "quantopian-quandl"
  /-- Data that came in later is not used. -/
  timestamp : Option Moment := none
  calendar : Option TradingCalendar := none
  metrics : Choice (List MetricKind) := .named "default"
  blotter : Choice CancelPolicy := .named "default"
  /-- Returns to use in place of the stored benchmark. -/
  benchmark : Option BenchmarkReturns := none
  /-- Prices to use in place of the bundle's. -/
  market : Option Bundle := none
  output : OutputRoute := .discard
  printSource : Bool := false
  environment : Environment := .empty

end Backtest.Run
