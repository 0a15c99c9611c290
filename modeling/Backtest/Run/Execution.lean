import Backtest.Results.Document
import Backtest.Run.Request

/-!
# Execution

A run from its request to its results. Definitions come first, then the names and dates of the
configuration, then the benchmark and the bundle, then the simulation, and last the results. What happens
on the way is told as a list of events.
-/

namespace Backtest.Run

open Backtest.Calendar (Moment)
open Backtest.Component (Components)
open Backtest.Files (Environment Workspace)
open Backtest.Language (Bindings buildBindings)
open Backtest.Market (BenchmarkReturns Bundle loadBenchmark loadBundle)
open Backtest.Results (Performance)
open Backtest.Simulation (Scenario Strategy checkFrequency)

/-- Where the benchmark and the bundles of runs come from. -/
structure Sources where
  benchmark : Environment → Except RunError BenchmarkReturns
  bundle : String → Environment → Option Moment → Except RunError Bundle

/-- The bundles beneath the root directory of the data, as of a moment if a run names none. -/
def fileBundles (w : Workspace) (now : Moment) (name : String) (e : Environment)
    (timestamp : Option Moment) : Except RunError Bundle :=
  match loadBundle w e.dataRoot name (timestamp.getD now) with
  | .ok bundle => .ok bundle
  | .error fault => .error (.bundle fault)

/-- The benchmark in its file. -/
def fileBenchmark (w : Workspace) (e : Environment) : Except RunError BenchmarkReturns :=
  match loadBenchmark w e.benchmarkFile with
  | .ok returns => .ok returns
  | .error fault => .error (.benchmark fault)

/-- The data in the files of a workspace. -/
def Sources.ofFiles (w : Workspace) (now : Moment) : Sources :=
  ⟨fileBenchmark w, fileBundles w now⟩

/-- What happens in a run that others can see. -/
inductive Event where
  /-- The text of the strategy is shown. -/
  | source (filename text : String)
  /-- The benchmark is asked for. -/
  | benchmark
  /-- A bundle is asked for. -/
  | bundle (name : String) (timestamp : Option Moment)
  /-- A simulation has been built and is run. -/
  | simulation
  /-- The results are sent on their way. -/
  | output (route : OutputRoute)

/-- How a run ended, with what happened, the files it left, and the state of a strategy that has one, if
it was simulated. -/
structure Outcome (σ : Type) where
  result : Except RunError Performance
  events : List Event
  workspace : Workspace
  state : Option σ

/-- A strategy that is ready to be built. -/
inductive Program (σ : Type) where
  | callbacks (strategy : Strategy σ) (state : σ)
  | script (filename text : String) (bindings : Bindings)

variable {σ : Type}

/-- The program of a request, with its definitions made. -/
def Request.program (r : Request σ) : Except RunError (Program σ) :=
  match r.strategy with
  | .script filename text =>
    match buildBindings r.seed r.defines with
    | .ok bindings => .ok (.script filename text bindings)
    | .error e => .error (.definition e)
  | .callbacks strategy state =>
    if r.defines.isEmpty then .ok (.callbacks strategy state)
    else .error (.conflict .definesWithoutSource)

/-- The event of showing the source, if that is wanted and there is one. -/
def Request.shown (r : Request σ) : List Event :=
  match r.strategy with
  | .script filename text => if r.printSource then [.source filename text] else []
  | .callbacks .. => []

/-- A simulation that only waits for its scenario. -/
abbrev Simulation (σ : Type) := Scenario → Except RunError Performance × Option σ

/-- Builds the simulation of a program. -/
def Program.build (p : Program σ) (frequency : DataFrequency) : Except RunError (Simulation σ) := do
  checkFrequency frequency
  match p with
  | .callbacks strategy state =>
    return fun scenario =>
      match scenario.run strategy state with
      | (result, last) => (result, some last)
  | .script filename text bindings =>
    let strategy ← Strategy.ofSource filename text
    return fun scenario => ((scenario.run strategy bindings).1, none)

/-- What builds simulations: of a program, at a data frequency, for a scenario. -/
abbrev Factory (σ : Type) := Program σ → DataFrequency → Scenario → Except RunError (Simulation σ)

/-- The factory of simulations that step through sessions. It looks at the scenario only when it is run. -/
def sessionFactory : Factory σ :=
  fun program frequency _ => program.build frequency

/-- The bundle of a request, and the event of asking for it. -/
def Request.loadBundle (r : Request σ) (s : Sources) : Except RunError Bundle × List Event :=
  (s.bundle r.bundle r.environment r.timestamp, [.bundle r.bundle r.timestamp])

/-- The benchmark and bundle of a request, the benchmark first, and the events of asking for them. -/
def Request.loadData (r : Request σ) (s : Sources) :
    Except RunError (BenchmarkReturns × Bundle) × List Event :=
  match r.benchmark with
  | some returns =>
    let (bundle, events) := r.loadBundle s
    (bundle.map fun b => (returns, b), events)
  | none =>
    match s.benchmark r.environment with
    | .error e => (.error e, [.benchmark])
    | .ok returns =>
      let (bundle, events) := r.loadBundle s
      (bundle.map fun b => (returns, b), .benchmark :: events)

/-- Writes a record to a file. -/
def persist (w : Workspace) (path : String) (p : Performance) : Except RunError Workspace :=
  match w.writeText path p.documentText with
  | .ok written => .ok written
  | .error fault => .error (.persist path (.write fault))

/-- Reads back a record from a file. -/
def loadPersisted (w : Workspace) (path : String) : Except RunError Performance :=
  if w.isDirectory path then .error (.persist path .malformed)
  else
    match w.readBytes path with
    | .error fault => .error (.io fault)
    | .ok bytes =>
      match Performance.ofBytes? bytes with
      | some p => .ok p
      | none => .error (.persist path .malformed)

/-- Sends results on their way. -/
def OutputRoute.send (route : OutputRoute) (w : Workspace) (p : Performance) :
    Except RunError Workspace :=
  match route with
  | .persist path => Run.persist w path p
  | .print => .ok w
  | .discard => .ok w

/-- The scenario of a request whose components and data have been found. -/
def Request.scenario (r : Request σ) (c : Resolved) (benchmark : BenchmarkReturns) (bundle : Bundle) :
    Scenario where
  calendar := c.calendar
  first := r.first
  last := r.last
  capitalBase := r.capitalBase
  metrics := c.metrics
  policy := c.policy
  feeds := ⟨r.market.getD bundle, bundle, benchmark⟩

/-- Simulates a program and sends its results on their way. -/
def Request.finish (r : Request σ) (w : Workspace) (simulation : Simulation σ) (scenario : Scenario) :
    Outcome σ :=
  match simulation scenario with
  | (.error e, state) => ⟨.error e, [.simulation], w, state⟩
  | (.ok performance, state) =>
    let events := [.simulation, .output r.output]
    match r.output.send w performance with
    | .ok written => ⟨.ok performance, events, written, state⟩
    | .error e => ⟨.error e, events, w, state⟩

/-- The outcome with events before its own. -/
def Outcome.after (o : Outcome σ) (events : List Event) : Outcome σ :=
  { o with events := events ++ o.events }

/-- The outcome of a failure before anything was simulated. -/
def Outcome.failed (e : RunError) (w : Workspace) : Outcome σ :=
  ⟨.error e, [], w, none⟩

/-- Executes a request whose program has been made, with simulations of a factory. -/
def Request.executeProgram (r : Request σ) (build : Factory σ) (s : Sources) (components : Components)
    (w : Workspace) (program : Program σ) : Outcome σ :=
  match resolve components r.metrics r.blotter r.calendar r.first r.last with
  | .error e => .failed e w
  | .ok resolved =>
    let (data, events) := r.loadData s
    let outcome : Outcome σ :=
      match data with
      | .error e => .failed e w
      | .ok (benchmark, bundle) =>
        let scenario := r.scenario resolved benchmark bundle
        match build program r.frequency scenario with
        | .error e => .failed e w
        | .ok simulation => r.finish w simulation scenario
    outcome.after events

/-- Executes a request with simulations of a factory. -/
def Request.executeWith (r : Request σ) (build : Factory σ) (s : Sources) (components : Components)
    (w : Workspace) : Outcome σ :=
  match r.program with
  | .error e => .failed e w
  | .ok program => (r.executeProgram build s components w program).after r.shown

/-- Executes a request on the files of a workspace. -/
def Request.execute (r : Request σ) (s : Sources) (components : Components) (w : Workspace) :
    Outcome σ :=
  r.executeWith sessionFactory s components w

end Backtest.Run
