import Backtest.Calendar.Trading
import Backtest.Market.Benchmark
import Backtest.Metrics.Set
import Backtest.Simulation.Strategy

/-!
# The simulator

A run steps through its sessions. In each the strategy acts first; then open orders are filled at the
close and booked, the blotter ends its session, positions are marked at the close, and the metrics record
the day. Orders placed before the first session count as placed in it.
-/

namespace Backtest.Simulation

open Backtest.Calendar (Date TradingCalendar)
open Backtest.Market (BenchmarkReturns Bundle)
open Backtest.Metrics (MetricKind MetricsSet Packet SessionReport)
open Backtest.Results (DailyPerformance Performance)
open Backtest.Run (DataFrequency RunError)
open Backtest.Trading (Blotter CancelPolicy Ledger Quotes Transaction)

/-- The data that a run reads. -/
structure Feeds where
  market : Bundle
  /-- The data behind pipeline columns. -/
  columns : Bundle
  benchmark : BenchmarkReturns

/-- The closes of a session. -/
def Feeds.closes (f : Feeds) (session : Date) : Quotes :=
  fun symbol => f.market.current symbol .close session

/-- Everything that a run changes from session to session. -/
structure Books (σ : Type) where
  strategy : σ
  blotter : Blotter
  ledger : Ledger
  metrics : MetricsSet

/-- What happened in a session. -/
structure SessionRecord where
  session : Date
  fills : List Transaction
  report : SessionReport
  columns : Packet

variable {σ : Type}

/-- The books with what a phase leaves on the desk and in the strategy's state. -/
def Books.take (b : Books σ) (d : Desk) (s : σ) : Books σ :=
  { b with blotter := d.blotter, strategy := s }

/-- What the strategy sees in a session. -/
def Books.outlook (b : Books σ) (f : Feeds) (earlier : List Date) (session : Date) : Outlook :=
  ⟨earlier, session, f.market, f.columns, b.ledger⟩

/-- Lets the strategy act before and during a session; answers how many orders it placed. -/
def actSession (f : Feeds) (strategy : Strategy σ) (earlier : List Date) (session : Date)
    (b : Books σ) : Except RunError Nat × Books σ :=
  let o := b.outlook f earlier session
  match strategy.beforeSession o (.new b.blotter) b.strategy with
  | (.error e, d, s) => (.error e, b.take d s)
  | (.ok (), d, s) =>
    match strategy.onSession o d s with
    | (.error e, d, s) => (.error e, b.take d s)
    | (.ok (), d, s) => (.ok d.ordersPlaced, b.take d s)

/-- Fills, books, marks and records at the close of a session in which orders were placed. -/
def closeSession (f : Feeds) (session : Date) (ordersPlaced : Nat) (b : Books σ) :
    SessionRecord × Books σ :=
  let quotes := f.closes session
  let fills := b.blotter.fills session quotes
  let ledger := (fills.foldl Ledger.trade b.ledger).mark quotes
  let report : SessionReport := ⟨ledger, f.benchmark.get? session, ordersPlaced⟩
  (⟨session, fills, report, b.metrics.packet report⟩,
    { b with
      blotter := (b.blotter.afterFills quotes).endOfSession
      ledger := ledger
      metrics := b.metrics.record report })

/-- Runs sessions in order, given those before them and the number of orders placed before the first. -/
def runSessions (f : Feeds) (strategy : Strategy σ) (earlier : List Date) (carried : Nat) :
    List Date → Books σ → Except RunError (List SessionRecord) × Books σ
  | [], b => (.ok [], b)
  | session :: rest, b =>
    match actSession f strategy earlier session b with
    | (.error e, b) => (.error e, b)
    | (.ok placed, b) =>
      let (record, b) := closeSession f session (placed + carried) b
      let (result, last) := runSessions f strategy (earlier ++ [session]) 0 rest b
      (result.map (record :: ·), last)

/-- Lets the strategy act before the first session; answers how many orders it placed. -/
def actInitially (f : Feeds) (strategy : Strategy σ) (first : Date) (b : Books σ) :
    Except RunError Nat × Books σ :=
  match strategy.beforeRun (b.outlook f [] first) (.new b.blotter) b.strategy with
  | (.error e, d, s) => (.error e, b.take d s)
  | (.ok (), d, s) => (.ok d.ordersPlaced, b.take d s)

/-- The books that a run begins with. -/
def Books.new (metrics : List MetricKind) (policy : CancelPolicy) (capitalBase : Float) (s : σ) :
    Books σ :=
  ⟨s, .new policy, .new capitalBase, (MetricsSet.ofKinds metrics).start capitalBase⟩

/-- Runs all sessions of a run, the first of which is given apart. -/
def runFrom (f : Feeds) (strategy : Strategy σ) (first : Date) (rest : List Date) (b : Books σ) :
    Except RunError (List SessionRecord) × Books σ :=
  match actInitially f strategy first b with
  | (.error e, b) => (.error e, b)
  | (.ok carried, b) => runSessions f strategy [] carried (first :: rest) b

/-- The performance that the records of the sessions and the books in the end make. -/
def performanceOf (records : List SessionRecord) (b : Books σ) : Performance :=
  ⟨records.map fun r => ⟨r.session, r.columns⟩, b.metrics.summary⟩

/-- Everything that a simulation is set up with besides its strategy. -/
structure Scenario where
  calendar : TradingCalendar
  first : Date
  last : Date
  capitalBase : Float
  metrics : List MetricKind
  policy : CancelPolicy
  feeds : Feeds

/-- The sessions of a scenario. -/
def Scenario.sessions (c : Scenario) : List Date :=
  c.calendar.sessionsInRange c.first c.last

/-- Runs a strategy from a state of its own through a scenario; answers the performance and the
strategy's state in the end. -/
def Scenario.run (c : Scenario) (strategy : Strategy σ) (s : σ) : Except RunError Performance × σ :=
  match c.sessions with
  | [] => (.error (.simulation (.noSessions c.calendar.name c.first c.last)), s)
  | first :: rest =>
    match runFrom c.feeds strategy first rest (.new c.metrics c.policy c.capitalBase s) with
    | (.error e, b) => (.error e, b.strategy)
    | (.ok records, b) =>
      let performance := performanceOf records b
      match strategy.afterRun performance b.strategy with
      | (.error e, s) => (.error e, s)
      | (.ok (), s) => (.ok performance, s)

/-- Refuses data that is finer than daily. -/
def checkFrequency (frequency : DataFrequency) : Except RunError Unit :=
  match frequency with
  | .daily => .ok ()
  | .minute => .error (.simulation (.unsupportedFrequency .minute))

/-- The strategy of a script's text, if the text can be read. -/
def Strategy.ofSource (filename text : String) : Except RunError (Strategy Language.Bindings) :=
  match Language.parseScript text with
  | .ok lines => .ok (.ofLines filename lines)
  | .error e => .error (.simulation (.script filename e))

end Backtest.Simulation
