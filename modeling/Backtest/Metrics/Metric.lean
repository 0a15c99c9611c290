import Backtest.Trading.Ledger

/-!
# Metrics

What a run measures. A metric is started once, records every session, and at the end contributes to the
summary; packets and summaries map column names to numbers.
-/

namespace Backtest.Metrics

open Backtest.Trading (Ledger)

/-- Columns with their numbers, in the order of the column names. -/
abbrev Packet := SortedMap String Float

/-- The kinds of metrics. -/
inductive MetricKind where
  | returns
  | portfolioValue
  | cash
  | benchmark
  | positionsValue
  | sessionCount
  | orders
  deriving DecidableEq, Repr

namespace MetricKind

/-- All kinds of metrics, in the order in which the default set holds them. -/
def all : List MetricKind :=
  [returns, portfolioValue, cash, benchmark, positionsValue, sessionCount, orders]

/-- The name of a kind. -/
def name : MetricKind → String
  | returns => "returns"
  | portfolioValue => "portfolio_value"
  | cash => "cash"
  | benchmark => "benchmark"
  | positionsValue => "positions_value"
  | sessionCount => "session_count"
  | orders => "orders"

/-- The kind of a name. -/
def ofName? (name : String) : Option MetricKind :=
  all.find? fun k => k.name == name

end MetricKind

/-- What a metric sees at the close of a session. -/
structure SessionReport where
  ledger : Ledger
  benchmarkReturn : Option Float
  ordersPlaced : Nat

/-- The values that the returns are computed from. -/
structure ReturnsState where
  capitalBase : Float
  previous : Float
  peak : Float
  maxDrawdown : Float
  last : Float

/-- A metric with what it has seen. -/
inductive Metric where
  | returns (state : ReturnsState)
  | portfolioValue (last : Option Float)
  | cash
  | benchmark (cumulative : Float) (seen : Bool)
  | positionsValue
  | sessionCount (sessions : Nat)
  | orders (total : Nat)

/-- The larger of two doubles; what is no number does not count. -/
def larger (a b : Float) : Float :=
  if a.isNaN then b else if b.isNaN then a else if a < b then b else a

/-- The growth from one value to another, none if the first is zero. -/
def growth (first last : Float) : Float :=
  if first != 0.0 then last / first - 1.0 else 0.0

/-- The returns after a session that closed with a portfolio value. A drawdown is measured from the
highest value so far. -/
def ReturnsState.record (s : ReturnsState) (value : Float) : ReturnsState :=
  if value > s.peak then { s with peak := value, previous := value, last := value }
  else if s.peak > 0.0 then
    { s with
      maxDrawdown := larger s.maxDrawdown ((s.peak - value) / s.peak)
      previous := value
      last := value }
  else { s with previous := value, last := value }

namespace Metric

/-- A metric that has not been started. -/
def new : MetricKind → Metric
  | .returns => returns ⟨0.0, 0.0, 0.0, 0.0, 0.0⟩
  | .portfolioValue => portfolioValue none
  | .cash => cash
  | .benchmark => benchmark 0.0 false
  | .positionsValue => positionsValue
  | .sessionCount => sessionCount 0
  | .orders => orders 0

/-- The kind of a metric. -/
def kind : Metric → MetricKind
  | returns _ => .returns
  | portfolioValue _ => .portfolioValue
  | cash => .cash
  | benchmark .. => .benchmark
  | positionsValue => .positionsValue
  | sessionCount _ => .sessionCount
  | orders _ => .orders

/-- Begins a run with a capital. The largest drawdown, the last portfolio value and the number of orders
keep what they have. -/
def start (capitalBase : Float) : Metric → Metric
  | returns s =>
    returns
      { s with
        capitalBase := capitalBase
        previous := capitalBase
        peak := capitalBase
        last := capitalBase }
  | benchmark .. => benchmark 1.0 false
  | sessionCount _ => sessionCount 0
  | m => m

/-- The metric after a session. -/
def record (r : SessionReport) : Metric → Metric
  | returns s => returns (s.record r.ledger.portfolioValue)
  | portfolioValue _ => portfolioValue (some r.ledger.portfolioValue)
  | cash => cash
  | benchmark cumulative seen =>
    benchmark (cumulative * (1.0 + r.benchmarkReturn.getD 0.0))
      (seen || r.benchmarkReturn.isSome)
  | positionsValue => positionsValue
  | sessionCount n => sessionCount (n + 1)
  | orders n => orders (n + r.ordersPlaced)

/-- The column that a metric, as it was before the session, adds to the session's packet. -/
def column? (r : SessionReport) : Metric → Option (String × Float)
  | returns s => some ("returns", growth s.previous r.ledger.portfolioValue)
  | portfolioValue _ => some ("portfolio_value", r.ledger.portfolioValue)
  | cash => some ("ending_cash", r.ledger.cash)
  | benchmark .. => some ("benchmark_return", r.benchmarkReturn.getD 0.0)
  | positionsValue => some ("positions_value", r.ledger.positionsValue)
  | sessionCount _ => none
  | orders _ => some ("orders", Float.ofNat r.ordersPlaced)

/-- What a metric adds to the summary. -/
def summary : Metric → List (String × Float)
  | returns s =>
    [("algorithm_period_return", growth s.capitalBase s.last), ("max_drawdown", s.maxDrawdown)]
  | portfolioValue last => last.toList.map fun value => ("ending_portfolio_value", value)
  | benchmark cumulative seen =>
    if seen then [("benchmark_period_return", cumulative - 1.0)] else []
  | sessionCount n => [("trading_days", Float.ofNat n)]
  | orders n => [("total_orders", Float.ofNat n)]
  | cash => []
  | positionsValue => []

end Metric

end Backtest.Metrics
