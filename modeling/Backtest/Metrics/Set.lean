import Backtest.Metrics.Metric

/-!
# Sets of metrics

Metrics that are started, recorded and summed up together. Of two metrics that write the same column
the later one counts.
-/

namespace Backtest.Metrics

/-- Metrics in the order in which they report. -/
structure MetricsSet where
  metrics : List Metric

namespace MetricsSet

/-- Metrics of the given kinds, none of them started. -/
def ofKinds (kinds : List MetricKind) : MetricsSet :=
  ⟨kinds.map Metric.new⟩

/-- The names of the metrics in order. -/
def names (s : MetricsSet) : List String :=
  s.metrics.map fun m => m.kind.name

/-- Begins a run with a capital. -/
def start (s : MetricsSet) (capitalBase : Float) : MetricsSet :=
  ⟨s.metrics.map (Metric.start capitalBase)⟩

/-- The set after a session. -/
def record (s : MetricsSet) (r : SessionReport) : MetricsSet :=
  ⟨s.metrics.map (Metric.record r)⟩

/-- What the set, as it was before a session, reports of the session. -/
def packet (s : MetricsSet) (r : SessionReport) : Packet :=
  .ofList (s.metrics.filterMap (Metric.column? r))

/-- What the set reports of the whole run. -/
def summary (s : MetricsSet) : Packet :=
  .ofList (s.metrics.flatMap Metric.summary)

end MetricsSet

end Backtest.Metrics
