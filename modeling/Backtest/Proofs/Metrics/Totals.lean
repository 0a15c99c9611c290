import Backtest.Proofs.Metrics.SetReports
import Mathlib.Algebra.GroupWithZero.Nat

/-!
# Totals

Some metrics only count. After a run the metric of orders has added up the orders that the sessions
reported, and the metric of sessions has counted the sessions; the summary tells both under names that no
other metric uses.
-/

namespace Backtest.Metrics

/-- The metric after some sessions. -/
def Metric.recordAll (m : Metric) (reports : List SessionReport) : Metric :=
  reports.foldl (fun m r => m.record r) m

/-- The set after some sessions. -/
def MetricsSet.recordAll (s : MetricsSet) (reports : List SessionReport) : MetricsSet :=
  reports.foldl MetricsSet.record s

section Totals

variable {reports : List SessionReport}

/-- A set records reports as each of its metrics does. -/
theorem MetricsSet.metrics_recordAll (s : MetricsSet) (reports : List SessionReport) :
    (s.recordAll reports).metrics = s.metrics.map (·.recordAll reports) := by
  induction reports generalizing s with
  | nil => exact (List.map_id _).symm
  | cons r rest ih =>
    rw [recordAll, List.foldl_cons, ← recordAll, ih, record, List.map_map]
    rfl

/-- Recording changes nothing of the kind of a metric. -/
theorem Metric.kind_recordAll (m : Metric) (reports : List SessionReport) :
    (m.recordAll reports).kind = m.kind := by
  induction reports generalizing m with
  | nil => rfl
  | cons r rest ih =>
    rw [recordAll, List.foldl_cons, ← recordAll, ih]
    cases m <;> rfl

/-- The metric of orders adds up the orders of the sessions. -/
theorem recordAll_orders (n : Nat) (reports : List SessionReport) :
    (Metric.orders n).recordAll reports = .orders (n + (reports.map (·.ordersPlaced)).sum) := by
  induction reports generalizing n with
  | nil => rfl
  | cons r rest ih =>
    have step : (Metric.orders n).recordAll (r :: rest) =
        (Metric.orders (n + r.ordersPlaced)).recordAll rest := rfl
    rw [step, ih, List.map_cons, List.sum_cons, Nat.add_assoc]

/-- The metric of sessions counts them. -/
theorem recordAll_sessionCount (n : Nat) (reports : List SessionReport) :
    (Metric.sessionCount n).recordAll reports = .sessionCount (n + reports.length) := by
  induction reports generalizing n with
  | nil => rfl
  | cons r rest ih =>
    have step : (Metric.sessionCount n).recordAll (r :: rest) =
        (Metric.sessionCount (n + 1)).recordAll rest := rfl
    rw [step, ih, List.length_cons, Nat.add_assoc, Nat.add_comm 1]

/-- A metric of a kind after a run of some sessions that began with a capital. -/
def MetricKind.after (k : MetricKind) (capitalBase : Float) (reports : List SessionReport) : Metric :=
  ((Metric.new k).start capitalBase).recordAll reports

/-- The metric of a kind has that kind after all reports. -/
theorem MetricKind.kind_after (k : MetricKind) (capitalBase : Float) (reports : List SessionReport) :
    (k.after capitalBase reports).kind = k := by
  rw [after, Metric.kind_recordAll]
  cases k <;> rfl

/-- What a kind of metric sums up is found in the summary. -/
theorem summary_get? {kinds : List MetricKind} {capitalBase : Float} {k : MetricKind}
    {column : String} {value : Float} (here : k ∈ kinds)
    (sums : (column, value) ∈ (k.after capitalBase reports).summary) :
    (((MetricsSet.ofKinds kinds).start capitalBase).recordAll reports).summary.get? column =
      some value := by
  have metrics : (((MetricsSet.ofKinds kinds).start capitalBase).recordAll reports).metrics =
      kinds.map (·.after capitalBase reports) := by
    rw [MetricsSet.metrics_recordAll, MetricsSet.start, MetricsSet.ofKinds, List.map_map, List.map_map]
    rfl
  rw [MetricsSet.summary, metrics]
  exact (MetricsSet.get?_summary_eq_some_iff (MetricKind.kind_after · capitalBase reports)).2 ⟨k, here, sums⟩

/-- The summary tells how many orders the sessions reported. -/
theorem summary_total_orders {kinds : List MetricKind} (capitalBase : Float) (here : .orders ∈ kinds) :
    (((MetricsSet.ofKinds kinds).start capitalBase).recordAll reports).summary.get? "total_orders" =
      some (Float.ofNat (reports.map (·.ordersPlaced)).sum) := by
  refine summary_get? here ?_
  have after : MetricKind.orders.after capitalBase reports =
      .orders (0 + (reports.map (·.ordersPlaced)).sum) := recordAll_orders 0 reports
  rw [after, Nat.zero_add]
  exact List.mem_singleton_self _

/-- The summary tells how many sessions there were. -/
theorem summary_trading_days {kinds : List MetricKind} (capitalBase : Float)
    (here : .sessionCount ∈ kinds) :
    (((MetricsSet.ofKinds kinds).start capitalBase).recordAll reports).summary.get? "trading_days" =
      some (Float.ofNat reports.length) := by
  refine summary_get? here ?_
  have after : MetricKind.sessionCount.after capitalBase reports =
      .sessionCount (0 + reports.length) := recordAll_sessionCount 0 reports
  rw [after, Nat.zero_add]
  exact List.mem_singleton_self _

end Totals

end Backtest.Metrics
