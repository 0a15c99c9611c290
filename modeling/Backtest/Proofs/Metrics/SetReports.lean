import Backtest.Metrics.Set
import Backtest.Proofs.LookUps

/-!
# Reports of sets of metrics

What a set reports depends on which kinds of metrics it holds, and neither on their order nor on how often it
holds each. Every column comes from one kind of metric, so that no metric writes over another of a different
kind; and all metrics of one kind in a set have seen the same calls and are in the same state, so that what
they write over each other is the same.
-/

namespace Backtest.Metrics

/-- The kind of metrics that a column comes from, in packets or in summaries. -/
def MetricKind.ofColumn? : String → Option MetricKind
  | "returns" => some returns
  | "portfolio_value" => some portfolioValue
  | "ending_cash" => some cash
  | "benchmark_return" => some benchmark
  | "positions_value" => some positionsValue
  | "orders" => some orders
  | "algorithm_period_return" => some returns
  | "max_drawdown" => some returns
  | "ending_portfolio_value" => some portfolioValue
  | "benchmark_period_return" => some benchmark
  | "trading_days" => some sessionCount
  | "total_orders" => some orders
  | _ => none

/-- What a metric writes is its own: every column comes from its kind, and is written once. -/
structure Owned (write : Metric → List (String × Float)) : Prop where
  kind : ∀ m, ∀ e ∈ write m, MetricKind.ofColumn? e.1 = some m.kind
  once : ∀ m, ((write m).map Prod.fst).Nodup

/-- Every metric writes the columns of packets that its kind owns. -/
theorem owned_column (r : SessionReport) : Owned fun m => (m.column? r).toList := by
  refine ⟨fun m e here => ?_, fun m => ?_⟩
  · cases m <;> simp [Metric.column?] at here <;> subst here <;> rfl
  · cases m.column? r <;> simp

/-- Every metric writes the columns of the summary that its kind owns. -/
theorem owned_summary : Owned Metric.summary := by
  refine ⟨fun m e here => ?_, fun m => ?_⟩
  · cases m with
    | returns state =>
      rcases List.mem_pair.1 here with rfl | rfl <;> rfl
    | portfolioValue last =>
      obtain ⟨value, -, rfl⟩ := List.mem_map.1 here
      rfl
    | benchmark cumulative seen =>
      cases seen
      · cases here
      · cases List.mem_singleton.1 here
        rfl
    | sessionCount sessions =>
      cases List.mem_singleton.1 here
      rfl
    | orders total =>
      cases List.mem_singleton.1 here
      rfl
    | cash => cases here
    | positionsValue => cases here
  · cases m with
    | portfolioValue last => cases last <;> simp [Metric.summary]
    | benchmark cumulative seen => cases seen <;> simp [Metric.summary]
    | _ => simp [Metric.summary]

/-- Metrics whose states go by their kinds write one value at most in a column: the column tells the kind, the kind
the state, and the state the value. -/
theorem Owned.functional {write : Metric → List (String × Float)} (owned : Owned write)
    {state : MetricKind → Metric} (kept : ∀ kind, (state kind).kind = kind) (kinds : List MetricKind)
    (column : String) (x y : Float) (first : (column, x) ∈ (kinds.map state).flatMap write)
    (second : (column, y) ∈ (kinds.map state).flatMap write) : x = y := by
  obtain ⟨m, here, first⟩ := List.mem_flatMap.1 first
  obtain ⟨n, there, second⟩ := List.mem_flatMap.1 second
  obtain ⟨kind, -, rfl⟩ := List.mem_map.1 here
  obtain ⟨kind', -, rfl⟩ := List.mem_map.1 there
  have owner : MetricKind.ofColumn? column = some kind :=
    (owned.kind _ _ first).trans (congrArg some (kept kind))
  have owner' : MetricKind.ofColumn? column = some kind' :=
    (owned.kind _ _ second).trans (congrArg some (kept kind'))
  obtain rfl : kind = kind' := Option.some.inj (owner.symm.trans owner')
  exact congrArg Prod.snd (List.inj_on_of_nodup_map (owned.once _) first second rfl)

/-- Such metrics write the same map, whatever their order and repetitions are. -/
theorem Owned.ofList_congr {write : Metric → List (String × Float)} (owned : Owned write)
    {state : MetricKind → Metric} (kept : ∀ kind, (state kind).kind = kind) {kinds others : List MetricKind}
    (same : ∀ kind, kind ∈ kinds ↔ kind ∈ others) :
    SortedMap.ofList ((kinds.map state).flatMap write) = SortedMap.ofList ((others.map state).flatMap write) := by
  refine SortedMap.ofList_congr (fun e => ?_) (owned.functional kept kinds)
  simp only [List.mem_flatMap, List.mem_map, same]

/-- What can be asked of a set of metrics. -/
inductive MetricsCall where
  | start (capitalBase : Float)
  | record (report : SessionReport)
  | finalize

/-- A metric after a call. -/
def Metric.after (m : Metric) : MetricsCall → Metric
  | .start capitalBase => m.start capitalBase
  | .record report => m.record report
  | .finalize => m

/-- A call changes nothing of the kind of a metric. -/
theorem Metric.kind_after (m : Metric) (call : MetricsCall) : (m.after call).kind = m.kind := by
  cases call <;> cases m <;> rfl

namespace MetricsSet

/-- A set after a call. -/
def after (s : MetricsSet) : MetricsCall → MetricsSet
  | .start capitalBase => s.start capitalBase
  | .record report => s.record report
  | .finalize => s

/-- What a set answers to a call: a packet to a record, and the summary in the end. -/
def answer? (s : MetricsSet) : MetricsCall → Option Packet
  | .start _ => none
  | .record report => some (s.packet report)
  | .finalize => some s.summary

/-- What a set answers to some calls, one after the other. -/
def answers (s : MetricsSet) : List MetricsCall → List (Option Packet)
  | [] => []
  | call :: rest => s.answer? call :: (s.after call).answers rest

/-- The metrics of some kinds, in the states of their kinds. -/
def ofStates (kinds : List MetricKind) (state : MetricKind → Metric) : MetricsSet :=
  ⟨kinds.map state⟩

/-- Metrics of one kind change together. -/
theorem after_ofStates (kinds : List MetricKind) (state : MetricKind → Metric) (call : MetricsCall) :
    (ofStates kinds state).after call = ofStates kinds fun kind => (state kind).after call := by
  cases call with
  | start capitalBase => exact congrArg MetricsSet.mk List.map_map
  | record report => exact congrArg MetricsSet.mk List.map_map
  | finalize => rfl

variable {kinds others : List MetricKind} {state : MetricKind → Metric}

/-- What is found in a summary is what a metric of the set has written there. -/
theorem get?_summary_eq_some_iff (kept : ∀ kind, (state kind).kind = kind) {column : String} {x : Float} :
    (ofStates kinds state).summary.get? column = some x ↔
      ∃ kind ∈ kinds, (column, x) ∈ (state kind).summary := by
  refine (SortedMap.get?_ofList_eq_some_iff (owned_summary.functional kept kinds column)).trans ?_
  simp only [List.mem_flatMap, List.mem_map, exists_exists_and_eq_and]

/-- Sets of the same kinds in the same states answer alike. -/
theorem answer?_congr (kept : ∀ kind, (state kind).kind = kind)
    (same : ∀ kind, kind ∈ kinds ↔ kind ∈ others) (call : MetricsCall) :
    (ofStates kinds state).answer? call = (ofStates others state).answer? call := by
  cases call with
  | start capitalBase => rfl
  | record report =>
    simp only [answer?, packet, List.filterMap_eq_flatMap_toList]
    exact congrArg some ((owned_column report).ofList_congr kept same)
  | finalize => exact congrArg some (owned_summary.ofList_congr kept same)

/-- Sets of the same kinds, with metrics in the same states, answer all calls alike. -/
theorem answers_congr (kept : ∀ kind, (state kind).kind = kind)
    (same : ∀ kind, kind ∈ kinds ↔ kind ∈ others) (calls : List MetricsCall) :
    (ofStates kinds state).answers calls = (ofStates others state).answers calls := by
  induction calls generalizing state with
  | nil => rfl
  | cons call rest ih =>
    have later := ih fun kind => ((state kind).kind_after call).trans (kept kind)
    rw [answers, answers, answer?_congr kept same, after_ofStates, after_ofStates, later]

/-- What a set reports depends only on which metrics it holds. Two sets made of the same kinds, in any order
and with any repetitions, answer any calls with the same packets and the same summaries. -/
theorem answers_of_same_kinds (same : ∀ kind, kind ∈ kinds ↔ kind ∈ others) (calls : List MetricsCall) :
    (ofKinds kinds).answers calls = (ofKinds others).answers calls := by
  have kept (kind : MetricKind) : (Metric.new kind).kind = kind := by cases kind <;> rfl
  exact answers_congr kept same calls

/-- Orders that are counted twice are counted as once, and the order of the columns is that of their names. -/
theorem answers_of_same_kinds_of_repetition :
    let twice : List MetricKind := [.orders, .returns, .orders]
    let once : List MetricKind := [.returns, .orders]
    let calls : List MetricsCall := [.start 1.0, .record ⟨.new 1.0, none, 2⟩, .finalize]
    (∀ kind, kind ∈ twice ↔ kind ∈ once) ∧
      (ofKinds twice).answers calls = (ofKinds once).answers calls ∧
      ((ofKinds twice).answers calls).map (Option.map SortedMap.keys) =
        [none, some ["orders", "returns"],
          some ["algorithm_period_return", "max_drawdown", "total_orders"]] := by
  intro twice once calls
  have same : ∀ kind, kind ∈ twice ↔ kind ∈ once := by
    intro kind
    cases kind <;> decide
  exact ⟨same, answers_of_same_kinds same calls, by decide +kernel⟩

end MetricsSet

end Backtest.Metrics
