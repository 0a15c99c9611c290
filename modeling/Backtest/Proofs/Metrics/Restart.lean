import Backtest.Proofs.Metrics.SetReports
import Backtest.Proofs.Number.Wholes

/-!
# Starting again

A set of metrics can be started again after a run. The packets of the new run are those of a new set, and so
is its summary but for three columns, which carry on from the runs before: the largest drawdown, the last
portfolio value and the number of orders. `Metric.current` is what a start settles of a metric; it commutes with
every call, so that what carries on never gets into the rest.
-/

namespace Backtest.Metrics

/-- The columns of a summary that carry on from the runs before. -/
def carriedColumns : List String :=
  ["max_drawdown", "ending_portfolio_value", "total_orders"]

namespace Metric

variable (m : Metric)

/-- A metric after some calls, one after the other. -/
def afterAll (calls : List MetricsCall) : Metric :=
  calls.foldl after m

/-- A metric keeps its kind. -/
theorem kind_afterAll (calls : List MetricsCall) : (m.afterAll calls).kind = m.kind := by
  induction calls generalizing m with
  | nil => rfl
  | cons call rest ih => exact (ih (m.after call)).trans (m.kind_after call)

/-- A metric without what carries on from the runs before. -/
def current : Metric → Metric
  | returns s => returns { s with maxDrawdown := 0.0 }
  | portfolioValue _ => portfolioValue none
  | orders _ => orders 0
  | m => m

/-- A start forgets all the rest. -/
theorem current_start (capitalBase : Float) :
    (m.start capitalBase).current = ((new m.kind).start capitalBase).current := by
  cases m <;> rfl

/-- What carries on does not influence the rest. -/
theorem current_after (call : MetricsCall) : (m.after call).current = (m.current.after call).current := by
  cases call with
  | start capitalBase => cases m <;> rfl
  | finalize => cases m <;> rfl
  | record report =>
    cases m with
    | returns s =>
      simp only [after, record, current, ReturnsState.record]
      split
      · rfl
      · split <;> rfl
    | _ => rfl

/-- Metrics that agree but for what is carried on agree so after all calls. -/
theorem current_afterAll {m n : Metric} (same : m.current = n.current) (calls : List MetricsCall) :
    (m.afterAll calls).current = (n.afterAll calls).current := by
  induction calls generalizing m n with
  | nil => exact same
  | cons call rest ih =>
    refine ih ?_
    rw [current_after, same, ← current_after]

/-- What is carried on does not show in a packet. -/
theorem column?_current (report : SessionReport) : m.current.column? report = m.column? report := by
  cases m <;> rfl

/-- Nor does it show in the other columns of the summary. -/
theorem mem_summary_current {column : String} (free : column ∉ carriedColumns) (x : Float) :
    (column, x) ∈ m.current.summary ↔ (column, x) ∈ m.summary := by
  simp only [carriedColumns, List.mem_cons, List.not_mem_nil, not_or, or_false] at free
  cases m with
  | returns s => simp [current, summary, free]
  | portfolioValue last => simp [current, summary, Ne.symm free.2.1]
  | orders total => simp [current, summary, free]
  | _ => rfl

/-- A start changes nothing of what carries on. -/
theorem mem_summary_start {column : String} (carried : column ∈ carriedColumns) (capitalBase x : Float) :
    (column, x) ∈ (m.start capitalBase).summary ↔ (column, x) ∈ m.summary := by
  cases m with
  | returns s =>
    have other : column ≠ "algorithm_period_return" := by
      rintro rfl
      exact absurd carried (by decide)
    simp [start, summary, other]
  | benchmark cumulative seen =>
    have other : column ≠ "benchmark_period_return" := by
      rintro rfl
      exact absurd carried (by decide)
    cases seen <;> simp [start, summary, other]
  | sessionCount sessions =>
    have other : column ≠ "trading_days" := by
      rintro rfl
      exact absurd carried (by decide)
    simp [start, summary, other]
  | _ => rfl

/-- A metric that has nothing to carry on is new after a start. -/
theorem start_eq_start_new (capitalBase : Float) (clean : ∀ column ∈ carriedColumns, ∀ x,
    (column, x) ∈ m.summary ↔ (column, x) ∈ (new m.kind).summary) :
    m.start capitalBase = (new m.kind).start capitalBase := by
  cases m with
  | returns s =>
    have zero : s.maxDrawdown = 0.0 := by
      simpa [summary, new, kind] using clean "max_drawdown" (by decide) s.maxDrawdown
    simp [start, new, kind, zero]
  | portfolioValue last =>
    cases last with
    | none => rfl
    | some value =>
      have := (clean "ending_portfolio_value" (by decide) value).1 (by simp [summary])
      simp [summary, new, kind] at this
  | orders total =>
    have zero : Float.ofNat total = Float.ofNat 0 := by
      simpa [summary, new, kind] using clean "total_orders" (by decide) (Float.ofNat total)
    rw [Number.ofNat_eq_ofNat_zero_iff.1 zero]
    rfl
  | _ => rfl

end Metric

namespace MetricsSet

/-- A set after some calls, one after the other. -/
def afterAll (s : MetricsSet) (calls : List MetricsCall) : MetricsSet :=
  calls.foldl after s

variable (kinds : List MetricKind)

/-- A set changes as each of its metrics does. -/
theorem afterAll_ofStates (state : MetricKind → Metric) (calls : List MetricsCall) :
    (ofStates kinds state).afterAll calls = ofStates kinds fun kind => (state kind).afterAll calls := by
  induction calls generalizing state with
  | nil => rfl
  | cons call rest ih =>
    change ((ofStates kinds state).after call).afterAll rest = _
    rw [after_ofStates, ih]
    rfl

variable {kinds} {state other : MetricKind → Metric}

/-- Sets whose metrics agree but for what is carried on write the same packets. -/
theorem packet_congr (same : ∀ kind, (state kind).current = (other kind).current) (report : SessionReport) :
    (ofStates kinds state).packet report = (ofStates kinds other).packet report := by
  have columns (kind : MetricKind) : (state kind).column? report = (other kind).column? report := by
    rw [← Metric.column?_current, same, Metric.column?_current]
  simp only [packet, ofStates, List.filterMap_map, Function.comp_def, columns]

/-- Sets whose metrics write the same in a column have the same there. -/
theorem get?_summary_congr (kept : ∀ kind, (state kind).kind = kind)
    (kept' : ∀ kind, (other kind).kind = kind) {column : String}
    (same : ∀ kind ∈ kinds, ∀ x, (column, x) ∈ (state kind).summary ↔ (column, x) ∈ (other kind).summary) :
    (ofStates kinds state).summary.get? column = (ofStates kinds other).summary.get? column := by
  refine Option.ext fun x => ?_
  rw [get?_summary_eq_some_iff kept, get?_summary_eq_some_iff kept']
  exact exists_congr fun kind => and_congr_right fun here => same kind here x

/-- A new metric has the kind that it is made of. -/
theorem kind_new (kind : MetricKind) : (Metric.new kind).kind = kind := by
  cases kind <;> rfl

/-- What a metric of a set has written is found in the summary, under a column of its kind. -/
theorem mem_summary_iff (kept : ∀ kind, (state kind).kind = kind) {kind : MetricKind} (here : kind ∈ kinds)
    {column : String} {x : Float} : (column, x) ∈ (state kind).summary ↔
      MetricKind.ofColumn? column = some kind ∧ (ofStates kinds state).summary.get? column = some x := by
  have owner {k : MetricKind} (written : (column, x) ∈ (state k).summary) :
      MetricKind.ofColumn? column = some k := by
    rw [← kept k]
    exact owned_summary.kind _ _ written
  rw [get?_summary_eq_some_iff kept]
  constructor
  · intro written
    exact ⟨owner written, kind, here, written⟩
  · rintro ⟨own, other, -, written⟩
    obtain rfl : kind = other := Option.some.inj (own.symm.trans (owner written))
    exact written

/-- Sets of the same kinds that agree in what carries on are alike after a start. -/
theorem start_eq_start_new (kept : ∀ kind, (state kind).kind = kind)
    (clean : ∀ column ∈ carriedColumns,
      (ofStates kinds state).summary.get? column = (ofKinds kinds).summary.get? column)
    (capitalBase : Float) :
    (ofStates kinds state).start capitalBase = (ofKinds kinds).start capitalBase := by
  have metrics : ∀ kind ∈ kinds, (state kind).start capitalBase = (Metric.new kind).start capitalBase := by
    intro kind here
    have own := (state kind).start_eq_start_new capitalBase
    rw [kept] at own
    refine own fun column carried x => ?_
    rw [mem_summary_iff kept here, clean column carried]
    exact (mem_summary_iff kind_new here).symm
  simp only [start, ofStates, ofKinds, List.map_map]
  exact congrArg MetricsSet.mk (List.map_congr_left metrics)

section Restart

variable (kinds) (capitalBase : Float)

/-- The metrics of a set that has been used. -/
theorem afterAll_ofKinds (earlier : List MetricsCall) : (ofKinds kinds).afterAll earlier =
    ofStates kinds fun kind => (Metric.new kind).afterAll earlier :=
  afterAll_ofStates kinds Metric.new earlier

/-- A set starts as each of its metrics does. -/
theorem start_ofStates (state : MetricKind → Metric) :
    (ofStates kinds state).start capitalBase = ofStates kinds fun kind => (state kind).start capitalBase :=
  after_ofStates kinds state (.start capitalBase)

/-- A start changes nothing of what carries on. -/
theorem get?_summary_start {column : String} (carried : column ∈ carriedColumns)
    {state : MetricKind → Metric} (kept : ∀ kind, (state kind).kind = kind) :
    ((ofStates kinds state).start capitalBase).summary.get? column =
      (ofStates kinds state).summary.get? column := by
  rw [start_ofStates]
  refine get?_summary_congr (fun kind => ?_) kept fun kind _ x => ?_
  · exact ((state kind).kind_after (.start capitalBase)).trans (kept kind)
  · exact (state kind).mem_summary_start carried capitalBase x

/-- After a start, a set reports what a new one would, but for the columns that carry on; and it reports all
that a new one would if and only if it had nothing to carry on. -/
theorem reports_after_restart (kinds : List MetricKind) (earlier : List MetricsCall) (capitalBase : Float) :
    let used := (ofKinds kinds).afterAll earlier
    let fresh := ofKinds kinds
    (∀ later report, ((used.start capitalBase).afterAll later).packet report =
      ((fresh.start capitalBase).afterAll later).packet report) ∧
    (∀ later column, column ∉ carriedColumns →
      ((used.start capitalBase).afterAll later).summary.get? column =
        ((fresh.start capitalBase).afterAll later).summary.get? column) ∧
    ((∀ later, (used.start capitalBase).answers later = (fresh.start capitalBase).answers later) ↔
      ∀ column ∈ carriedColumns, used.summary.get? column = fresh.summary.get? column) := by
  intro used fresh
  let state (kind : MetricKind) : Metric := (Metric.new kind).afterAll earlier
  have kept (kind : MetricKind) : (state kind).kind = kind :=
    ((Metric.new kind).kind_afterAll earlier).trans (kind_new kind)
  have used_eq : used = ofStates kinds state := afterAll_ofKinds kinds earlier
  have fresh_eq : fresh = ofStates kinds Metric.new := rfl
  have same (later : List MetricsCall) (kind : MetricKind) :
      (((state kind).start capitalBase).afterAll later).current =
        (((Metric.new kind).start capitalBase).afterAll later).current := by
    refine Metric.current_afterAll ?_ later
    rw [Metric.current_start, kept]
  have kept_after {states : MetricKind → Metric} (kept : ∀ kind, (states kind).kind = kind)
      (later : List MetricsCall) (kind : MetricKind) :
      (((states kind).start capitalBase).afterAll later).kind = kind :=
    (Metric.kind_afterAll _ later).trans (((states kind).kind_after (.start capitalBase)).trans (kept kind))
  rw [used_eq, fresh_eq]
  refine ⟨fun later report => ?packets, fun later column free => ?summaries, ?fresh⟩
  case packets =>
    simp only [start_ofStates, afterAll_ofStates]
    exact packet_congr (same later) report
  case summaries =>
    simp only [start_ofStates, afterAll_ofStates]
    refine get?_summary_congr (kept_after kept later) (kept_after kind_new later) fun kind _ x => ?_
    rw [← Metric.mem_summary_current _ free, same, Metric.mem_summary_current _ free]
  case fresh =>
    constructor
    · intro alike column carried
      have summaries := List.head_eq_of_cons_eq (alike [.finalize])
      rw [← get?_summary_start kinds capitalBase carried kept,
        ← get?_summary_start kinds capitalBase carried kind_new]
      exact congrArg (SortedMap.get? · column) (Option.some.inj summaries)
    · intro clean later
      rw [start_eq_start_new kept clean, ← fresh_eq]

end Restart

/-- Orders that were placed before a start are counted among those of the new run. -/
theorem not_all_restarts_fresh : ¬∀ (kinds : List MetricKind) (earlier later : List MetricsCall)
    (capitalBase : Float), (∀ call ∈ later, ∀ c, call ≠ .start c) →
      (((ofKinds kinds).afterAll earlier).start capitalBase).answers later =
        ((ofKinds kinds).start capitalBase).answers later := by
  intro all
  have alike := all [.orders] [.start 100.0, .record ⟨.new 50.0, none, 2⟩] [.finalize] 100.0 (by simp)
  have totals := congrArg (List.map (Option.map SortedMap.values)) alike
  exact absurd totals (by decide +kernel)

end MetricsSet

end Backtest.Metrics
