import Backtest.Proofs.Run.Configuration

/-!
# The events of a run

A run touches nothing before its configuration has been checked, and its results go nowhere unless there are
any. Which data it asks for is settled by the request and by the answers that it gets; which results it has
is settled by its simulation. Nothing is assumed of the sources of data or of what builds simulations.
-/

namespace Backtest.Run

open Backtest.Component (Components)
open Backtest.Files (Workspace)
open Backtest.Market (BenchmarkReturns Bundle)
open Backtest.Results (Performance)

/-- Whether data is asked for. -/
def Event.asksForData : Event → Bool
  | .benchmark => true
  | .bundle _ _ => true
  | _ => false

/-- Whether results are sent on their way. -/
def Event.sendsResults : Event → Bool
  | .output _ => true
  | _ => false

namespace Request

variable {σ : Type}

/-- The benchmark of a run: the returns in the request, or else what the source of benchmarks answers. -/
def benchmarkReturns (r : Request σ) (s : Sources) : Except RunError BenchmarkReturns :=
  match r.benchmark with
  | some returns => .ok returns
  | none => s.benchmark r.environment

/-- The events of asking for data: for a benchmark if the request has none, and then for the bundle that it
names if there is a benchmark. -/
def dataCalls (r : Request σ) (s : Sources) : List Event :=
  (if r.benchmark.isNone then [.benchmark] else []) ++
    if (r.benchmarkReturns s).isOk then [.bundle r.bundle r.timestamp] else []

/-- The data of a request has been found, its simulation has been built from the data and its components, and
has come to results. -/
def Yields (r : Request σ) (build : Factory σ) (s : Sources) (program : Program σ) (resolved : Resolved)
    (p : Performance) : Prop :=
  ∃ returns bundle simulation, r.benchmarkReturns s = .ok returns ∧
    s.bundle r.bundle r.environment r.timestamp = .ok bundle ∧
    build program r.frequency (r.scenario resolved returns bundle) = .ok simulation ∧
    (simulation (r.scenario resolved returns bundle)).1 = .ok p

variable {r : Request σ} {build : Factory σ} {s : Sources} {components : Components} {w : Workspace}
  {program : Program σ} {resolved : Resolved}

/-- The data of a run is its benchmark and then its bundle, and both are asked for in turn. -/
theorem loadData_eq (r : Request σ) (s : Sources) :
    r.loadData s =
      ((do
        let returns ← r.benchmarkReturns s
        let bundle ← s.bundle r.bundle r.environment r.timestamp
        return (returns, bundle)), r.dataCalls s) := by
  unfold loadData loadBundle dataCalls benchmarkReturns
  cases r.benchmark with
  | some returns =>
    cases s.bundle r.bundle r.environment r.timestamp <;> rfl
  | none =>
    cases s.benchmark r.environment with
    | error e => rfl
    | ok returns => cases s.bundle r.bundle r.environment r.timestamp <;> rfl

/-- What is left of a configured run when its data has been asked for. -/
def remainder (r : Request σ) (build : Factory σ) (program : Program σ) (resolved : Resolved) (w : Workspace)
    (data : Except RunError (BenchmarkReturns × Bundle)) : Outcome σ :=
  match data with
  | .error e => .failed e w
  | .ok (returns, bundle) =>
    let scenario := r.scenario resolved returns bundle
    match build program r.frequency scenario with
    | .error e => .failed e w
    | .ok simulation => r.finish w simulation scenario

/-- Without a program a run fails at once. -/
theorem executeWith_of_program_error {e : RunError} (unmade : r.program = .error e) :
    r.executeWith build s components w = .failed e w := by
  rw [executeWith, unmade]

/-- With a program that cannot be configured a run shows its source and fails. -/
theorem executeWith_of_resolve_error {e : RunError} (made : r.program = .ok program)
    (unfound : resolve components r.metrics r.blotter r.calendar r.first r.last = .error e) :
    r.executeWith build s components w = (Outcome.failed e w).after r.shown := by
  rw [executeWith, made]
  simp only [executeProgram, unfound]

/-- A run with a fault ends with it, and does nothing but to show its source. -/
theorem executeWith_of_fault {e : RunError} (fault : r.fault? components = some e) :
    ∃ events ⊆ r.shown, r.executeWith build s components w = ⟨.error e, events, w, none⟩ := by
  rcases fault?_eq_some_iff.1 fault with unmade | ⟨⟨program, made⟩, unfound⟩
  · exact ⟨[], List.nil_subset _, executeWith_of_program_error unmade⟩
  · refine ⟨r.shown, List.Subset.refl _, (executeWith_of_resolve_error made unfound).trans ?_⟩
    simp only [Outcome.after, Outcome.failed, List.append_nil]

/-- A configured run goes straight to its data. -/
theorem executeWith_of_configured (made : r.program = .ok program)
    (found : resolve components r.metrics r.blotter r.calendar r.first r.last = .ok resolved) :
    r.executeWith build s components w =
      ((r.remainder build program resolved w (r.loadData s).1).after (r.dataCalls s)).after r.shown := by
  rw [executeWith, made]
  simp only [executeProgram, found, loadData_eq]
  rfl

/-- Only the source of the strategy is shown before a run is configured. -/
theorem exists_of_mem_shown {event : Event} (h : event ∈ r.shown) :
    ∃ filename text, event = .source filename text := by
  unfold shown at h
  split at h
  · split at h
    · exact ⟨_, _, List.mem_singleton.1 h⟩
    · cases h
  · cases h

/-- Asking for data is asking for a benchmark or for a bundle. -/
theorem asksForData_of_mem_dataCalls {event : Event} (h : event ∈ r.dataCalls s) :
    event.asksForData = true ∧ event.sendsResults = false := by
  rcases List.mem_append.1 h with first | second
  · split at first
    · cases List.mem_singleton.1 first
      exact ⟨rfl, rfl⟩
    · cases first
  · split at second
    · cases List.mem_singleton.1 second
      exact ⟨rfl, rfl⟩
    · cases second

/-- Among those events nothing but data is asked for, and nothing is sent. -/
theorem filter_dataCalls (r : Request σ) (s : Sources) :
    (r.dataCalls s).filter Event.asksForData = r.dataCalls s ∧
      (r.dataCalls s).filter Event.sendsResults = [] := by
  refine ⟨List.filter_eq_self.2 fun event here => (asksForData_of_mem_dataCalls here).1,
    List.filter_eq_nil_iff.2 fun event here => ?_⟩
  rw [(asksForData_of_mem_dataCalls here).2]
  exact Bool.false_ne_true

/-- Events of a kind that a source is not of come from asking for data and from what is done later. -/
theorem filter_events (r : Request σ) (s : Sources) (late : List Event) {kind : Event → Bool}
    (other : ∀ filename text, kind (.source filename text) = false) :
    (r.shown ++ (r.dataCalls s ++ late)).filter kind = (r.dataCalls s).filter kind ++ late.filter kind := by
  have shown : r.shown.filter kind = [] := by
    refine List.filter_eq_nil_iff.2 fun event here => ?_
    obtain ⟨filename, text, rfl⟩ := exists_of_mem_shown here
    rw [other]
    exact Bool.false_ne_true
  rw [List.filter_append, List.filter_append, shown, List.nil_append]

/-- All data has been asked for. -/
theorem filter_asksForData_remainder (data : Except RunError (BenchmarkReturns × Bundle)) :
    (r.remainder build program resolved w data).events.filter Event.asksForData = [] := by
  unfold remainder
  split
  · rfl
  · dsimp only
    split
    · rfl
    · unfold finish
      split
      · rfl
      · dsimp only
        split <;> rfl

/-- What has been simulated with results sends them on their way, and does nothing else to the files. -/
theorem remainder_of_yields {p : Performance} (yields : r.Yields build s program resolved p) :
    let o := r.remainder build program resolved w (r.loadData s).1
    o.events.filter Event.sendsResults = [.output r.output] ∧
      (o.result, o.workspace) =
        match r.output.send w p with
        | .ok written => (.ok p, written)
        | .error e => (.error e, w) := by
  obtain ⟨returns, bundle, simulation, benchmark, found, built, ran⟩ := yields
  have data : (r.loadData s).1 = .ok (returns, bundle) := by
    rw [loadData_eq, benchmark]
    simp only [bind, Except.bind, found]
    rfl
  simp only [remainder, data, built, finish]
  generalize simulation (r.scenario resolved returns bundle) = run at ran
  obtain ⟨_, state⟩ := run
  cases ran
  dsimp only
  cases r.output.send w p <;> exact ⟨rfl, rfl⟩

/-- What comes to no results fails, and leaves the files as they are. -/
theorem remainder_of_not_yields (none : ∀ p, ¬r.Yields build s program resolved p) :
    let o := r.remainder build program resolved w (r.loadData s).1
    o.events.filter Event.sendsResults = [] ∧ o.workspace = w ∧ ∃ e, o.result = .error e := by
  rw [loadData_eq]
  dsimp only
  cases benchmark : r.benchmarkReturns s with
  | error e => exact ⟨rfl, rfl, e, rfl⟩
  | ok returns =>
    cases found : s.bundle r.bundle r.environment r.timestamp with
    | error e => exact ⟨rfl, rfl, e, rfl⟩
    | ok bundle =>
      simp only [bind, Except.bind, pure, Except.pure, remainder]
      cases built : build program r.frequency (r.scenario resolved returns bundle) with
      | error e => exact ⟨rfl, rfl, e, rfl⟩
      | ok simulation =>
        simp only [finish]
        rcases ran : simulation (r.scenario resolved returns bundle) with ⟨e | p, state⟩
        · exact ⟨rfl, rfl, e, rfl⟩
        · exact absurd ⟨returns, bundle, simulation, benchmark, found, built, congrArg Prod.fst ran⟩
            (none p)

/-- A configuration is checked before any data is asked for, and results are sent only if there are any. A
request with a fault ends with that of its earliest stage; it asks for no data, builds no simulation, sends
nothing and leaves the files alone, whatever the sources and the factory would have answered. A request
without a fault asks once for a benchmark, if it brings none, and then once for its bundle, if there is a
benchmark. It takes its route exactly if its simulation is built and comes to results; then these go to the
file of the route if that can be written, and else the files stay as they are. -/
theorem executeWith_in_stages (r : Request σ) (build : Factory σ) (s : Sources) (components : Components)
    (w : Workspace) :
    let outcome := r.executeWith build s components w
    (∀ e, r.fault? components = some e →
      outcome.result = .error e ∧ outcome.workspace = w ∧ outcome.state = none ∧
        ∀ event ∈ outcome.events, ∃ filename text, event = .source filename text) ∧
    (r.fault? components = none →
      ∃ program resolved, r.program = .ok program ∧
        resolve components r.metrics r.blotter r.calendar r.first r.last = .ok resolved ∧
        outcome.events.filter Event.asksForData = r.dataCalls s ∧
        (∀ route, .output route ∈ outcome.events ↔
          route = r.output ∧ ∃ p, r.Yields build s program resolved p) ∧
        (∀ p, r.Yields build s program resolved p →
          outcome.events.filter Event.sendsResults = [.output r.output] ∧
          (outcome.result, outcome.workspace) =
            match r.output.send w p with
            | .ok written => (.ok p, written)
            | .error e => (.error e, w)) ∧
        ((∀ p, ¬r.Yields build s program resolved p) →
          outcome.workspace = w ∧ ∃ e, outcome.result = .error e)) := by
  intro outcome
  refine ⟨fun e fault => ?faulty, fun sound => ?sound⟩
  case faulty =>
    obtain ⟨events, shown, ended⟩ : ∃ events ⊆ r.shown, outcome = ⟨.error e, events, w, none⟩ :=
      executeWith_of_fault fault
    rw [ended]
    exact ⟨rfl, rfl, rfl, fun event here => exists_of_mem_shown (shown here)⟩
  case sound =>
    obtain ⟨program, resolved, made, found⟩ := exists_of_fault?_eq_none sound
    let rest := r.remainder build program resolved w (r.loadData s).1
    have ended : outcome = (rest.after (r.dataCalls s)).after r.shown :=
      executeWith_of_configured made found
    have events : outcome.events = r.shown ++ (r.dataCalls s ++ rest.events) := by rw [ended]; rfl
    have asks : outcome.events.filter Event.asksForData = r.dataCalls s := by
      rw [events, filter_events r s _ fun _ _ => rfl, (r.filter_dataCalls s).1, filter_asksForData_remainder,
        List.append_nil]
    have sends : outcome.events.filter Event.sendsResults = rest.events.filter Event.sendsResults := by
      rw [events, filter_events r s _ fun _ _ => rfl, (r.filter_dataCalls s).2, List.nil_append]
    have ends : outcome.result = rest.result ∧ outcome.workspace = rest.workspace := by
      rw [ended]
      exact ⟨rfl, rfl⟩
    refine ⟨program, resolved, made, found, asks, fun route => ?_, fun p yields => ?_, fun none => ?_⟩
    · have routed : .output route ∈ outcome.events ↔
          .output route ∈ outcome.events.filter Event.sendsResults := by
        rw [List.mem_filter]
        exact (and_iff_left rfl).symm
      rw [routed, sends]
      by_cases yields : ∃ p, r.Yields build s program resolved p
      · rw [and_iff_left yields, (remainder_of_yields yields.choose_spec).1]
        simp
      · rw [(remainder_of_not_yields (not_exists.1 yields)).1]
        simp [yields]
    · obtain ⟨late, result⟩ := remainder_of_yields (w := w) yields
      rw [sends, ends.1, ends.2]
      exact ⟨late, result⟩
    · obtain ⟨-, files, failed⟩ := remainder_of_not_yields (w := w) none
      rw [ends.1, ends.2]
      exact ⟨files, failed⟩

/-- A request to print what a script that does nothing has to show for a day. -/
def printed (day : Calendar.Date) (metrics : String) : Request Empty where
  strategy := .ofText "# idle"
  first := day
  last := day
  metrics := .named metrics
  output := .print

/-- On a Saturday the date is refused before the unknown metrics are, unless the calendar of the request has
sessions on all days; on the Friday before, the benchmark and the bundle are asked for and the results are
printed. -/
theorem executeWith_in_stages_of_two_days :
    let build : Factory Empty := fun _ _ _ => .ok fun _ => (.ok ⟨[], .empty⟩, none)
    let s : Sources := ⟨fun _ => .ok .empty, fun _ _ _ => .ok (.ofBars .empty none [])⟩
    let saturday := printed ⟨738898⟩ "unknown"
    let always := { saturday with calendar := some .everyDay }
    let friday := printed ⟨738897⟩ "default"
    let refused := saturday.executeWith build s .standard .empty
    let outcome := friday.executeWith build s .standard .empty
    saturday.fault? .standard = some (.emptyDateRange ⟨738898⟩ ⟨738898⟩) ∧
      refused.result = .error (.emptyDateRange ⟨738898⟩ ⟨738898⟩) ∧
      (always.executeWith build s .standard .empty).result = .error (.unknownComponent .metricsSet "unknown") ∧
      friday.fault? .standard = none ∧
      outcome.events.filter Event.asksForData = [.benchmark, .bundle "quantopian-quandl" none] ∧
      .output .print ∈ outcome.events := by
  intro build s saturday always friday refused outcome
  have faulty : saturday.fault? .standard = some (.emptyDateRange ⟨738898⟩ ⟨738898⟩) := by decide +kernel
  have unknown : always.fault? .standard = some (.unknownComponent .metricsSet "unknown") := by decide +kernel
  have sound : friday.fault? .standard = none := by decide +kernel
  have refusal := (executeWith_in_stages saturday build s .standard .empty).1 _ faulty
  have later := (executeWith_in_stages always build s .standard .empty).1 _ unknown
  obtain ⟨program, resolved, -, -, asked, sent, -⟩ :=
    (executeWith_in_stages friday build s .standard .empty).2 sound
  exact ⟨faulty, refusal.1, later.1, sound, asked,
    (sent .print).2 ⟨rfl, ⟨[], .empty⟩, _, _, _, rfl, rfl, rfl, rfl⟩⟩

end Request

end Backtest.Run
