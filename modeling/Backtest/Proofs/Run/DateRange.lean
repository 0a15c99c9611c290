import Backtest.Proofs.Run.Events
import Backtest.Proofs.Run.Stages

/-!
# The range of a run

A range of dates is accepted if and only if one of its days is a session, and no simulation is run over a
range that has not been accepted. What a simulation would do without sessions is therefore never seen: it
may be replaced by anything.
-/

namespace Backtest.Run

open Backtest.Calendar (Date Moment Schedule TradingCalendar WeekdayCalendar)
open Backtest.Component (Components)
open Backtest.Files (Workspace)
open Backtest.Language (Bindings ScriptLine parseScript)
open Backtest.Market (BenchmarkReturns Bundle)
open Backtest.Simulation (Scenario Strategy)

variable {σ : Type}

/-- The factory whose simulations do something else where there are no sessions. -/
def Factory.instead (build : Factory σ) (fallback : Simulation σ) : Factory σ :=
  fun program frequency scenario =>
    (build program frequency scenario).map fun simulation scenario =>
      if scenario.sessions = [] then fallback scenario else simulation scenario

/-- An unknown component is no fault of a simulation. -/
theorem unknown?_ne_simulation {α : Type} {registry : Component.Registry α} {choice : Component.Choice α}
    (cause : SimulationFault) : unknown? registry choice ≠ some (.simulation cause) := by
  unfold unknown?
  split
  · exact fun h => (nomatch h)
  · split <;> exact fun h => (nomatch h)

/-- In its sessions, a script ends in an error of its own or of a column. -/
theorem failsInSession_ne_noSessions {scenario : Scenario} {filename : String} {lines : List ScriptLine}
    {bindings : Bindings} {e : RunError}
    (fails : scenario.FailsInSession (.ofLines filename lines) bindings e) (calendar : String)
    (first last : Date) : e ≠ .simulation (.noSessions calendar first last) := by
  rintro rfl
  obtain ⟨front, session, records, b, -, -, fails⟩ := fails
  rw [Strategy.ofLines_eq] at fails
  simp only [Simulation.actSession_ofPhase, Simulation.Phase.ofLines] at fails
  generalize Simulation.runTrading _ _ _ _ = acted at fails
  rcases acted with ⟨fault | _, next⟩
  · cases fault <;> cases fails
  · cases fails

namespace Request

variable {r : Request σ} {build : Factory σ} {s : Sources} {components : Components} {w : Workspace}
  {program : Program σ} {resolved : Resolved} {e : RunError}

/-- What a simulation does without sessions is not seen in a scenario that has some. -/
theorem remainder_instead {fallback : Simulation σ} {data : Except RunError (BenchmarkReturns × Bundle)}
    (sessions : ∀ benchmark bundle, (r.scenario resolved benchmark bundle).sessions ≠ []) :
    r.remainder (build.instead fallback) program resolved w data =
      r.remainder build program resolved w data := by
  rcases data with fault | ⟨benchmark, bundle⟩
  · rfl
  · simp only [remainder, Factory.instead]
    cases build program r.frequency (r.scenario resolved benchmark bundle) with
    | error fault => rfl
    | ok simulation => simp only [Except.map, finish, if_neg (sessions benchmark bundle)]

/-- No run comes to a simulation without sessions. -/
theorem executeWith_instead (r : Request σ) (build : Factory σ) (fallback : Simulation σ) (s : Sources)
    (components : Components) (w : Workspace) :
    r.executeWith (build.instead fallback) s components w = r.executeWith build s components w := by
  cases made : r.program with
  | error e => rw [executeWith_of_program_error made, executeWith_of_program_error made]
  | ok program =>
    cases found : resolve components r.metrics r.blotter r.calendar r.first r.last with
    | error e => rw [executeWith_of_resolve_error made found, executeWith_of_resolve_error made found]
    | ok resolved =>
      rw [executeWith_of_configured made found, executeWith_of_configured made found,
        remainder_instead (scenario_sessions_ne_nil found)]

/-- The fault of a request is no fault of a simulation. -/
theorem ne_simulation_of_fault? (fault : r.fault? components = some e) (cause : SimulationFault) :
    e ≠ .simulation cause := by
  obtain ⟨stage, -, here⟩ := List.exists_of_findSome?_eq_some fault
  rintro rfl
  cases stage with
  | definitions =>
    rw [faultOf?] at here
    split at here
    · split at here <;> cases here
    · split at here <;> cases here
  | dates =>
    rw [faultOf?] at here
    split at here <;> cases here
  | metrics => exact unknown?_ne_simulation cause here
  | blotter => exact unknown?_ne_simulation cause here

/-- A script over the data in files does not end for want of a session. -/
theorem execute_ofFiles_ne_noSessions {filename text : String} (script : r.strategy = .script filename text)
    (now : Moment) (calendar : String) (first last : Date) :
    (r.execute (.ofFiles w now) components w).result ≠
      .error (.simulation (.noSessions calendar first last)) := by
  intro ended
  rw [execute] at ended
  cases fault : r.fault? components with
  | some e =>
    obtain ⟨events, -, refused⟩ := executeWith_of_fault fault
    rw [refused] at ended
    cases ended
    exact ne_simulation_of_fault? fault _ rfl
  | none =>
    obtain ⟨program, resolved, made, found⟩ := exists_of_fault?_eq_none fault
    obtain ⟨bindings, definitions, rfl⟩ := exists_of_program_script script made
    cases read : parseScript text with
    | error fault =>
      rw [executeWith_of_configured made found] at ended
      obtain ⟨e, ⟨⟩, unloaded | other | other⟩ := remainder_of_unread read ended
      · rcases loadData_ofFiles_eq_error unloaded with ⟨cause, other⟩ | ⟨cause, other⟩ <;> cases other
      · cases other
      · cases other
    | ok lines =>
      have settled : r.Settled components resolved filename lines bindings :=
        ⟨⟨text, script, read⟩, definitions, found⟩
      cases settled.fails_of_execute_error ended with
      | session loaded daily fails =>
        exact failsInSession_ne_noSessions fails _ _ _ rfl

end Request

/-- The sessions of a range that ends before the last day of the calendar are exact, and they are additive. A
range is accepted if and only if one of its days is a session, so that a scenario over an accepted range has
sessions. What a simulation would do without sessions changes no run at all, and a script over the data in
files never ends for want of a session. -/
theorem sessions_of_range (exchange : WeekdayCalendar) (first last : Date) (below : last < Date.last) :
    let c := exchange.toTradingCalendar
    (c.sessionsInRange first last).Pairwise (· < ·) ∧
    (∀ d, d ∈ c.sessionsInRange first last ↔ first ≤ d ∧ d ≤ last ∧ c.isSession d = true) ∧
    (last < first → c.sessionsInRange first last = []) ∧
    (∀ middle, first ≤ middle → middle < last →
      c.sessionsInRange first last =
        c.sessionsInRange first middle ++ c.sessionsInRange (middle.addDays 1) last) ∧
    (first < last → c.sessionDistance last first = -c.sessionDistance first last) ∧
    (checkDateRange c first last = .ok () ↔ ∃ d, first ≤ d ∧ d ≤ last ∧ c.isSession d = true) ∧
    (checkDateRange c first last = .ok () → ∀ scenario : Scenario, scenario.calendar = c →
      scenario.first = first → scenario.last = last → scenario.sessions ≠ []) ∧
    (∀ {σ : Type} (r : Request σ) (fallback : Simulation σ) (s : Sources) (components : Components)
      (w : Workspace),
      r.execute s components w = r.executeWith (sessionFactory.instead fallback) s components w) ∧
    ∀ {σ : Type} (r : Request σ) (components : Components) (w : Workspace) (now : Moment)
      (filename text : String), r.strategy = .script filename text → ∀ calendar first last,
      (r.execute (.ofFiles w now) components w).result ≠
        .error (.simulation (.noSessions calendar first last)) := by
  intro c
  have exact (d : Date) : d ∈ c.sessionsInRange first last ↔ first ≤ d ∧ d ≤ last ∧ c.isSession d = true :=
    Schedule.mem_sessionsInRange below
  refine ⟨c.schedule.ascending first last, exact, Schedule.sessionsInRange_of_reverse,
    fun middle start stop => Schedule.sessionsInRange_append below start stop,
    Schedule.sessionDistance_reverse, ?_, ?_, fun r fallback s components w => ?_,
    fun r components w now filename text script calendar first last =>
      r.execute_ofFiles_ne_noSessions script now calendar first last⟩
  · rw [checkDateRange_eq_ok_iff, Ne, List.eq_nil_iff_forall_not_mem]
    simp only [exact, not_forall, not_not]
  · rintro accepted scenario calendar rfl rfl
    rw [Scenario.sessions, calendar]
    exact checkDateRange_eq_ok_iff.1 accepted
  · exact (r.executeWith_instead sessionFactory fallback s components w).symm

/-- The week from the eighth of January 2024 has five sessions, which fall apart after its Wednesday, and is
accepted; its reverse has none, and a script that is run on it ends in no simulation. -/
theorem sessions_of_range_of_week :
    let monday : Date := ⟨738893⟩
    let wednesday : Date := ⟨738895⟩
    let sunday : Date := ⟨738899⟩
    let week := TradingCalendar.xnys.sessionsInRange monday sunday
    sunday < Date.last ∧ monday ≤ wednesday ∧ wednesday < sunday ∧ monday < sunday ∧
      week = TradingCalendar.xnys.sessionsInRange monday wednesday ++
        TradingCalendar.xnys.sessionsInRange (wednesday.addDays 1) sunday ∧
      week = [⟨738893⟩, ⟨738894⟩, ⟨738895⟩, ⟨738896⟩, ⟨738897⟩] ∧
      TradingCalendar.xnys.sessionDistance sunday monday = -5 ∧
      checkDateRange .xnys monday sunday = .ok () ∧
      TradingCalendar.xnys.sessionsInRange sunday monday = [] ∧
      ((Request.printed sunday "default").execute (.ofFiles .empty ⟨sunday, 0, 0⟩) .standard .empty).result ≠
        .error (.simulation (.noSessions "XNYS" sunday sunday)) := by
  intro monday wednesday sunday week
  have below : sunday < Date.last := by decide
  have forward : monday < sunday := by decide
  obtain ⟨-, -, -, additive, signed, accepted, -⟩ := sessions_of_range .xnys monday sunday below
  obtain ⟨-, -, reverse, -, -, -, -, -, unreached⟩ :=
    sessions_of_range .xnys sunday monday (Int.lt_trans forward below)
  have split := additive wednesday (by decide) (by decide)
  have count : TradingCalendar.xnys.sessionDistance monday sunday = 5 := by decide +kernel
  exact ⟨below, by decide, by decide, forward, split, by decide +kernel,
    (signed forward).trans (congrArg Neg.neg count),
    accepted.2 ⟨monday, by decide, by decide, by decide +kernel⟩, reverse forward,
    unreached _ _ _ _ _ _ rfl _ _ _⟩

end Backtest.Run
