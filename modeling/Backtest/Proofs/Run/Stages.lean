import Backtest.Proofs.Run.Events
import Backtest.Proofs.Simulation.History

/-!
# The stages of a run

A request for a script is settled when its definitions, its text and the components that it names are in
order. What happens to a settled request is told by its market data, its data frequency, its sessions and
its output alone (`Settled.execute_error_iff`), and only settled requests succeed
(`exists_settled_of_execute_ok`).
-/

namespace Backtest.Run

open Backtest.Calendar (Moment)
open Backtest.Component (Components)
open Backtest.Files (IoFault Workspace)
open Backtest.Language (Bindings ScriptLine buildBindings parseScript)
open Backtest.Market (BenchmarkError BenchmarkReturns Bundle BundleError)
open Backtest.Results (Performance)
open Backtest.Simulation (Scenario Strategy)

variable {σ : Type}

/-- The simulation of a script. -/
def scriptSimulation (filename : String) (lines : List ScriptLine) (bindings : Bindings) :
    Simulation σ :=
  fun scenario => ((scenario.run (.ofLines filename lines) bindings).1, none)

/-- A daily script is built if it can be read. -/
theorem Program.build_script_daily (filename text : String) (bindings : Bindings) :
    (Program.script filename text bindings : Program σ).build .daily =
      match parseScript text with
      | .ok lines => .ok (scriptSimulation filename lines bindings)
      | .error fault => .error (.simulation (.script filename fault)) := by
  simp only [build, Simulation.checkFrequency, bind, Except.bind, Strategy.ofSource]
  cases parseScript text <;> rfl

/-- A route that cannot be taken ends in an error that names its file. -/
theorem OutputRoute.send_eq_error_iff {route : OutputRoute} {w : Workspace} {p : Performance}
    {e : RunError} :
    route.send w p = .error e ↔
      ∃ path fault, route = .persist path ∧ w.writeText path p.documentText = .error fault ∧
        e = .persist path (.write fault) := by
  cases route with
  | print => exact ⟨fun h => (nomatch h), fun ⟨_, _, h, _⟩ => (nomatch h)⟩
  | discard => exact ⟨fun h => (nomatch h), fun ⟨_, _, h, _⟩ => (nomatch h)⟩
  | persist path =>
    have sent : (OutputRoute.persist path).send w p = Run.persist w path p := rfl
    rw [sent, Run.persist]
    constructor
    · intro h
      split at h
      · cases h
      · rename_i fault failed
        cases h
        exact ⟨path, fault, rfl, failed, rfl⟩
    · rintro ⟨_, fault, ⟨⟩, failed, rfl⟩
      simp only [failed]

namespace Request

/-- A request for the script of a file, with the bindings and lines that it comes to and the components that
it is resolved to. -/
structure Settled (r : Request σ) (components : Components) (resolved : Resolved)
    (filename : String) (lines : List ScriptLine) (bindings : Bindings) : Prop where
  source : ∃ text, r.strategy = .script filename text ∧ parseScript text = .ok lines
  definitions : buildBindings r.seed r.defines = .ok bindings
  configuration :
    resolve components r.metrics r.blotter r.calendar r.first r.last = .ok resolved

variable {r : Request σ} {components : Components} {resolved : Resolved} {filename : String}
  {lines : List ScriptLine} {bindings : Bindings} {s : Sources} {w : Workspace} {now : Moment}
  {e : RunError}

/-- What is left of a run when its data has been asked for. -/
def simulated (r : Request σ) (resolved : Resolved) (simulation : Simulation σ) (w : Workspace)
    (data : Except RunError (BenchmarkReturns × Bundle)) : Outcome σ :=
  match data with
  | .error fault => .failed fault w
  | .ok (benchmark, bundle) =>
    match r.frequency with
    | .minute => .failed (.simulation (.unsupportedFrequency .minute)) w
    | .daily => r.finish w simulation (r.scenario resolved benchmark bundle)

/-- A script that can be read is simulated when its data has been asked for. -/
theorem remainder_of_read {text : String} (read : parseScript text = .ok lines)
    (data : Except RunError (BenchmarkReturns × Bundle)) :
    r.remainder sessionFactory (.script filename text bindings) resolved w data =
      r.simulated resolved (scriptSimulation filename lines bindings) w data := by
  rcases data with fault | ⟨benchmark, bundle⟩
  · rfl
  · cases frequency : r.frequency with
    | minute =>
      simp only [remainder, simulated, frequency]
      rfl
    | daily =>
      simp only [remainder, simulated, sessionFactory, frequency, Program.build_script_daily, read]

/-- A script that cannot be read fails, by its data, by its frequency or by its text. -/
theorem remainder_of_unread {text : String} {fault : Language.ScriptError}
    {data : Except RunError (BenchmarkReturns × Bundle)} {result : Except RunError Performance}
    (unread : parseScript text = .error fault)
    (ended : (r.remainder sessionFactory (.script filename text bindings) resolved w data).result = result) :
    ∃ e, result = .error e ∧ (data = .error e ∨ e = .simulation (.unsupportedFrequency .minute) ∨
      e = .simulation (.script filename fault)) := by
  subst ended
  rcases data with e | ⟨benchmark, bundle⟩
  · exact ⟨e, rfl, .inl rfl⟩
  · cases frequency : r.frequency with
    | minute =>
      simp only [remainder, frequency]
      exact ⟨_, rfl, .inr (.inl rfl)⟩
    | daily =>
      simp only [remainder, sessionFactory, frequency, Program.build_script_daily, unread]
      exact ⟨_, rfl, .inr (.inr rfl)⟩

/-- The program of a script is its text with its definitions. -/
theorem exists_of_program_script {text : String} {program : Program σ}
    (source : r.strategy = .script filename text) (made : r.program = .ok program) :
    ∃ bindings, buildBindings r.seed r.defines = .ok bindings ∧
      program = .script filename text bindings := by
  rw [Request.program, source] at made
  dsimp only at made
  split at made
  · rename_i definitions
    cases made
    exact ⟨_, definitions, rfl⟩
  · cases made

/-- A settled request goes straight to its data. -/
theorem Settled.execute_eq (settled : r.Settled components resolved filename lines bindings)
    (s : Sources) (w : Workspace) :
    r.execute s components w =
      ((r.simulated resolved (scriptSimulation filename lines bindings) w (r.loadData s).1).after
        (r.loadData s).2).after r.shown := by
  obtain ⟨⟨text, source, read⟩, definitions, configuration⟩ := settled
  have made : r.program = .ok (.script filename text bindings) := by
    rw [Request.program, source]
    simp only [definitions]
  rw [execute, executeWith_of_configured made configuration, remainder_of_read read, loadData_eq]

/-- How a settled request fails: in its data, by its frequency, in a session, or on its way out. -/
inductive Fails (r : Request σ) (resolved : Resolved) (filename : String) (lines : List ScriptLine)
    (bindings : Bindings) (s : Sources) (w : Workspace) : RunError → Prop where
  | benchmark {cause : BenchmarkError} (data : (r.loadData s).1 = .error (.benchmark cause)) :
    r.Fails resolved filename lines bindings s w (.benchmark cause)
  | bundle {cause : BundleError} (data : (r.loadData s).1 = .error (.bundle cause)) :
    r.Fails resolved filename lines bindings s w (.bundle cause)
  | frequency {data : BenchmarkReturns × Bundle} (loads : (r.loadData s).1 = .ok data)
    (minute : r.frequency = .minute) :
    r.Fails resolved filename lines bindings s w (.simulation (.unsupportedFrequency .minute))
  | session {data : BenchmarkReturns × Bundle} {e : RunError} (loads : (r.loadData s).1 = .ok data)
    (daily : r.frequency = .daily)
    (fails : (r.scenario resolved data.1 data.2).FailsInSession (.ofLines filename lines) bindings e) :
    r.Fails resolved filename lines bindings s w e
  | output {data : BenchmarkReturns × Bundle} {p : Performance} {path : String} {fault : IoFault}
    (loads : (r.loadData s).1 = .ok data) (daily : r.frequency = .daily)
    (runs : ((r.scenario resolved data.1 data.2).run (.ofLines filename lines) bindings).1 = .ok p)
    (route : r.output = .persist path) (fails : w.writeText path p.documentText = .error fault) :
    r.Fails resolved filename lines bindings s w (.persist path (.write fault))

/-- Data in files fails as a benchmark or as a bundle. -/
theorem loadData_ofFiles_eq_error (h : (r.loadData (.ofFiles w now)).1 = .error e) :
    (∃ cause, e = .benchmark cause) ∨ ∃ cause, e = .bundle cause := by
  have bundleFails (f : Bundle → BenchmarkReturns × Bundle)
      (h : (r.loadBundle (.ofFiles w now)).1.map f = .error e) : ∃ cause, e = .bundle cause := by
    simp only [loadBundle, Sources.ofFiles, fileBundles] at h
    split at h
    · cases h
    · cases h
      exact ⟨_, rfl⟩
  unfold loadData at h
  split at h
  · exact .inr (bundleFails _ h)
  · split at h
    · rename_i failed
      cases h
      simp only [Sources.ofFiles, fileBenchmark] at failed
      split at failed
      · cases failed
      · cases failed
        exact .inl ⟨_, rfl⟩
    · exact .inr (bundleFails _ h)

/-- A run to its results. -/
theorem finish_eq (r : Request σ) (w : Workspace) (scenario : Scenario) :
    (r.finish w (scriptSimulation filename lines bindings) scenario).result =
      match (scenario.run (.ofLines filename lines) bindings).1 with
      | .error e => .error e
      | .ok p =>
        match r.output.send w p with
        | .ok _ => .ok p
        | .error e => .error e := by
  unfold finish scriptSimulation
  generalize (scenario.run (.ofLines filename lines) bindings).1 = run
  rcases run with e | p
  · rfl
  · simp only
    cases r.output.send w p <;> rfl

/-- A settled request comes to what its simulation makes of its data. -/
theorem Settled.execute_result (settled : r.Settled components resolved filename lines bindings)
    (s : Sources) (w : Workspace) :
    (r.execute s components w).result =
      (r.simulated resolved (scriptSimulation filename lines bindings) w (r.loadData s).1).result := by
  rw [settled.execute_eq]
  rfl

/-- A settled request fails at one of the later stages. -/
theorem Settled.fails_of_execute_error
    (settled : r.Settled components resolved filename lines bindings)
    (failed : (r.execute (.ofFiles w now) components w).result = .error e) :
    r.Fails resolved filename lines bindings (.ofFiles w now) w e := by
  rw [settled.execute_result] at failed
  cases loaded : (r.loadData (.ofFiles w now)).1 with
  | error fault =>
    rw [loaded] at failed
    cases failed
    rcases loadData_ofFiles_eq_error loaded with ⟨cause, rfl⟩ | ⟨cause, rfl⟩
    · exact .benchmark loaded
    · exact .bundle loaded
  | ok data =>
    rw [loaded] at failed
    cases frequency : r.frequency with
    | minute =>
      simp only [simulated, frequency] at failed
      cases failed
      exact .frequency loaded frequency
    | daily =>
      simp only [simulated, frequency, finish_eq] at failed
      split at failed
      · rename_i fails
        cases failed
        have nonempty := scenario_sessions_ne_nil settled.configuration data.1 data.2
        exact .session loaded frequency
          ((Scenario.run_eq_error_iff_failsInSession nonempty).1 fails)
      · rename_i runs
        split at failed
        · cases failed
        · rename_i unsent
          cases failed
          obtain ⟨path, fault, route, fails, rfl⟩ := OutputRoute.send_eq_error_iff.1 unsent
          exact .output loaded frequency runs route fails

/-- A stage that fails is what the request fails with. -/
theorem Settled.execute_error_of_fails
    (settled : r.Settled components resolved filename lines bindings)
    (fails : r.Fails resolved filename lines bindings (.ofFiles w now) w e) :
    (r.execute (.ofFiles w now) components w).result = .error e := by
  rw [settled.execute_result]
  cases fails with
  | benchmark loaded => rw [loaded]; rfl
  | bundle loaded => rw [loaded]; rfl
  | frequency loaded minute =>
    rw [loaded]
    simp only [simulated, minute]
    rfl
  | session loaded daily fails =>
    have nonempty := scenario_sessions_ne_nil settled.configuration
    have failed := (Scenario.run_eq_error_iff_failsInSession (nonempty _ _)).2 fails
    rw [loaded]
    simp only [simulated, daily, finish_eq, Simulation.Strategy.ofLines_eq, failed]
  | output loaded daily runs route fails =>
    have unsent := OutputRoute.send_eq_error_iff.2 ⟨_, _, route, fails, rfl⟩
    rw [loaded]
    simp only [simulated, daily, finish_eq, runs, unsent]

/-- A settled request fails in these ways and in no other. -/
theorem Settled.execute_error_iff (settled : r.Settled components resolved filename lines bindings) :
    (r.execute (.ofFiles w now) components w).result = .error e ↔
      r.Fails resolved filename lines bindings (.ofFiles w now) w e :=
  ⟨settled.fails_of_execute_error, settled.execute_error_of_fails⟩

/-- Showing a source simulates nothing. -/
theorem simulation_not_mem_shown (r : Request σ) : .simulation ∉ r.shown := by
  intro here
  obtain ⟨filename, text, other⟩ := exists_of_mem_shown here
  cases other

/-- Asking for data simulates nothing. -/
theorem simulation_not_mem_loadData (r : Request σ) (s : Sources) :
    .simulation ∉ (r.loadData s).2 := by
  rw [loadData_eq]
  intro here
  cases (asksForData_of_mem_dataCalls here).1

/-- A run that is finished has been simulated. -/
theorem simulation_mem_finish (r : Request σ) (w : Workspace) (simulation : Simulation σ)
    (scenario : Scenario) : .simulation ∈ (r.finish w simulation scenario).events := by
  unfold finish
  split
  · simp
  · simp only
    split <;> simp

/-- A settled request is simulated if its data loads and it is daily. -/
theorem Settled.simulation_mem_events_iff
    (settled : r.Settled components resolved filename lines bindings) :
    .simulation ∈ (r.execute s components w).events ↔
      (∃ data, (r.loadData s).1 = .ok data) ∧ r.frequency = .daily := by
  have late : .simulation ∈ (r.execute s components w).events ↔ .simulation ∈
      (r.simulated resolved (scriptSimulation filename lines bindings) w (r.loadData s).1).events := by
    rw [settled.execute_eq]
    simp only [Outcome.after, List.mem_append, r.simulation_not_mem_shown,
      r.simulation_not_mem_loadData s, false_or]
  rw [late]
  cases (r.loadData s).1 with
  | error fault => simp [simulated, Outcome.failed]
  | ok data =>
    cases frequency : r.frequency with
    | minute => simp [simulated, frequency, Outcome.failed]
    | daily => simp [simulated, frequency, simulation_mem_finish]

/-- How a settled request succeeds: its sessions give the results, and these go on their way. -/
structure Succeeds (r : Request σ) (resolved : Resolved) (filename : String) (lines : List ScriptLine)
    (bindings : Bindings) (s : Sources) (w : Workspace) (p : Performance) (written : Workspace) :
    Prop where
  daily : r.frequency = .daily
  runs : ∃ benchmark bundle, (r.loadData s).1 = .ok (benchmark, bundle) ∧
    ((r.scenario resolved benchmark bundle).run (.ofLines filename lines) bindings).1 = .ok p
  sent : r.output.send w p = .ok written

/-- Only the results of the sessions are sent on their way. -/
theorem finish_result_ok {scenario : Scenario} {p : Performance}
    (h : (r.finish w (scriptSimulation filename lines bindings) scenario).result = .ok p) :
    (scenario.run (.ofLines filename lines) bindings).1 = .ok p ∧ r.output.send w p =
      .ok (r.finish w (scriptSimulation filename lines bindings) scenario).workspace := by
  unfold finish scriptSimulation at h ⊢
  generalize (scenario.run (.ofLines filename lines) bindings).1 = run at h ⊢
  rcases run with e | q
  · cases h
  · simp only at h ⊢
    split at h
    · rename_i sent
      cases h
      simp only [sent, and_self]
    · cases h

/-- A settled request that succeeds has passed all stages. -/
theorem Settled.succeeds (settled : r.Settled components resolved filename lines bindings)
    {p : Performance} (h : (r.execute s components w).result = .ok p) :
    r.Succeeds resolved filename lines bindings s w p (r.execute s components w).workspace := by
  rw [settled.execute_eq] at h ⊢
  cases loaded : (r.loadData s).1 with
  | error fault =>
    rw [loaded] at h
    cases h
  | ok data =>
    rw [loaded] at h
    cases frequency : r.frequency with
    | minute =>
      simp only [simulated, frequency] at h
      cases h
    | daily =>
      simp only [simulated, frequency] at h ⊢
      obtain ⟨runs, sent⟩ := finish_result_ok h
      exact ⟨frequency, ⟨data.1, data.2, loaded, runs⟩, sent⟩

/-- A request for a script that succeeds was settled. -/
theorem exists_settled_of_execute_ok
    (script : ∃ filename text, r.strategy = .script filename text) {p : Performance}
    (h : (r.execute s components w).result = .ok p) :
    ∃ resolved filename lines bindings, r.Settled components resolved filename lines bindings := by
  obtain ⟨filename, text, source⟩ := script
  rw [execute] at h
  cases made : r.program with
  | error e =>
    rw [executeWith_of_program_error made] at h
    cases h
  | ok program =>
    obtain ⟨bindings, definitions, rfl⟩ := exists_of_program_script source made
    cases configuration : resolve components r.metrics r.blotter r.calendar r.first r.last with
    | error e =>
      rw [executeWith_of_resolve_error made configuration] at h
      cases h
    | ok resolved =>
      rw [executeWith_of_configured made configuration] at h
      cases read : parseScript text with
      | error fault =>
        obtain ⟨e, failed, -⟩ := remainder_of_unread read h
        cases failed
      | ok lines =>
        exact ⟨resolved, filename, lines, bindings, ⟨text, source, read⟩, definitions, configuration⟩

end Request

end Backtest.Run
