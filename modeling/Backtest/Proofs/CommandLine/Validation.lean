import Backtest.CommandLine.Command
import Backtest.Proofs.Run.Stages

/-!
# Checking and running

A check assembles the request that a run executes, in another order: it loads extensions first, which may
make the file of the default extension. A check that succeeds settles the request, so that a run on the
files it leaves depends on market data, data frequency, sessions and output alone. The data frequency is
among these because no check looks at it.
-/

namespace Backtest.CommandLine

open Backtest.Calendar (Moment)
open Backtest.Component (Components ExtensionHost LoadReport)
open Backtest.Files (Environment Workspace)
open Backtest.Format (Ini)
open Backtest.Language (buildBindings parseScript)
open Backtest.Run

variable {a : RunArguments} {file : Ini} {e : Environment} {w v made : Workspace} {r : Request Empty}
  {loaded : LoadReport} {host : ExtensionHost} {now : Moment}

/-! ### Files that grow -/

/-- In a workspace that has grown a run file is read as before. -/
theorem loadRunFile_within (grows : w.Within v) {path : Option String}
    (h : loadRunFile w path = .ok file) : loadRunFile v path = .ok file := by
  cases path with
  | none => exact h
  | some path =>
    simp only [loadRunFile] at h ⊢
    cases read : w.readText path with
    | error fault =>
      rw [read] at h
      cases h
    | ok text =>
      rw [Workspace.readText_within grows read]
      rw [read] at h
      exact h

/-- In a workspace that has grown a strategy is found as before. -/
theorem strategy_within (grows : w.Within v) {strategy : StrategySource Empty}
    (h : a.strategy file w = .ok strategy) : a.strategy file v = .ok strategy := by
  unfold RunArguments.strategy at h ⊢
  split at h
  · exact h
  · rename_i path _ named
    unfold StrategySource.ofFile at h
    split at h
    · rename_i text read
      simp only [StrategySource.ofFile, Workspace.readText_within grows read]
      exact h
    · cases h
  · cases h
  · cases h

/-- A request only reads files, so it stays the same when the files grow. -/
theorem request_within (grows : w.Within v) (h : a.request file e w = .ok r) :
    a.request file e v = .ok r := by
  unfold RunArguments.request at h ⊢
  obtain ⟨strategy, source, h⟩ := exists_of_bind_eq_ok h
  rw [strategy_within grows source]
  exact h

/-- Loading extensions takes nothing from the workspace. -/
theorem within_load {h : ExtensionHost} {o : Component.LoadOptions}
    {result : Except Component.LoadError LoadReport} (loads : h.load e o w = (result, host, made)) :
    w.Within made := by
  unfold ExtensionHost.load at loads
  split at loads
  · have grows := Workspace.within_ensureFile w e.defaultExtension
    rcases ensured : w.ensureFile e.defaultExtension with ⟨fault | _, between⟩
    · simp only [ensured] at loads grows
      cases loads
      exact grows
    · simp only [ensured] at loads grows
      cases loads
      exact grows
  · cases loads
    exact .refl w

/-- Extensions that have been loaded load the same on the files that this left. -/
theorem load_again {h : ExtensionHost} {o : Component.LoadOptions}
    (loads : h.load e o w = (.ok loaded, host, made)) : h.load e o made = (.ok loaded, host, made) := by
  unfold ExtensionHost.load at loads ⊢
  by_cases wanted : o.loadDefault
  · rw [if_pos wanted] at loads ⊢
    rcases ensured : w.ensureFile e.defaultExtension with ⟨fault | _, between⟩
    · simp only [ensured] at loads
      cases loads
    · simp only [ensured, Prod.mk.injEq] at loads
      obtain ⟨report, last, rfl⟩ := loads
      simp only [Workspace.ensureFile_again ensured, report, last]
  · rw [if_neg wanted] at loads ⊢
    simp only [Prod.mk.injEq] at loads
    obtain ⟨report, last, rfl⟩ := loads
    simp only [report, last]

/-- The extensions of a command are loaded on a host that has loaded nothing. -/
theorem load_eq_ok_iff {a : ExtensionArguments} :
    a.load file e w = (.ok loaded, host, made) ↔
      (ExtensionHost.new .standard).load e (a.options file) w = (.ok loaded, host, made) := by
  unfold ExtensionArguments.load
  rcases (ExtensionHost.new .standard).load e (a.options file) w with ⟨fault | _, _, _⟩
  · constructor <;> (intro h; cases h)
  · constructor <;> (intro h; cases h; rfl)

/-- A request that arguments make starts from no bindings. -/
theorem seed_of_request (h : a.request file e w = .ok r) : r.seed = .empty := by
  unfold RunArguments.request at h
  obtain ⟨strategy, -, h⟩ := exists_of_bind_eq_ok h
  obtain ⟨first, -, h⟩ := exists_of_bind_eq_ok h
  obtain ⟨last, -, h⟩ := exists_of_bind_eq_ok h
  obtain ⟨capitalBase, -, h⟩ := exists_of_bind_eq_ok h
  obtain ⟨frequency, -, h⟩ := exists_of_bind_eq_ok h
  obtain ⟨timestamp, -, h⟩ := exists_of_bind_eq_ok h
  obtain ⟨calendar, -, h⟩ := exists_of_bind_eq_ok h
  cases h
  rfl

/-! ### What is checked -/

section Checks

variable {components : Components} {resolved : Resolved} {filename : String}
  {lines : List Language.ScriptLine} {bindings : Language.Bindings}

/-- A request without a program of its own has a script. -/
theorem exists_script (r : Request Empty) : ∃ filename text, r.strategy = .script filename text := by
  cases h : r.strategy with
  | callbacks _ state => exact nomatch state
  | script filename text => exact ⟨filename, text, rfl⟩

/-- A settled request passes its check, which tells how many sessions there are. -/
theorem checkRequest_of_settled (settled : r.Settled components resolved filename lines bindings)
    (seed : r.seed = .empty) :
    checkRequest r components =
      (.ok (),
        (.strategy filename lines.length ::
          bindings.entries.map fun (name, value) => .binding name value) ++
        [ .sessions resolved.calendar.name
            (resolved.calendar.sessionsInRange r.first r.last).length r.first r.last,
          .metrics (resolved.metrics.map (·.name)), .output r.output, .valid ]) := by
  obtain ⟨⟨text, source, parsed⟩, definitions, configuration⟩ := settled
  rw [seed] at definitions
  simp only [checkRequest, checkStrategy, source, definitions, parsed, checkConfiguration, configuration]

/-- A request that passes its check is settled. -/
theorem exists_settled_of_checkRequest (h : (checkRequest r components).1 = .ok ())
    (seed : r.seed = .empty) :
    ∃ resolved filename lines bindings, r.Settled components resolved filename lines bindings := by
  obtain ⟨filename, text, source⟩ := exists_script r
  simp only [checkRequest, checkStrategy, source] at h
  cases definitions : buildBindings .empty r.defines with
  | error fault =>
    rw [definitions] at h
    cases h
  | ok bindings =>
    simp only [definitions] at h
    cases parsed : parseScript text with
    | error fault =>
      rw [parsed] at h
      cases h
    | ok lines =>
      simp only [parsed, checkConfiguration] at h
      cases configuration : resolve components r.metrics r.blotter r.calendar r.first r.last with
      | error fault =>
        rw [configuration] at h
        cases h
      | ok resolved =>
        rw [← seed] at definitions
        exact ⟨resolved, filename, lines, bindings, ⟨text, source, parsed⟩, definitions, configuration⟩

end Checks

/-! ### The two commands -/

/-- The fault of a result that is a failure. -/
def fault? {ε α : Type} : Except ε α → Option ε
  | .ok _ => none
  | .error fault => some fault

/-- A result with a fault is that fault. -/
theorem eq_error_of_fault? {ε α : Type} {result : Except ε α} {fault : ε}
    (h : fault? result = some fault) : result = .error fault := by
  cases result with
  | ok _ => cases h
  | error _ =>
    cases h
    rfl

/-- A result that is no fault succeeds. -/
theorem eq_ok_of_isOk {ε : Type} {result : Except ε Unit} (h : result.isOk) : result = .ok () := by
  obtain ⟨⟨⟩, rfl⟩ := Simulation.exists_of_isOk h
  rfl

namespace RunArguments

/-- Whether an event tells that a simulation has been built. -/
def isSimulation : Event → Bool
  | .simulation => true
  | _ => false

/-- The number of sessions that a notice tells. -/
def sessionCount? : Notice → Option Nat
  | .sessions _ count _ _ => some count
  | _ => none

/-- The notices of a load count no sessions. -/
theorem sessionCount?_loadNotices (loaded : LoadReport) :
    (loadNotices loaded).filterMap sessionCount? = [] := by
  simp [loadNotices, sessionCount?]

/-- The notices of bindings count no sessions. -/
theorem sessionCount?_bindings (entries : List (String × Language.Value)) :
    (entries.map fun (name, value) => Notice.binding name value).filterMap sessionCount? = [] := by
  simp [sessionCount?]

/-- What is run is the request of the arguments in the workspace that loading leaves. -/
theorem run_eq (read : loadRunFile w a.loading.runFile = .ok file)
    (request : a.request file e w = .ok r)
    (loads : a.loading.load file e w = (.ok loaded, host, made)) (now : Moment) :
    a.run e now w = r.execute (.ofFiles made now) host.components made := by
  simp only [run, read, request, loads]

/-- What is validated is the request of the arguments in the workspace that loading leaves. -/
theorem validate_eq (read : loadRunFile w a.loading.runFile = .ok file)
    (loads : a.loading.load file e w = (.ok loaded, host, made))
    (request : a.request file e made = .ok r) :
    a.validate e w =
      ⟨(checkRequest r host.components).1, [],
        loadNotices loaded ++ (checkRequest r host.components).2, made⟩ := by
  simp only [validate, read, request, loads]

/-- A check that succeeds has read the run file, loaded the extensions, and made a settled request. -/
theorem exists_of_validate_ok (valid : (a.validate e w).result = .ok ()) :
    ∃ file loaded host r, loadRunFile w a.loading.runFile = .ok file ∧
      a.loading.load file e w = (.ok loaded, host, (a.validate e w).workspace) ∧
      a.request file e (a.validate e w).workspace = .ok r ∧
      (checkRequest r host.components).1 = .ok () := by
  have checked := valid
  rw [validate] at checked
  cases read : loadRunFile w a.loading.runFile with
  | error fault =>
    rw [read] at checked
    cases checked
  | ok file =>
    simp only [read] at checked
    rcases loads : a.loading.load file e w with ⟨fault | loaded, host, made⟩
    · simp only [loads] at checked
      cases checked
    · simp only [loads] at checked
      cases request : a.request file e made with
      | error fault =>
        rw [request] at checked
        cases checked
      | ok r =>
        rw [validate_eq read loads request] at valid ⊢
        exact ⟨file, loaded, host, r, rfl, loads, request, valid⟩

/-- What a check that succeeds leaves open. The arguments make a settled request of the files that it leaves,
which a run on these files executes. The run is simulated if its data loads and its data frequency is daily,
and it fails in its data, by its data frequency, in a session, or on its way out. -/
theorem run_of_valid (valid : (a.validate e w).result = .ok ()) (now : Moment) :
    let made := (a.validate e w).workspace
    let sources := Sources.ofFiles made now
    let outcome := a.run e now made
    ∃ file r components resolved filename lines bindings,
      loadRunFile made a.loading.runFile = .ok file ∧ a.request file e made = .ok r ∧
      r.Settled components resolved filename lines bindings ∧
      outcome = r.execute sources components made ∧
      (.simulation ∈ outcome.events ↔
        (∃ data, (r.loadData sources).1 = .ok data) ∧ r.frequency = .daily) ∧
      ∀ fault, outcome.result = .error fault ↔
        r.Fails resolved filename lines bindings sources made fault := by
  intro made sources outcome
  obtain ⟨file, loaded, host, r, read, loads, request, checked⟩ := exists_of_validate_ok valid
  obtain ⟨resolved, filename, lines, bindings, settled⟩ :=
    exists_settled_of_checkRequest checked (seed_of_request request)
  have started := load_eq_ok_iff.1 loads
  have again : loadRunFile made a.loading.runFile = .ok file :=
    loadRunFile_within (within_load started) read
  have executed : outcome = r.execute sources host.components made :=
    run_eq again request (load_eq_ok_iff.2 (load_again started)) now
  refine ⟨file, r, host.components, resolved, filename, lines, bindings, again, request, settled,
    executed, ?_, fun fault => ?_⟩
  · rw [executed]
    exact settled.simulation_mem_events_iff
  · rw [executed]
    exact settled.execute_error_iff

/-- Files with a benchmark and a bundle, both without a day. -/
def emptyMarket : Workspace :=
  let bundle := ["root", "data", "quantopian-quandl"]
  ⟨.ofList
    [ (["root"], .directory), (["root", "data"], .directory),
      (["root", "data", "benchmark.csv"], .file "date,return\n".toUTF8), (bundle, .directory),
      (bundle ++ ["2024-01-01T00-00-00"], .directory),
      (bundle ++ ["2024-01-01T00-00-00", "daily"], .directory) ]⟩

/-- The environment in which these files are the market. -/
def emptyMarketEnvironment : Environment :=
  .ofList [("ALGORUN_ROOT", "root")]

/-- A moment at which the bundle of the market is there. -/
def afterIngestion : Moment :=
  ⟨⟨738902⟩, 0, 0⟩

/-- The run of a strategy that does nothing through a week, at some data frequency. -/
def idleWeek (frequency : DataFrequency) : RunArguments where
  loading := { skipDefault := true }
  algotext := some "# idle"
  first := some ⟨738893⟩
  last := some ⟨738897⟩
  frequency := some frequency

/-- An idle week of minutes is found valid. -/
theorem idleWeek_valid :
    ((idleWeek .minute).validate emptyMarketEnvironment emptyMarket).result = .ok () :=
  eq_ok_of_isOk (by decide +kernel)

/-- A week of minutes passes its check, so its run is one of a settled request. -/
theorem run_of_valid_idleWeek :
    let a := idleWeek .minute
    let made := (a.validate emptyMarketEnvironment emptyMarket).workspace
    let sources := Sources.ofFiles made afterIngestion
    (a.validate emptyMarketEnvironment emptyMarket).result = .ok () ∧
      ∃ (r : Request Empty) (components : Components) (resolved : Resolved) (filename : String)
          (lines : List Language.ScriptLine) (bindings : Language.Bindings),
        r.Settled components resolved filename lines bindings ∧
        ∀ fault, (a.run emptyMarketEnvironment afterIngestion made).result = .error fault ↔
          r.Fails resolved filename lines bindings sources made fault := by
  intro a made sources
  obtain ⟨_, r, components, resolved, filename, lines, bindings, -, -, settled, -, -, fails⟩ :=
    run_of_valid idleWeek_valid afterIngestion
  exact ⟨idleWeek_valid, r, components, resolved, filename, lines, bindings, settled, fails⟩

/-- A run that passes its check can fail before it is simulated though its data loads: a run on minutes is
not refused by the check. -/
theorem not_all_valid_simulated :
    ¬∀ (a : RunArguments) (e : Environment) (w : Workspace) (now : Moment),
      (a.validate e w).result = .ok () →
      let outcome := a.run e now (a.validate e w).workspace
      ∀ fault, outcome.result = .error fault →
        (∃ cause, fault = .benchmark cause) ∨ (∃ cause, fault = .bundle cause) ∨
          .simulation ∈ outcome.events := by
  intro always
  let outcome := (idleWeek .minute).run emptyMarketEnvironment afterIngestion
    ((idleWeek .minute).validate emptyMarketEnvironment emptyMarket).workspace
  have refused : outcome.result = .error (.simulation (.unsupportedFrequency .minute)) :=
    eq_error_of_fault? (by decide +kernel)
  have unsimulated : outcome.events.any isSimulation = false := by decide +kernel
  rcases always _ _ _ afterIngestion idleWeek_valid _ refused with ⟨_, h⟩ | ⟨_, h⟩ | simulated
  · cases h
  · cases h
  · have := List.any_eq_false.1 unsimulated _ simulated
    exact this rfl

/-- A run that succeeds would have passed its check, and the check tells as many sessions as the run has
rows. -/
theorem validate_of_run_ok {p : Results.Performance} (ran : (a.run e now w).result = .ok p) :
    (a.validate e w).result = .ok () ∧
      (a.validate e w).notices.filterMap sessionCount? = [p.rows.length] := by
  rw [run] at ran
  cases read : loadRunFile w a.loading.runFile with
  | error fault =>
    rw [read] at ran
    cases ran
  | ok file =>
    simp only [read] at ran
    cases request : a.request file e w with
    | error fault =>
      rw [request] at ran
      cases ran
    | ok r =>
      simp only [request] at ran
      rcases loads : a.loading.load file e w with ⟨fault | loaded, host, made⟩
      · simp only [loads] at ran
        cases ran
      · simp only [loads] at ran
        obtain ⟨resolved, filename, lines, bindings, settled⟩ :=
          Request.exists_settled_of_execute_ok (exists_script r) ran
        have later : a.request file e made = .ok r :=
          request_within (within_load (load_eq_ok_iff.1 loads)) request
        have checked := checkRequest_of_settled settled (seed_of_request request)
        obtain ⟨benchmark, bundle, -, runs⟩ := (settled.succeeds ran).runs
        have rows : p.rows.length = (resolved.calendar.sessionsInRange r.first r.last).length := by
          obtain ⟨rows, sessions⟩ := Simulation.Scenario.rows_of_run runs
          rw [rows, List.length_map, ← List.length_map (f := (·.session)), sessions]
          rfl
        rw [validate_eq read loads later, checked]
        refine ⟨rfl, ?_⟩
        simp only [List.filterMap_append, sessionCount?_loadNotices, List.filterMap_cons,
          sessionCount?, sessionCount?_bindings, List.filterMap_nil, rows]
        rfl

/-- A week of days is run on the market without a day. -/
theorem validate_of_run_idleWeek :
    let a := idleWeek .daily
    ∃ p, (a.run emptyMarketEnvironment afterIngestion emptyMarket).result = .ok p ∧
      (a.validate emptyMarketEnvironment emptyMarket).result = .ok () ∧
      (a.validate emptyMarketEnvironment emptyMarket).notices.filterMap sessionCount? =
        [p.rows.length] := by
  intro a
  have succeeds : (a.run emptyMarketEnvironment afterIngestion emptyMarket).result.isOk := by
    decide +kernel
  obtain ⟨p, ran⟩ := Simulation.exists_of_isOk succeeds
  obtain ⟨valid, count⟩ := validate_of_run_ok ran
  exact ⟨p, ran, valid, count⟩

end RunArguments

end Backtest.CommandLine
