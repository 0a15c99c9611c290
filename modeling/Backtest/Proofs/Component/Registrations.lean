import Backtest.Proofs.Component.RegistryChanges
import Backtest.Proofs.Files.Growth
import Backtest.Proofs.Language.ScriptRuns

/-!
# Histories of registrations

The calls of extension scripts, one after the other. Which operation a call asks for is read off its arguments
alone; whether it succeeds depends also on the registries, and only in so far as they accept the operation.
A call that fails does nothing. The operations of the calls that succeed are then a history whose last changes
tell all that is in the registries in the end.
-/

namespace Backtest.Component

open Backtest.Files (Environment)
open Backtest.Language (Bindings EvalError Value runScript runScript_recording scriptCalls)
open Backtest.Metrics (MetricKind MetricsSet)
open Backtest.Trading (CancelPolicy)

/-- The arguments with which a function can succeed, and the operation that it is then to make: none if it
only looks up a variable. -/
inductive RegistrationFunction.Asks : RegistrationFunction → List Value → Option Operation → Prop where
  | registerMetrics (name : String) (kinds : List MetricKind) :
    Asks .registerMetricsSet [.str name, .list (kinds.map fun kind => .str kind.name)]
      (some (.metrics (.bind name kinds)))
  | registerBlotter (name : String) :
    Asks .registerBlotter [.str name] (some (.blotter (.bind name .never)))
  | registerBlotterOf {policy : CancelPolicy} {text : String} (name : String)
    (known : CancelPolicy.ofName text = .ok policy) :
    Asks .registerBlotter [.str name, .str text] (some (.blotter (.bind name policy)))
  | unregisterMetrics (name : String) :
    Asks .unregisterMetricsSet [.str name] (some (.metrics (.free name)))
  | unregisterBlotter (name : String) :
    Asks .unregisterBlotter [.str name] (some (.blotter (.free name)))
  | getenv (key : String) : Asks .getenv [.str key] none
  | getenvOr (key : String) (default : Value) : Asks .getenv [.str key, default] none

section Arguments

variable {function text name : String} {v : Value} {kind : MetricKind}

/-- An argument is taken as a text if and only if it is one. -/
theorem textArgument_eq_ok_iff : textArgument function v = .ok text ↔ v = .str text := by
  cases v <;> simp [textArgument]

/-- What goes on after reading a text has read one. -/
theorem exists_of_textArgument {α : Type} {next : String → Except EvalError α} {a : α}
    (done : (textArgument function v).bind next = .ok a) : ∃ text, v = .str text ∧ next text = .ok a := by
  obtain ⟨text, read, done⟩ := exists_of_bind_eq_ok done
  exact ⟨text, textArgument_eq_ok_iff.1 read, done⟩

/-- A name stands for the kind of metric that it is the name of. -/
theorem ofName?_eq_some_iff : MetricKind.ofName? name = some kind ↔ name = kind.name := by
  constructor
  · intro found
    have named := List.find?_some found
    exact (beq_iff_eq.1 named).symm
  · rintro rfl
    cases kind <;> decide

/-- An argument is taken as a kind of metric if and only if it is its name. -/
theorem metricArgument_eq_ok_iff : metricArgument function v = .ok kind ↔ v = .str kind.name := by
  constructor
  · intro read
    obtain ⟨name, rfl, known⟩ := exists_of_textArgument read
    split at known
    · rename_i found
      cases known
      rw [ofName?_eq_some_iff.1 found]
    · cases known
  · rintro rfl
    simp only [metricArgument, textArgument, bind, Except.bind, ofName?_eq_some_iff.2 rfl]
    rfl

/-- A list of metrics is read from their names, and from nothing else. -/
theorem mapM_metricArgument_eq_ok_iff {items : List Value} {kinds : List MetricKind} :
    items.mapM (metricArgument function) = .ok kinds ↔ items = kinds.map fun kind => .str kind.name := by
  induction items generalizing kinds with
  | nil => cases kinds <;> simp [pure, Except.pure]
  | cons item rest ih =>
    rw [List.mapM_cons]
    constructor
    · intro read
      obtain ⟨kind, first, read⟩ := exists_of_bind_eq_ok read
      obtain ⟨kinds, others, read⟩ := exists_of_bind_eq_ok read
      cases read
      rw [metricArgument_eq_ok_iff.1 first, ih.1 others, List.map_cons]
    · cases kinds with
      | nil => intro same; cases same
      | cons kind kinds =>
        intro same
        obtain ⟨first, others⟩ := List.cons.inj same
        rw [metricArgument_eq_ok_iff.2 first, ih.2 others]
        rfl

end Arguments

namespace RegistrationFunction

variable {f : RegistrationFunction} {environment : Environment} {args : List Value} {c : Components}

/-- A function that succeeds has arguments with which it can. -/
theorem exists_asks_of_apply {answer : Value × Components} (done : f.apply environment args c = .ok answer) :
    ∃ operation?, f.Asks args operation? := by
  unfold apply at done
  split at done
  · obtain ⟨name, rfl, more⟩ := exists_of_textArgument done
    obtain ⟨kinds, metrics, -⟩ := exists_of_bind_eq_ok more
    rw [mapM_metricArgument_eq_ok_iff.1 metrics]
    exact ⟨_, .registerMetrics name kinds⟩
  · obtain ⟨name, rfl, more⟩ := exists_of_textArgument done
    cases more
  · obtain ⟨name, rfl, -⟩ := exists_of_textArgument done
    exact ⟨_, .registerBlotter name⟩
  · obtain ⟨name, rfl, more⟩ := exists_of_textArgument done
    obtain ⟨text, rfl, last⟩ := exists_of_textArgument more
    split at last
    · rename_i known
      exact ⟨_, .registerBlotterOf name known⟩
    · cases last
  · obtain ⟨name, rfl, -⟩ := exists_of_textArgument done
    exact ⟨_, .unregisterMetrics name⟩
  · obtain ⟨name, rfl, -⟩ := exists_of_textArgument done
    exact ⟨_, .unregisterBlotter name⟩
  · obtain ⟨key, rfl, -⟩ := exists_of_textArgument done
    exact ⟨_, .getenv key⟩
  · rename_i default
    obtain ⟨key, rfl, -⟩ := exists_of_textArgument done
    exact ⟨_, .getenvOr key default⟩
  · cases done

/-- A function that is to make an operation asks the registry for it. -/
theorem apply_of_asks_some {operation : Operation} (asks : f.Asks args (some operation)) :
    f.apply environment args c = changed (c.operate operation) := by
  cases asks with
  | registerMetrics name kinds =>
    simp only [apply, textArgument, mapM_metricArgument_eq_ok_iff.2 rfl]
    rfl
  | registerBlotter name => rfl
  | registerBlotterOf name known =>
    simp only [apply, textArgument, bind, Except.bind, known]
    rfl
  | unregisterMetrics name => rfl
  | unregisterBlotter name => rfl

/-- A function that only looks up a variable leaves the components as they are. -/
theorem apply_of_asks_none (asks : f.Asks args none) :
    ∃ v, f.apply environment args c = .ok (v, c) := by
  cases asks with
  | getenv key => exact ⟨_, rfl⟩
  | getenvOr key default => exact ⟨_, rfl⟩

/-- A registration function is found under its name. -/
theorem find?_name (f : RegistrationFunction) : all.find? (fun g => g.name == f.name) = some f := by
  cases f <;> decide

end RegistrationFunction

/-- A call of a function, with the variables that its script sees. -/
structure RegistrationCall where
  environment : Environment
  function : String
  args : List Value

namespace RegistrationCall

/-- What a call answers, and the components after it. -/
def run (call : RegistrationCall) (c : Components) : Option (Except EvalError Value) × Components :=
  (registrationHost call.environment).call call.function call.args c

/-- The components after a call. -/
def after (call : RegistrationCall) (c : Components) : Components :=
  (call.run c).2

/-- A call answers with a value. -/
def Succeeds (call : RegistrationCall) (c : Components) : Prop :=
  ∃ v, (call.run c).1 = some (.ok v)

/-- A call with which its function can succeed, and the operation that it is then to make. -/
def Asks (call : RegistrationCall) (operation? : Option Operation) : Prop :=
  ∃ f : RegistrationFunction, f.name = call.function ∧ f.Asks call.args operation?

variable {call : RegistrationCall} {c : Components} {operation : Operation}

/-- A call that succeeds leaves the registries as its function does. -/
theorem run_of_apply_ok {f : RegistrationFunction} (named : f.name = call.function) {v : Value}
    {next : Components} (done : f.apply call.environment call.args c = .ok (v, next)) :
    call.run c = (some (.ok v), next) := by
  simp only [run, registrationHost, ← named, RegistrationFunction.find?_name, done]

/-- A call that fails leaves the registries as they are. -/
theorem run_of_apply_error {f : RegistrationFunction} (named : f.name = call.function) {e : EvalError}
    (failed : f.apply call.environment call.args c = .error e) : call.run c = (some (.error e), c) := by
  simp only [run, registrationHost, ← named, RegistrationFunction.find?_name, failed]

/-- A function that is none of these is not called, and leaves the registries as they are. -/
theorem run_of_unknown (unknown : ∀ f : RegistrationFunction, f.name ≠ call.function) :
    call.run c = (none, c) := by
  have unfound : RegistrationFunction.all.find? (fun f => f.name == call.function) = none :=
    List.find?_eq_none.2 fun f _ => mt beq_iff_eq.1 (unknown f)
  simp only [run, registrationHost, unfound]

/-- All that can come of a call: a function answers a value, or there is no value and nothing changes. -/
theorem run_cases (call : RegistrationCall) (c : Components) :
    (∃ f : RegistrationFunction, f.name = call.function ∧ ∃ answer,
      f.apply call.environment call.args c = .ok answer) ∨
      ¬call.Succeeds c ∧ call.after c = c := by
  unfold Succeeds after
  by_cases known : ∃ f : RegistrationFunction, f.name = call.function
  · obtain ⟨f, named⟩ := known
    cases done : f.apply call.environment call.args c with
    | ok answer => exact .inl ⟨f, named, answer, done⟩
    | error e =>
      rw [run_of_apply_error named done]
      exact .inr ⟨fun ⟨_, answered⟩ => (nomatch answered), rfl⟩
  · rw [run_of_unknown (not_exists.1 known)]
    exact .inr ⟨fun ⟨_, answered⟩ => (nomatch answered), rfl⟩

/-- A call that does not succeed changes nothing. -/
theorem after_of_not_succeeds (fails : ¬call.Succeeds c) : call.after c = c := by
  rcases call.run_cases c with ⟨f, named, ⟨v, next⟩, done⟩ | ⟨-, unchanged⟩
  · exact absurd ⟨v, congrArg Prod.fst (run_of_apply_ok named done)⟩ fails
  · exact unchanged

/-- A call that succeeds asks for something. -/
theorem exists_asks_of_succeeds (succeeds : call.Succeeds c) : ∃ operation?, call.Asks operation? := by
  rcases call.run_cases c with ⟨f, named, answer, done⟩ | ⟨fails, -⟩
  · obtain ⟨operation?, asks⟩ := RegistrationFunction.exists_asks_of_apply done
    exact ⟨operation?, f, named, asks⟩
  · exact absurd succeeds fails

/-- A call that is to make an operation succeeds if it is accepted, and then makes it. -/
theorem run_of_asks_some (asks : call.Asks (some operation)) :
    (c.accepts operation = true → call.run c = (some (.ok .nothing), c.apply operation)) ∧
      (¬c.accepts operation = true → ¬call.Succeeds c) := by
  obtain ⟨f, named, asks⟩ := asks
  have asked : f.apply call.environment call.args c = changed (c.operate operation) :=
    RegistrationFunction.apply_of_asks_some asks
  rw [Components.operate_eq] at asked
  refine ⟨fun accepted => ?_, fun refused => ?_⟩
  · rw [if_pos accepted] at asked
    exact run_of_apply_ok named asked
  · rw [if_neg refused] at asked
    rw [Succeeds, run_of_apply_error named asked]
    exact fun ⟨_, answered⟩ => nomatch answered

/-- An operation that succeeds was accepted and has been made. -/
theorem after_of_succeeds (succeeds : call.Succeeds c) (asks : call.Asks (some operation)) :
    c.accepts operation = true ∧ call.after c = c.apply operation := by
  have accepted : c.accepts operation = true := by
    by_contra refused
    exact (run_of_asks_some asks).2 refused succeeds
  exact ⟨accepted, congrArg Prod.snd ((run_of_asks_some asks).1 accepted)⟩

/-- A call that asks for no change succeeds without one. -/
theorem run_of_asks_none (asks : call.Asks none) : ∃ v, call.run c = (some (.ok v), c) := by
  obtain ⟨f, named, asks⟩ := asks
  obtain ⟨v, done⟩ := RegistrationFunction.apply_of_asks_none asks
  exact ⟨v, run_of_apply_ok named done⟩

/-- So the registries after it are those before it. -/
theorem after_of_asks_none (asks : call.Asks none) : call.after c = c := by
  obtain ⟨v, done⟩ := run_of_asks_none asks
  exact congrArg Prod.snd done

/-- A call succeeds if and only if its arguments ask for something that the components accept. -/
theorem succeeds_iff :
    call.Succeeds c ↔ ∃ operation?, call.Asks operation? ∧ ∀ operation ∈ operation?, c.accepts operation := by
  constructor
  · intro succeeds
    obtain ⟨operation?, asks⟩ := exists_asks_of_succeeds succeeds
    refine ⟨operation?, asks, ?_⟩
    rintro operation ⟨⟩
    exact (after_of_succeeds succeeds asks).1
  · rintro ⟨operation?, asks, accepted⟩
    cases operation? with
    | none =>
      obtain ⟨v, done⟩ := run_of_asks_none asks
      exact ⟨v, congrArg Prod.fst done⟩
    | some operation => exact ⟨_, congrArg Prod.fst ((run_of_asks_some asks).1 (accepted _ rfl))⟩

end RegistrationCall

/-- The history of some calls: the operations of those that succeed, each made on the components that the
calls before it leave. -/
inductive History : Components → List RegistrationCall → List Operation → Prop where
  | nil (c : Components) : History c [] []
  | refused {c : Components} {call : RegistrationCall} {rest : List RegistrationCall}
    {operations : List Operation} (fails : ¬call.Succeeds c) (more : History c rest operations) :
    History c (call :: rest) operations
  | read {c : Components} {call : RegistrationCall} {rest : List RegistrationCall}
    {operations : List Operation} (succeeds : call.Succeeds c) (asks : call.Asks none)
    (more : History c rest operations) : History c (call :: rest) operations
  | made {c : Components} {call : RegistrationCall} {rest : List RegistrationCall}
    {operation : Operation} {operations : List Operation} (succeeds : call.Succeeds c)
    (asks : call.Asks (some operation)) (more : History (c.apply operation) rest operations) :
    History c (call :: rest) (operation :: operations)

namespace Components

/-- The components after some calls. -/
def performAll (c : Components) (calls : List RegistrationCall) : Components :=
  calls.foldl (fun c call => call.after c) c

variable {c : Components} {calls : List RegistrationCall} {operations : List Operation}

/-- Calls are performed one after the other. -/
theorem performAll_cons (c : Components) (call : RegistrationCall) (rest : List RegistrationCall) :
    c.performAll (call :: rest) = (call.after c).performAll rest :=
  rfl

/-- Calls are performed in two parts as in one. -/
theorem performAll_append (c : Components) (calls later : List RegistrationCall) :
    c.performAll (calls ++ later) = (c.performAll calls).performAll later :=
  List.foldl_append

/-- All calls have a history. -/
theorem exists_history (calls : List RegistrationCall) (c : Components) :
    ∃ operations, History c calls operations := by
  induction calls generalizing c with
  | nil => exact ⟨[], .nil c⟩
  | cons call rest ih =>
    by_cases succeeds : call.Succeeds c
    · obtain ⟨operation?, asks⟩ := RegistrationCall.exists_asks_of_succeeds succeeds
      cases operation? with
      | none =>
        obtain ⟨operations, more⟩ := ih c
        exact ⟨operations, .read succeeds asks more⟩
      | some operation =>
        obtain ⟨operations, more⟩ := ih (c.apply operation)
        exact ⟨operation :: operations, .made succeeds asks more⟩
    · obtain ⟨operations, more⟩ := ih c
      exact ⟨operations, .refused succeeds more⟩

/-- Calls leave what the operations of their history do. -/
theorem performAll_of_history (history : History c calls operations) :
    c.performAll calls = operations.foldl apply c := by
  induction history with
  | nil => rfl
  | refused fails _ ih => rwa [performAll_cons, RegistrationCall.after_of_not_succeeds fails]
  | read succeeds asks _ ih => rwa [performAll_cons, RegistrationCall.after_of_asks_none asks]
  | made succeeds asks _ ih =>
    rwa [performAll_cons, (RegistrationCall.after_of_succeeds succeeds asks).2, List.foldl_cons]

end Components

/-- A script, with the names and the variables that it sees. -/
structure RegistrationScript where
  environment : Environment
  bindings : Bindings
  text : String

namespace RegistrationScript

/-- The components after a script. -/
def after (script : RegistrationScript) (c : Components) : Components :=
  (runScript (registrationHost script.environment) script.text ⟨script.bindings, c⟩).2.host

/-- The calls that a script makes. -/
def calls (script : RegistrationScript) (c : Components) : List RegistrationCall :=
  (scriptCalls (registrationHost script.environment) script.text ⟨script.bindings, c⟩).map fun call =>
    ⟨script.environment, call.function, call.args⟩

/-- A script changes the components by its calls. -/
theorem after_eq (script : RegistrationScript) (c : Components) :
    script.after c = c.performAll (script.calls c) := by
  have replayed := (runScript_recording (registrationHost script.environment) script.text
    ⟨script.bindings, c⟩).2
  rw [after, replayed, Language.replay, Components.performAll, calls, List.foldl_map]
  rfl

end RegistrationScript

namespace Components

/-- The components after some scripts. -/
def runScripts (c : Components) (scripts : List RegistrationScript) : Components :=
  scripts.foldl (fun c script => script.after c) c

/-- The calls that some scripts make. -/
def callsOf (c : Components) : List RegistrationScript → List RegistrationCall
  | [] => []
  | script :: rest => script.calls c ++ (script.after c).callsOf rest

/-- Scripts change the components by their calls. -/
theorem runScripts_eq (scripts : List RegistrationScript) (c : Components) :
    c.runScripts scripts = c.performAll (c.callsOf scripts) := by
  induction scripts generalizing c with
  | nil => rfl
  | cons script rest ih =>
    rw [callsOf, performAll_append, ← script.after_eq]
    exact ih (script.after c)

end Components

/-- The registries stand for the successful calls. A call succeeds if and only if its arguments ask for
something that the registries accept; one that fails or only looks up a variable leaves both as they are, and
one that makes an operation changes one entry of one of them. After any calls, and so after any scripts, each
registry reflects its own changes among the operations that were made: the last one about a name settles
whether it is bound and what it is loaded as. Metrics are made in the order in which they were registered,
with every repetition. -/
theorem registrations_reflect_history (c : Components) :
    (∀ call : RegistrationCall,
      (call.Succeeds c ↔
        ∃ operation?, call.Asks operation? ∧ ∀ operation ∈ operation?, c.accepts operation) ∧
      (¬call.Succeeds c → call.after c = c) ∧
      (call.Asks none → call.after c = c) ∧
      ∀ operation, call.Asks (some operation) → call.Succeeds c → operation.Turns c (call.after c)) ∧
    (∀ calls, ∃ operations, History c calls operations) ∧
    (∀ calls operations, History c calls operations →
      (c.performAll calls).metricsSets.Reflects c.metricsSets (metricsChanges operations) ∧
        (c.performAll calls).blotters.Reflects c.blotters (blotterChanges operations)) ∧
    (∀ scripts, c.runScripts scripts = c.performAll (c.callsOf scripts)) ∧
    ∀ kinds, (MetricsSet.ofKinds kinds).names = kinds.map MetricKind.name := by
  refine ⟨fun call => ⟨call.succeeds_iff, RegistrationCall.after_of_not_succeeds,
    RegistrationCall.after_of_asks_none, fun operation asks succeeds => ?turns⟩,
    fun calls => Components.exists_history calls c, fun calls operations history => ?reflects,
    fun scripts => Components.runScripts_eq scripts c, fun kinds => ?names⟩
  case turns =>
    obtain ⟨accepted, made⟩ := RegistrationCall.after_of_succeeds succeeds asks
    rw [made]
    exact Components.turns_apply accepted
  case reflects =>
    rw [Components.performAll_of_history history, Components.foldl_apply]
    exact ⟨Registry.reflects_foldl_apply _ _, Registry.reflects_foldl_apply _ _⟩
  case names =>
    rw [MetricsSet.ofKinds, MetricsSet.names, List.map_map]
    refine List.map_congr_left fun kind _ => ?_
    cases kind <;> rfl

/-- A metrics set is registered with a repetition, cannot be registered again, and stays; the default blotter
is freed. -/
theorem registrations_reflect_history_of_four_calls :
    let call (function : String) (args : List Value) : RegistrationCall := ⟨.empty, function, args⟩
    let first := call "register_metrics_set" [.str "twice", .list [.str "cash", .str "cash"]]
    let again := call "register_metrics_set" [.str "twice", .list []]
    let shell := call "getenv" [.str "SHELL", .int 0]
    let freed := call "unregister_blotter" [.str "default"]
    let last := Components.standard.performAll [first, again, shell, freed]
    ¬again.Succeeds (first.after .standard) ∧ again.after (first.after .standard) = first.after .standard ∧
      Run.resolveChoice last.metricsSets (.named "twice") = .ok [.cash, .cash] ∧
      (MetricsSet.ofKinds [.cash, .cash]).names = ["cash", "cash"] ∧
      last.blotters.get? "default" = none ∧
      last.metricsSets.get? "default" = Components.standard.metricsSets.get? "default" := by
  intro call first again shell freed last
  let bound : Operation := .metrics (.bind "twice" [.cash, .cash])
  let unbound : Operation := .blotter (.free "default")
  have asks : first.Asks (some bound) := ⟨.registerMetricsSet, rfl, .registerMetrics "twice" [.cash, .cash]⟩
  have succeeds : first.Succeeds .standard := ⟨.nothing, rfl⟩
  have fails : ¬again.Succeeds (Components.standard.apply bound) := fun ⟨_, answered⟩ => nomatch answered
  have made : first.after .standard = Components.standard.apply bound := rfl
  have history : History .standard [first, again, shell, freed] [bound, unbound] :=
    .made succeeds asks <| .refused fails <|
      .read ⟨.int 0, rfl⟩ ⟨.getenv, rfl, .getenvOr "SHELL" (.int 0)⟩ <|
        .made ⟨.nothing, rfl⟩ ⟨.unregisterBlotter, rfl, .unregisterBlotter "default"⟩ (.nil _)
  obtain ⟨-, -, reflects, -, names⟩ := registrations_reflect_history .standard
  obtain ⟨-, unchanged, -⟩ := (registrations_reflect_history (first.after .standard)).1 again
  obtain ⟨metrics, blotters⟩ := reflects _ _ history
  have lastly : lastChange? "default" (blotterChanges [bound, unbound]) = some (.free "default") := by decide
  have free : ¬(last.blotters.get? "default").isSome := by
    rw [blotters.bound, lastly]
    simp
  exact ⟨made ▸ fails, unchanged (made ▸ fails), metrics.loaded "twice" _ (by decide), names _,
    Option.not_isSome_iff_eq_none.1 free, metrics.untouched "default" (by decide)⟩

end Backtest.Component
