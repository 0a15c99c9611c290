import Backtest.Proofs.Language.HostFailures
import Backtest.Proofs.Simulation.CallLog

/-!
# Columns that fail a script

A pipeline column that cannot be loaded fails its call with nothing but a message, and is put aside as what
it really was. Since no script goes on after a failed call, the column that is put aside when a script ends
is the one that it has failed of, so a strategy may report it in place of the script's error, and there is
none to be mistaken for the cause of another failure.
-/

namespace Backtest.Simulation

open Backtest.Language (Bindings EndsInCall EvalError Expr Host HostCall ScriptLine ScriptState Value evaluate
  evaluate_surfaces evaluationCalls lineCalls runLines runLines_surfaces)
open Backtest.Market (UnregisteredColumn)

/-- The column that a call asks for, if it cannot be loaded. -/
def unloaded? (o : Outlook) (c : HostCall) : Option UnregisteredColumn :=
  if c.function = TradingFunction.pipeline.name then
    match TradingFunction.pipelineArguments c.args with
    | .error _ => none
    | .ok (column, symbol, count) =>
      match o.pipelineValue column symbol count with
      | .ok _ => none
      | .error e => some e
  else none

/-- Only the pipeline function puts a column aside. -/
theorem TradingFunction.pending_apply {f : TradingFunction} (other : f ≠ pipeline) (o : Outlook)
    (args : List Value) (s : TradingState) : (f.apply o args s).2.pending = s.pending := by
  unfold apply
  split
  · split <;> rfl
  · split <;> rfl
  · contradiction
  · rfl

/-- A trading function is called under its name. -/
theorem tradingHost_call_name (o : Outlook) (f : TradingFunction) (args : List Value) (s : TradingState) :
    (tradingHost o).call f.name args s = (some (f.apply o args s).1, (f.apply o args s).2) := by
  have found : TradingFunction.all.find? (fun g => g.name == f.name) = some f := by
    cases f <;> decide
  rw [tradingHost]
  simp only [found]

/-- A function that is called by no name of a trading function is none, and has no effect. -/
theorem tradingHost_call_unknown {name : String} (unknown : ∀ f : TradingFunction, f.name ≠ name) (o : Outlook)
    (args : List Value) (s : TradingState) : (tradingHost o).call name args s = (none, s) := by
  have absent : TradingFunction.all.find? (fun f => f.name == name) = none :=
    List.find?_eq_none.2 fun f _ => by simpa using unknown f
  rw [tradingHost]
  simp only [absent]

/-- A column that cannot be loaded is put aside, and its message fails the call. -/
theorem tradingHost_putsAside (o : Outlook) :
    (tradingHost o).PutsAside TradingState.pending (unloaded? o) fun e => .host e.message := by
  have pipelineCall : ∀ (args : List Value) (s : TradingState) answer,
      (∀ f, unloaded? o ⟨TradingFunction.pipeline.name, args, answer⟩ = some f →
        (TradingFunction.runPipeline o args s).1 = .error (.host f.message)) ∧
      (TradingFunction.runPipeline o args s).2.pending =
        (unloaded? o ⟨TradingFunction.pipeline.name, args, answer⟩).or s.pending := by
    intro args s answer
    simp only [unloaded?, TradingFunction.runPipeline, if_true]
    rcases TradingFunction.pipelineArguments args with e | ⟨column, symbol, count⟩
    · simp
    · dsimp only
      generalize o.pipelineValue column symbol count = value
      cases value <;> simp
  have otherCall : ∀ name args answer, name ≠ TradingFunction.pipeline.name →
      unloaded? o ⟨name, args, answer⟩ = none := fun _ _ _ other => if_neg other
  constructor
  · intro name args s f fault
    by_cases known : ∃ g : TradingFunction, g.name = name
    · obtain ⟨g, rfl⟩ := known
      by_cases pipeline : g = .pipeline
      · subst pipeline
        rw [tradingHost_call_name]
        exact congrArg some ((pipelineCall args s _).1 f fault)
      · rw [otherCall g.name args _ (mt TradingFunction.name_inj.1 pipeline)] at fault
        contradiction
    · have other : name ≠ TradingFunction.pipeline.name := fun same => known ⟨_, same.symm⟩
      rw [otherCall name args _ other] at fault
      contradiction
  · intro name args s
    by_cases known : ∃ g : TradingFunction, g.name = name
    · obtain ⟨g, rfl⟩ := known
      by_cases pipeline : g = .pipeline
      · subst pipeline
        rw [tradingHost_call_name]
        exact (pipelineCall args s _).2
      · rw [otherCall g.name args _ (mt TradingFunction.name_inj.1 pipeline), tradingHost_call_name]
        exact TradingFunction.pending_apply pipeline o args s
    · have other : name ≠ TradingFunction.pipeline.name := fun same => known ⟨_, same.symm⟩
      rw [otherCall name args _ other, tradingHost_call_unknown (fun f same => known ⟨f, same⟩)]
      rfl

/-- The script of a strategy ends in a pipeline call whose column cannot be loaded. -/
def FailsOfColumn (o : Outlook) (lines : List ScriptLine) (d : Desk) (b : Bindings) (e : UnregisteredColumn) :
    Prop :=
  ∃ c, unloaded? o c = some e ∧ EndsInCall (tradingHost o) lines ⟨b, d, none⟩ c (.host e.message)

section Script

variable {o : Outlook} {lines : List ScriptLine} {d : Desk} {b : Bindings}

/-- A column is put aside if and only if the script has failed of it. -/
theorem pending_runLines (o : Outlook) (lines : List ScriptLine) (d : Desk) (b : Bindings)
    (e : UnregisteredColumn) :
    (runLines (tradingHost o) lines ⟨b, d, none⟩).2.host.pending = some e ↔ FailsOfColumn o lines d b e :=
  (tradingHost_putsAside o).kept_runLines lines rfl e

/-- A strategy reports the column that its script has failed of, and otherwise the script's error. -/
theorem onSession_ofLines (filename : String) (o : Outlook) (lines : List ScriptLine) (d : Desk) (b : Bindings) :
    ((Strategy.ofLines filename lines).onSession o d b).1 =
      match runLines (tradingHost o) lines ⟨b, d, none⟩ with
      | (.ok (), _) => .ok ()
      | (.error fault, s) =>
        match s.host.pending with
        | some e => .error (.unregisteredColumn e)
        | none => .error (.simulation (.script filename fault)) := by
  simp only [Strategy.ofLines, Phase.ofLines, runTrading]
  rcases runLines (tradingHost o) lines ⟨b, d, none⟩ with ⟨fault | _, s⟩
  · dsimp only
    generalize s.host.pending = kept
    cases kept <;> rfl
  · rfl

end Script

end Backtest.Simulation
