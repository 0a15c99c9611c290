import Backtest.Results.Performance
import Backtest.Run.Failure
import Backtest.Simulation.TradingHost

/-!
# Strategies

A strategy acts before the first session, before and during every session, and looks at the results in
the end. It keeps a state of its own. The strategy of a script runs its lines in every session and keeps
their names.
-/

namespace Backtest.Simulation

open Backtest.Language (Bindings ScriptError ScriptLine parseScript)
open Backtest.Results (Performance)
open Backtest.Run (RunError SimulationFault)

/-- What a strategy does at one point of a session: it sees the outlook and changes the desk and its own
state. Changes made before a failure stay. -/
abbrev Phase (σ : Type) := Outlook → Desk → σ → Except RunError Unit × Desk × σ

/-- A phase in which nothing is done. -/
def Phase.idle {σ : Type} : Phase σ :=
  fun _ d s => (.ok (), d, s)

/-- The run error that the failure of a strategy's script is. -/
def TradingFault.runError (describe : ScriptError → SimulationFault) : TradingFault → RunError
  | column error => .unregisteredColumn error
  | script error => .simulation (describe error)

/-- The phase that runs the lines of a script. -/
def Phase.ofLines (describe : ScriptError → SimulationFault) (lines : List ScriptLine) :
    Phase Bindings :=
  fun o d b =>
    match runTrading o lines d b with
    | (.ok (), next) => (.ok (), next)
    | (.error fault, next) => (.error (fault.runError describe), next)

/-- The phase that reads a script and runs it. -/
def Phase.ofText (describe : ScriptError → SimulationFault) (text : String) : Phase Bindings :=
  fun o d b =>
    match parseScript text with
    | .error e => (.error (.simulation (describe e)), d, b)
    | .ok lines => Phase.ofLines describe lines o d b

/-- A strategy with a state of its own. -/
structure Strategy (σ : Type) where
  beforeRun : Phase σ
  beforeSession : Phase σ
  onSession : Phase σ
  afterRun : Performance → σ → Except RunError Unit × σ

/-- The strategy that does nothing. -/
def Strategy.idle {σ : Type} : Strategy σ :=
  ⟨.idle, .idle, .idle, fun _ s => (.ok (), s)⟩

/-- The strategy that runs the lines of a script from a file in every session. -/
def Strategy.ofLines (filename : String) (lines : List ScriptLine) : Strategy Bindings :=
  { Strategy.idle with onSession := .ofLines (.script filename) lines }

end Backtest.Simulation
