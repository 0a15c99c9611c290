import Backtest.Component.Extension
import Backtest.Format.Ini
import Backtest.Language.Definition
import Backtest.Market.BarFiles
import Backtest.Market.BenchmarkFile
import Backtest.Run.Setting

/-!
# Failures of a run

Everything that can end a run, from its configuration to its results, with the wording and the exit code
of each.
-/

namespace Backtest.Run

open Backtest.Calendar (Date)
open Backtest.Component (ComponentKind LoadError LoadFailure)
open Backtest.Files (IoFault)
open Backtest.Format (IniFault)
open Backtest.Language (DefinitionError ScriptError)
open Backtest.Market (BenchmarkError BundleError UnregisteredColumn)
open Backtest.Number (FloatFault)

/-- Settings that do not go together or that nothing answers to. -/
inductive Conflict where
  /-- No calendar has the name, which is given in upper case. -/
  | unknownCalendar (name : String)
  | definesWithoutSource
  | twoSources
  | noSource
  deriving DecidableEq, Repr

/-- The wording of a conflict. -/
def Conflict.message : Conflict → String
  | unknownCalendar name => "unknown trading calendar " ++ Text.quote name
  | definesWithoutSource => "cannot pass defines without source text"
  | twoSources => "must specify exactly one of algofile or algotext"
  | noSource => "must specify one of algofile or algotext"

/-- Why a simulation was not built or did not come to its end. -/
inductive SimulationFault where
  | unsupportedFrequency (frequency : DataFrequency)
  | noSessions (calendar : String) (first last : Date)
  | script (filename : String) (error : ScriptError)
  /-- A callback of the strategy failed, for a reason of its own. -/
  | strategy (reason : String)
  deriving DecidableEq, Repr

/-- The wording of a simulation fault. -/
def SimulationFault.message : SimulationFault → String
  | unsupportedFrequency frequency =>
    frequency.name ++ " data frequency is not supported, only daily"
  | noSessions calendar first last =>
    "no " ++ calendar ++ " sessions between " ++ first.text ++ " and " ++ last.text
  | script filename error => filename ++ ": " ++ error.message
  | strategy reason => reason

/-- Why a run file could not be used. -/
inductive RunFileFault where
  | unreadable (fault : IoFault)
  | malformed (fault : IniFault)
  deriving DecidableEq, Repr

/-- The wording of a fault of a run file. -/
def RunFileFault.message : RunFileFault → String
  | unreadable fault => fault.message
  | malformed fault => fault.message

/-- Why the value of a key in a run file is not of the kind it should be. -/
inductive ValueFault where
  | date
  | number (fault : FloatFault)
  | frequency (reason : String)
  | timestamp
  deriving DecidableEq, Repr

/-- The wording of a value fault. A bad point in time is not described. -/
def ValueFault.message : ValueFault → String
  | date => ": invalid date format (expected YYYY-MM-DD)"
  | number fault => ": " ++ fault.message
  | frequency reason => ": " ++ reason
  | timestamp => ""

/-- Why results could not be written or read back. -/
inductive PersistFault where
  | write (fault : IoFault)
  /-- The file is no record of results. -/
  | malformed
  deriving DecidableEq, Repr

/-- The wording of a fault in persisting. -/
def PersistFault.message : PersistFault → String
  | write fault => fault.message
  | malformed => "not a record of results"

/-- What ended a run. -/
inductive RunError where
  | definition (error : DefinitionError)
  | conflict (cause : Conflict)
  | emptyDateRange (first last : Date)
  | unknownComponent (kind : ComponentKind) (name : String)
  | unregisteredColumn (error : UnregisteredColumn)
  | extension (failure : LoadFailure)
  | bundle (error : BundleError)
  | benchmark (error : BenchmarkError)
  | simulation (fault : SimulationFault)
  | runFile (path : String) (fault : RunFileFault)
  | missingKey (key : String)
  | invalidKey (key : String) (fault : ValueFault)
  | persist (path : String) (fault : PersistFault)
  | io (fault : IoFault)
  deriving DecidableEq, Repr

namespace RunError

/-- The wording of a run error. -/
def message : RunError → String
  | definition error => error.message
  | conflict cause => cause.message
  | emptyDateRange first last =>
    "there are no trading days between " ++ first.text ++ " and " ++ last.text
  | unknownComponent kind name => "no " ++ kind.text ++ " registered as " ++ Text.quote name
  | unregisteredColumn error => error.message
  | extension failure => failure.message
  | bundle error => error.message
  | benchmark error => error.message
  | simulation fault => "simulation failed: " ++ fault.message
  | runFile path fault =>
    "config parse error in " ++ path ++ ": couldn't read " ++ path ++ ": " ++ fault.message
  | missingKey key => "missing config key [run] " ++ key
  | invalidKey key fault => "invalid config value [run] " ++ key ++ fault.message
  | persist path fault => "failed to persist results to " ++ path ++ ": " ++ fault.message
  | io fault => fault.message

/-- The exit code of a program that ends with the error. -/
def exitCode : RunError → Nat
  | io _ => 1
  | persist .. => 1
  | runFile .. => 2
  | missingKey _ => 2
  | invalidKey .. => 2
  | conflict _ => 2
  | emptyDateRange .. => 2
  | definition _ => 3
  | extension _ => 4
  | unknownComponent .. => 4
  | bundle _ => 5
  | benchmark _ => 5
  | unregisteredColumn _ => 6
  | simulation _ => 6

/-- The run error that a failed load of extensions is. -/
def ofLoad : LoadError → RunError
  | .io fault => io fault
  | .extension failure => extension failure

end RunError

end Backtest.Run
