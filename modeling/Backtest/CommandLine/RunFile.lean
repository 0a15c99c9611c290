import Backtest.CommandLine.Invocation
import Backtest.Run.Request

/-!
# Run files

A run file gives what the arguments of a command leave open: the settings of a run in its section `run`,
and the extensions to load in its section `extensions`. An argument wins over the file; still, a number
or a frequency in the file has to be one.
-/

namespace Backtest.CommandLine

open Backtest.Calendar (Date Moment TradingCalendar)
open Backtest.Component (LoadOptions)
open Backtest.Files (Environment Workspace)
open Backtest.Format (Ini)
open Backtest.Run

/-- The run file at a path; without a path it says nothing. -/
def loadRunFile (w : Workspace) : Option String → Except RunError Ini
  | none => .ok .empty
  | some path =>
    match w.readText path with
    | .error fault => .error (.runFile path (.unreadable fault))
    | .ok text =>
      match Ini.ofText text with
      | .error fault => .error (.runFile path (.malformed fault))
      | .ok file => .ok file

/-- The text of a setting of a run. -/
def runText? (file : Ini) (key : String) : Option String :=
  file.text? "run" key

/-- A setting of a run, if the file has it, read in some way. -/
def runValue {α : Type} (file : Ini) (key : String) (read : String → Except ValueFault α) :
    Except RunError (Option α) :=
  match runText? file key with
  | none => .ok none
  | some text =>
    match read text with
    | .ok a => .ok (some a)
    | .error fault => .error (.invalidKey key fault)

/-- A date in a run file. -/
def readDate (text : String) : Except ValueFault Date :=
  match Date.ofChars? text.toList with
  | some d => .ok d
  | none => .error .date

/-- A number in a run file. -/
def readNumber (text : String) : Except ValueFault Float :=
  (Number.readFloat text.toList).mapError .number

/-- A data frequency in a run file. -/
def readFrequency (text : String) : Except ValueFault DataFrequency :=
  (DataFrequency.ofName text).mapError .frequency

/-- A point in time in a run file. -/
def readMoment (text : String) : Except ValueFault Moment :=
  match Moment.ofText? text with
  | some m => .ok m
  | none => .error .timestamp

/-- The extensions to load: those of the file, then those of the arguments. -/
def ExtensionArguments.options (a : ExtensionArguments) (file : Ini) : LoadOptions where
  loadDefault := !a.skipDefault && file.flag "extensions" "default" true
  extensions := file.items "extensions" "load" ++ a.extensions
  mode :=
    { strict := !a.lenient && file.flag "extensions" "strict" true
      reload := false }

namespace RunArguments

/-- The path of the strategy, if the arguments or the run file name one. -/
def strategyPath? (a : RunArguments) (file : Ini) : Option String :=
  a.algofile.or (runText? file "algofile")

/-- The strategy: a text in the arguments, or a file, but not both. -/
def strategy (a : RunArguments) (file : Ini) (w : Workspace) :
    Except RunError (StrategySource Empty) :=
  match a.algotext, a.strategyPath? file with
  | some text, none => .ok (.ofText text)
  | none, some path => StrategySource.ofFile w path
  | some _, some _ => .error (.conflict .twoSources)
  | none, none => .error (.conflict .noSource)

/-- A date that has to be given in the arguments or in the file. -/
def requiredDate (given : Option Date) (file : Ini) (key : String) : Except RunError Date :=
  match given with
  | some d => .ok d
  | none =>
    match runValue file key readDate with
    | .ok (some d) => .ok d
    | .ok none => .error (.missingKey key)
    | .error e => .error e

/-- The point in time that data must not be later than. -/
def dataTime (a : RunArguments) (file : Ini) : Except RunError (Option Moment) :=
  match a.timestamp with
  | some m => .ok (some m)
  | none => runValue file "bundle_timestamp" readMoment

/-- The calendar that is named in the arguments or in the file. -/
def chosenCalendar (a : RunArguments) (file : Ini) : Except RunError (Option TradingCalendar) :=
  match a.calendar.or (runText? file "calendar") with
  | none => .ok none
  | some name => (findCalendar name).map some

/-- The request that arguments and a run file make. Results are printed if neither says where they
go. -/
def request (a : RunArguments) (file : Ini) (e : Environment) (w : Workspace) :
    Except RunError (Request Empty) := do
  let strategy ← a.strategy file w
  let first ← requiredDate a.first file "start"
  let last ← requiredDate a.last file "end"
  let capitalBase ← runValue file "capital_base" readNumber
  let frequency ← runValue file "data_frequency" readFrequency
  let timestamp ← a.dataTime file
  let calendar ← a.chosenCalendar file
  let base : Request Empty := { strategy, first, last }
  return { base with
    defines := a.defines
    capitalBase := (a.capitalBase.or capitalBase).getD base.capitalBase
    frequency := (a.frequency.or frequency).getD base.frequency
    bundle := (a.bundle.or (runText? file "bundle")).getD base.bundle
    timestamp
    calendar
    metrics := ((a.metrics.or (runText? file "metrics_set")).map .named).getD base.metrics
    blotter := ((a.blotter.or (runText? file "blotter")).map .named).getD base.blotter
    output := .ofText ((a.output.or (runText? file "output")).getD "-")
    printSource := a.printSource || file.flag "run" "print_algo" false
    environment := e }

end RunArguments

end Backtest.CommandLine
