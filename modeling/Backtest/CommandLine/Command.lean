import Backtest.CommandLine.Report
import Backtest.CommandLine.RunFile

/-!
# Commands

The three commands of the program: running a strategy, checking that it could be run, and listing the
components that it could be run with. Running reads the request before it loads extensions; checking loads
extensions first.
-/

namespace Backtest.CommandLine

open Backtest.Calendar (Moment)
open Backtest.Component (Components ExtensionHost LoadReport)
open Backtest.Files (Environment Workspace)
open Backtest.Format (Ini)
open Backtest.Language (buildBindings parseScript)
open Backtest.Run

/-- Loads the extensions that a command asks for on a host that has loaded nothing. -/
def ExtensionArguments.load (a : ExtensionArguments) (file : Ini) (e : Environment) (w : Workspace) :
    Except RunError LoadReport × ExtensionHost × Workspace :=
  match (ExtensionHost.new .standard).load e (a.options file) w with
  | (result, host, made) => (result.mapError .ofLoad, host, made)

/-- The notices of the extensions that did not load. -/
def loadNotices (r : LoadReport) : List Notice :=
  r.failed.map fun (extension, fault) => .notLoaded extension fault

namespace RunArguments

/-- Runs a strategy. -/
def run (a : RunArguments) (e : Environment) (now : Moment) (w : Workspace) : Outcome Empty :=
  match loadRunFile w a.loading.runFile with
  | .error fault => .failed fault w
  | .ok file =>
    match a.request file e w with
    | .error fault => .failed fault w
    | .ok request =>
      match a.loading.load file e w with
      | (.error fault, _, made) => .failed fault made
      | (.ok _, host, made) => request.execute (.ofFiles made now) host.components made

end RunArguments

/-- Checks the source and the definitions of a request, with notices of what they hold. -/
def checkStrategy (r : Request Empty) : Except RunError (List Notice) :=
  match r.strategy with
  | .callbacks _ state => nomatch state
  | .script filename text =>
    match buildBindings .empty r.defines with
    | .error e => .error (.definition e)
    | .ok bindings =>
      match parseScript text with
      | .error e => .error (.simulation (.script filename e))
      | .ok lines =>
        .ok (.strategy filename lines.length ::
          bindings.entries.map fun (name, value) => .binding name value)

/-- Checks the components and dates of a request, with notices of what they are. -/
def checkConfiguration (r : Request Empty) (components : Components) :
    Except RunError (List Notice) :=
  match resolve components r.metrics r.blotter r.calendar r.first r.last with
  | .error e => .error e
  | .ok resolved =>
    let sessions := resolved.calendar.sessionsInRange r.first r.last
    .ok
      [ .sessions resolved.calendar.name sessions.length r.first r.last,
        .metrics (resolved.metrics.map (·.name)), .output r.output, .valid ]

/-- Checks a request; the notices up to an error stay. -/
def checkRequest (r : Request Empty) (components : Components) : Except RunError Unit × List Notice :=
  match checkStrategy r with
  | .error e => (.error e, [])
  | .ok notices =>
    match checkConfiguration r components with
    | .error e => (.error e, notices)
    | .ok more => (.ok (), notices ++ more)

/-- Checks that a strategy could be run, without opening market data. -/
def RunArguments.validate (a : RunArguments) (e : Environment) (w : Workspace) : Report :=
  match loadRunFile w a.loading.runFile with
  | .error fault => .failed fault w
  | .ok file =>
    match a.loading.load file e w with
    | (.error fault, _, made) => .failed fault made
    | (.ok loaded, host, made) =>
      match a.request file e made with
      | .error fault => ⟨.error fault, [], loadNotices loaded, made⟩
      | .ok request =>
        let (result, notices) := checkRequest request host.components
        ⟨result, [], loadNotices loaded ++ notices, made⟩

/-- The names of the components of both kinds. -/
def componentListing (c : Components) : List String :=
  let entry (name : String) : String := "  " ++ name
  "metrics sets:" :: c.metricsSets.names.map entry ++
    "blotters:" :: c.blotters.names.map entry

/-- Lists the components that there are after the extensions have been loaded. -/
def ExtensionArguments.listComponents (a : ExtensionArguments) (e : Environment) (w : Workspace) :
    Report :=
  match loadRunFile w a.runFile with
  | .error fault => .failed fault w
  | .ok file =>
    match a.load file e w with
    | (.error fault, _, made) => .failed fault made
    | (.ok loaded, host, made) =>
      ⟨.ok (), componentListing host.components, loadNotices loaded, made⟩

/-- Performs what the arguments of the program ask for, at a point in time. -/
def Invocation.perform (i : Invocation) (e : Environment) (now : Moment) (w : Workspace) : Report :=
  match i with
  | .run a => .ofOutcome (a.run e now w)
  | .validate a => a.validate e w
  | .listComponents a => a.listComponents e w

end Backtest.CommandLine
