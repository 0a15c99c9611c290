import Backtest.CommandLine.Command
import Backtest.CommandLine.Footprint
import Std.Time.DateTime.Timestamp

/-!
# The program

Commands work on a workspace. The program reads what a command may look at into a workspace, performs the
command, writes what has changed, and prints the report.
-/

namespace Backtest.Main

open Backtest.Calendar (Date Moment)
open Backtest.CommandLine
open Backtest.Files

/-- The variables of the process. -/
def readEnvironment : IO Environment := do
  let bytes ← IO.FS.readBinFile "/proc/self/environ"
  let text := (String.fromUTF8? bytes).getD ""
  let entries := (Text.pieces '\x00' text.toList).map fun cs =>
    let name := cs.takeWhile (· != '=')
    (String.ofList name, String.ofList (cs.drop (name.length + 1)))
  return .ofList (entries.filter fun v => !v.1.isEmpty)

/-- The present. -/
def readClock : IO Moment := do
  let seconds := (← Std.Time.Timestamp.now).toSecondsSinceUnixEpoch.val
  let day := (Date.ofParts 1970 1 1).addDays (seconds / 86400)
  return ⟨day, (seconds % 86400).toNat, 0⟩

/-- The names in a directory, if a path leads to one. -/
def readNames? (path : String) : IO (Option (List String)) := do
  try
    let place ← IO.FS.realPath path
    return some ((← place.readDir).toList.map fun entry => entry.fileName)
  catch _ => return none

/-- Reads what is at a path to its place in a workspace, directories down to a depth. What is in every
workspace, as the devices are, is not read. -/
def readEntry (depth : Nat) (path : String) (place : List String) (w : Workspace) :
    IO Workspace := do
  match ← readNames? path with
  | some names =>
    let w := w.put place .directory
    match depth with
    | 0 => return w
    | depth + 1 =>
      names.foldlM
        (fun w name => readEntry depth (joinPath path name) (Workspace.step place name) w) w
  | none =>
    if (Workspace.empty.get? place).isSome then return w
    else
      try return w.put place (.file (← IO.FS.readBinFile path))
      catch _ => return w

/-- The place that some steps lead to. -/
def placeOfSteps (steps : List String) : List String :=
  steps.foldl Workspace.step []

/-- Reads the directories on the way along some steps. -/
def readWay (steps : List String) (w : Workspace) : IO Workspace :=
  let ways := ((List.range steps.length).drop 1).map steps.take
  ways.foldlM (fun w way => readEntry 0 (pathOfSteps way) (placeOfSteps way) w) w

/-- Reads what is at a path, and the directories on the way to it. -/
def readPath (depth : Nat) (w : Workspace) (path : String) : IO Workspace := do
  match Route.ofPath? path with
  | none => return w
  | some route => readEntry depth path (placeOfSteps route.steps) (← readWay route.steps w)

/-- Reads the directories on the way to a path, and the path itself if it is one. -/
def readTarget (w : Workspace) (path : String) : IO Workspace := do
  match Route.ofPath? path with
  | none => return w
  | some route =>
    let w ← readWay route.steps w
    if (← readNames? path).isSome then return w.put (placeOfSteps route.steps) .directory
    else return w

/-- Reads what a footprint covers. Bundles are four directories deep at most. -/
def readFootprint (f : Footprint) (w : Workspace) : IO Workspace := do
  let w ← f.files.foldlM (readPath 0) w
  let w ← f.trees.foldlM (readPath 4) w
  f.targets.foldlM readTarget w

/-- Reads everything that a command may look at. -/
def readWorkspace (i : Invocation) (e : Environment) : IO Workspace := do
  let w ← i.loading.runFile.toList.foldlM (readPath 0) .empty
  match loadRunFile w i.loading.runFile with
  | .error _ => return w
  | .ok file =>
    let w ← readFootprint (i.footprint file e) w
    match i with
    | .run a =>
      match a.request file e w with
      | .ok request => readFootprint (requestFootprint request) w
      | .error _ => return w
    | _ => return w

/-- Writes the entries of a workspace that were not in an earlier one. -/
def writeChanges (before after : Workspace) : IO Unit :=
  after.entries.entries.forM fun (place, entry) => do
    match entry, before.get? place with
    | .directory, some .directory => return
    | .directory, _ => IO.FS.createDirAll (pathOfSteps place)
    | .file content, some (.file known) =>
      if content != known then IO.FS.writeBinFile (pathOfSteps place) content
    | .file content, _ => IO.FS.writeBinFile (pathOfSteps place) content
    | _, _ => return

end Backtest.Main

open Backtest.CommandLine Backtest.Main in
/-- Performs the command that the arguments ask for. Arguments that are not in order end with code 2. -/
def main (arguments : List String) : IO UInt32 := do
  match Invocation.ofArguments? arguments with
  | none =>
    IO.eprintln "usage: algorun <run|validate|list-components> [options]"
    return 2
  | some invocation =>
    let environment ← readEnvironment
    let workspace ← readWorkspace invocation environment
    let report := invocation.perform environment (← readClock) workspace
    writeChanges workspace report.workspace
    IO.print report.outputText
    IO.eprint report.noticeText
    return report.exitCode.toUInt32
