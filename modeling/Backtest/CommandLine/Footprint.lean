import Backtest.CommandLine.RunFile

/-!
# Footprints

The paths that a command looks at or writes to. Everything else in the file system may be left out of the
workspace that the command works on.
-/

namespace Backtest.CommandLine

open Backtest.Component (LoadOptions isScript)
open Backtest.Files (Environment joinPath)
open Backtest.Format (Ini)
open Backtest.Run

/-- Paths that matter to a command, by what matters of them. -/
structure Footprint where
  /-- Files that are read. -/
  files : List String := []
  /-- Directories that are read with everything in them. -/
  trees : List String := []
  /-- Files that are written. -/
  targets : List String := []

/-- The scripts among the extensions to load. -/
def extensionScripts (o : LoadOptions) (e : Environment) : List String :=
  (if o.loadDefault then [e.defaultExtension] else []) ++ o.extensions.filter isScript

/-- What a command needs before its request is made. -/
def Invocation.footprint (i : Invocation) (file : Ini) (e : Environment) : Footprint where
  files :=
    extensionScripts (i.loading.options file) e ++
      match i with
      | .run a => (a.strategyPath? file).toList
      | .validate a => (a.strategyPath? file).toList
      | .listComponents _ => []

/-- What the run of a request needs beside that. -/
def requestFootprint (r : Request Empty) : Footprint where
  files := [r.environment.benchmarkFile]
  trees := [joinPath r.environment.dataRoot r.bundle]
  targets :=
    match r.output with
    | .persist path => [path]
    | .print => []
    | .discard => []

end Backtest.CommandLine
