import Backtest.Component.Registration
import Backtest.Files.Workspace

/-!
# Extensions

Scripts and modules that register components. A script runs afresh every time it is loaded; a module is
initialized successfully once. What an extension did before it failed stays done, but it counts as
loaded only after it has succeeded.
-/

namespace Backtest.Component

open Backtest.Files (Environment IoFault Workspace)
open Backtest.Language (Bindings ScriptError runScript)

/-- Why an extension did not load. -/
inductive ExtensionFault where
  | unreadable (path : String) (fault : IoFault)
  | script (error : ScriptError)
  | moduleNotFound (name : String)
  | moduleFailed (name reason : String)
  | registry (error : RegistryError)
  deriving DecidableEq, Repr

/-- The wording of a fault. -/
def ExtensionFault.message : ExtensionFault → String
  | unreadable path fault => "failed to read " ++ path ++ ": " ++ fault.message
  | script error => error.message
  | moduleNotFound name => "no module named " ++ Text.quote name
  | moduleFailed name reason =>
    "module " ++ Text.quote name ++ " failed to initialize: " ++ reason
  | registry error => error.message

/-- What a module does to the registries when it is initialized, given how often it has been run. -/
abbrev Initializer := Nat → Components → Except ExtensionFault Unit × Components

/-- A module with the number of times that its initializer has been run. -/
structure Module where
  initializer : Initializer
  runs : Nat

/-- The modules that can be imported by name, and the names of those that have been. -/
structure ModuleCatalog where
  modules : SortedMap String Module
  imported : SortedMap String Unit

namespace ModuleCatalog

/-- A catalog without modules. -/
def empty : ModuleCatalog :=
  ⟨.empty, .empty⟩

/-- The catalog with a module under a name, in place of any other of that name. -/
def add (c : ModuleCatalog) (name : String) (initializer : Initializer) : ModuleCatalog :=
  { c with modules := c.modules.insert name ⟨initializer, 0⟩ }

/-- Runs the initializer of a module, unless it has succeeded before. -/
def importModule (c : ModuleCatalog) (name : String) (components : Components) :
    Except ExtensionFault Unit × ModuleCatalog × Components :=
  if c.imported.contains name then (.ok (), c, components)
  else
    match c.modules.get? name with
    | none => (.error (.moduleNotFound name), c, components)
    | some m =>
      let run := { c with modules := c.modules.insert name { m with runs := m.runs + 1 } }
      match m.initializer m.runs components with
      | (.ok (), next) => (.ok (), { run with imported := c.imported.insert name () }, next)
      | (.error fault, next) => (.error fault, run, next)

end ModuleCatalog

/-- Whether an extension is a script, going by the end of its name; else it names a module. -/
def isScript (extension : String) : Bool :=
  extension.endsWith ".algo"

/-- Everything that loading extensions changes: the extensions that count as loaded, the registries, and
the modules. -/
structure ExtensionHost where
  loaded : SortedMap String Unit
  components : Components
  catalog : ModuleCatalog

/-- What extensions see: environment variables and the texts of files. -/
structure Surroundings where
  environment : Environment
  read : String → Except IoFault String

/-- What became of the extensions of a queue, each list in the order of the queue. -/
structure LoadReport where
  loaded : List String
  skipped : List String
  failed : List (String × ExtensionFault)

/-- The extension that stopped a strict load. -/
structure LoadFailure where
  extension : String
  fault : ExtensionFault
  deriving DecidableEq, Repr

/-- The wording of a load failure. -/
def LoadFailure.message (f : LoadFailure) : String :=
  "failed to load extension " ++ Text.quote f.extension ++ ": " ++ f.fault.message

/-- How a queue is loaded. A strict load stops at the first failure; a reload does not skip what is
loaded already. -/
structure LoadMode where
  strict : Bool
  reload : Bool
  deriving DecidableEq, Repr

namespace LoadReport

/-- The report of an empty queue. -/
def empty : LoadReport :=
  ⟨[], [], []⟩

/-- The report with a loaded extension in front. -/
def consLoaded (extension : String) (r : LoadReport) : LoadReport :=
  { r with loaded := extension :: r.loaded }

/-- The report with a skipped extension in front. -/
def consSkipped (extension : String) (r : LoadReport) : LoadReport :=
  { r with skipped := extension :: r.skipped }

/-- The report with a failed extension in front. -/
def consFailed (extension : String) (fault : ExtensionFault) (r : LoadReport) : LoadReport :=
  { r with failed := (extension, fault) :: r.failed }

end LoadReport

namespace ExtensionHost

/-- A host that has loaded nothing. -/
def new (components : Components) : ExtensionHost :=
  ⟨.empty, components, .empty⟩

/-- The host with a module added to its catalog. -/
def addModule (h : ExtensionHost) (name : String) (initializer : Initializer) : ExtensionHost :=
  { h with catalog := h.catalog.add name initializer }

/-- Whether an extension counts as loaded. -/
def isLoaded (h : ExtensionHost) (extension : String) : Bool :=
  h.loaded.contains extension

/-- The host with an extension counted as loaded. -/
def markLoaded (h : ExtensionHost) (extension : String) : ExtensionHost :=
  { h with loaded := h.loaded.insert extension () }

/-- Runs a script on the registries. -/
def runExtensionScript (h : ExtensionHost) (environment : Environment) (text : String) :
    Except ExtensionFault Unit × ExtensionHost :=
  match runScript (registrationHost environment) text ⟨.empty, h.components⟩ with
  | (.ok (), s) => (.ok (), { h with components := s.host })
  | (.error e, s) => (.error (.script e), { h with components := s.host })

/-- Imports a module into the registries. -/
def runImport (h : ExtensionHost) (name : String) : Except ExtensionFault Unit × ExtensionHost :=
  match h.catalog.importModule name h.components with
  | (result, catalog, components) =>
    (result, { h with catalog := catalog, components := components })

/-- Runs one extension, whether it is loaded or not. -/
def loadOne (s : Surroundings) (h : ExtensionHost) (extension : String) :
    Except ExtensionFault Unit × ExtensionHost :=
  if isScript extension then
    match s.read extension with
    | .error fault => (.error (.unreadable extension fault), h)
    | .ok text => h.runExtensionScript s.environment text
  else h.runImport extension

/-- Loads the extensions of a queue in order. -/
def loadQueue (s : Surroundings) (mode : LoadMode) :
    List String → ExtensionHost → Except LoadFailure LoadReport × ExtensionHost
  | [], h => (.ok .empty, h)
  | extension :: rest, h =>
    if !mode.reload && h.isLoaded extension then
      let (result, last) := loadQueue s mode rest h
      (result.map (LoadReport.consSkipped extension), last)
    else
      match h.loadOne s extension with
      | (.ok (), next) =>
        let (result, last) := loadQueue s mode rest (next.markLoaded extension)
        (result.map (LoadReport.consLoaded extension), last)
      | (.error fault, next) =>
        if mode.strict then (.error ⟨extension, fault⟩, next)
        else
          let (result, last) := loadQueue s mode rest next
          (result.map (LoadReport.consFailed extension fault), last)

end ExtensionHost

/-- Which extensions are loaded, and how. -/
structure LoadOptions where
  /-- Whether the default extension comes first. -/
  loadDefault : Bool
  extensions : List String
  mode : LoadMode
  deriving DecidableEq, Repr

/-- Why a load did not come to a report. -/
inductive LoadError where
  /-- The file of the default extension cannot be made. -/
  | io (fault : IoFault)
  | extension (failure : LoadFailure)
  deriving DecidableEq, Repr

/-- The surroundings that a workspace makes. -/
def Surroundings.of (environment : Environment) (w : Workspace) : Surroundings :=
  ⟨environment, w.readText⟩

/-- Loads a queue of extensions from a workspace. -/
def ExtensionHost.loadFrom (h : ExtensionHost) (environment : Environment) (mode : LoadMode)
    (queue : List String) (w : Workspace) : Except LoadError LoadReport × ExtensionHost :=
  match h.loadQueue (.of environment w) mode queue with
  | (.ok report, last) => (.ok report, last)
  | (.error failure, last) => (.error (.extension failure), last)

/-- Loads extensions, the default one first if it is wanted, whose file is made if it is missing. -/
def ExtensionHost.load (h : ExtensionHost) (environment : Environment) (o : LoadOptions)
    (w : Workspace) : Except LoadError LoadReport × ExtensionHost × Workspace :=
  if o.loadDefault then
    let default := environment.defaultExtension
    match w.ensureFile default with
    | (.error fault, made) => (.error (.io fault), h, made)
    | (.ok (), made) =>
      let (result, last) := h.loadFrom environment o.mode (default :: o.extensions) made
      (result, last, made)
  else
    let (result, last) := h.loadFrom environment o.mode o.extensions w
    (result, last, w)

end Backtest.Component
