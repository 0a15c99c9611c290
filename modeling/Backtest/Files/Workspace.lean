import Backtest.Files.Fault
import Backtest.Files.Path
import Backtest.SortedMap

/-!
# Workspaces

The files and directories that a program reads and writes, as a value. A path is followed step by step:
each step but the last has to lead into a directory. Two devices exist in every workspace, one that
swallows what is written and one that is always full.
-/

namespace Backtest.Files

/-- What a name in a workspace stands for. -/
inductive Entry where
  | file (content : ByteArray)
  | directory
  /-- The device that swallows everything. -/
  | sink
  /-- The device that has no space. -/
  | full

/-- Files and directories by the steps that lead to them. -/
structure Workspace where
  entries : SortedMap (List String) Entry

/-- Where a path leads, in a directory that exists, and what stands there, if anything does. -/
structure Target where
  place : List String
  entry : Option Entry

namespace Workspace

/-- A workspace without files. -/
def empty : Workspace :=
  ⟨.empty⟩

/-- Whether a directory is in every workspace: the working directory, those above it, the root directory,
and that of the devices. -/
def isGiven (steps : List String) : Bool :=
  steps.all (· == "..") || steps == ["/"] || steps == ["/", "dev"]

/-- What stands at a place. -/
def get? (w : Workspace) (steps : List String) : Option Entry :=
  if isGiven steps then some .directory
  else if steps = ["/", "dev", "null"] then some .sink
  else if steps = ["/", "dev", "full"] then some .full
  else w.entries.get? steps

/-- The workspace with an entry put at a place. -/
def put (w : Workspace) (steps : List String) (e : Entry) : Workspace :=
  ⟨w.entries.insert steps e⟩

/-- The workspace with nothing at a place. -/
def drop (w : Workspace) (steps : List String) : Workspace :=
  ⟨w.entries.erase steps⟩

/-- The place that one step leads to. -/
def step (place : List String) (name : String) : List String :=
  if name = "." then place
  else if name = ".." then
    match place.getLast? with
    | none => [".."]
    | some ".." => place ++ [".."]
    | some "/" => place
    | some _ => place.dropLast
  else place ++ [name]

/-- What a name stands for in a directory. Names have at most 255 bytes. -/
def lookUp (w : Workspace) (place : List String) (name : String) : Except IoFault (Option Entry) :=
  if 255 < name.utf8ByteSize then .error .nameTooLong else .ok (w.get? (step place name))

/-- The directory that steps lead to from another directory. -/
def enter (w : Workspace) (place : List String) : List String → Except IoFault (List String)
  | [] => .ok place
  | name :: rest =>
    match w.lookUp place name with
    | .error fault => .error fault
    | .ok none => .error .notFound
    | .ok (some .directory) => enter w (step place name) rest
    | .ok (some _) => .error .notDirectory

/-- Where steps lead. -/
def find (w : Workspace) (steps : List String) : Except IoFault Target :=
  match steps.getLast? with
  | none => .ok ⟨[], some .directory⟩
  | some name => do
    let place ← w.enter [] steps.dropLast
    let entry ← w.lookUp place name
    return ⟨step place name, entry⟩

/-- Where a path leads. -/
def target (w : Workspace) (path : String) : Except IoFault Target := do
  checkPath path
  match Route.ofPath? path with
  | none => throw .notFound
  | some route =>
    let found ← w.find route.steps
    match found.entry with
    | none => return found
    | some .directory => return found
    | some _ => if route.directory then throw .notDirectory else return found

/-- Whether something is at a path. -/
def pathExists (w : Workspace) (path : String) : Bool :=
  match w.target path with
  | .ok found => found.entry.isSome
  | .error _ => false

/-- Whether a directory is at a path. -/
def isDirectory (w : Workspace) (path : String) : Bool :=
  match w.target path with
  | .ok ⟨_, some .directory⟩ => true
  | _ => false

/-- The content of a file. -/
def readBytes (w : Workspace) (path : String) : Except IoFault ByteArray := do
  match (← w.target path).entry with
  | some (.file content) => return content
  | some .directory => throw .isDirectory
  | some .sink => return .empty
  | some .full => return .empty
  | none => throw .notFound

/-- The content of a text file. -/
def readText (w : Workspace) (path : String) : Except IoFault String := do
  let content ← w.readBytes path
  match String.fromUTF8? content with
  | some text => return text
  | none => throw .notText

/-- The names in a directory, in increasing order. -/
def names (w : Workspace) (path : String) : Except IoFault (List String) := do
  match ← w.target path with
  | ⟨place, some .directory⟩ =>
    return w.entries.keys.filterMap fun key =>
      if key ≠ [] ∧ key.dropLast = place then key.getLast? else none
  | ⟨_, none⟩ => throw .notFound
  | _ => throw .notDirectory

/-- Refuses a path that a slash in the end makes that of a directory. -/
def checkFilePath (w : Workspace) (path : String) : Except IoFault Unit :=
  match Route.ofPath? path with
  | some ⟨steps, true⟩ => (w.enter [] steps.dropLast).bind fun _ => .error .isDirectory
  | _ => .ok ()

/-- The place where a file can be written at a path, with its present content, or none for a device that
takes everything. -/
def writable (w : Workspace) (path : String) :
    Except IoFault (Option (List String × ByteArray)) := do
  checkPath path
  w.checkFilePath path
  match ← w.target path with
  | ⟨place, some (.file content)⟩ => return some (place, content)
  | ⟨place, none⟩ => return some (place, .empty)
  | ⟨_, some .directory⟩ => throw .isDirectory
  | ⟨_, some .sink⟩ => return none
  | ⟨_, some .full⟩ => throw .noSpace

/-- The workspace with a file's text replaced, the file made if it is missing. -/
def writeText (w : Workspace) (path text : String) : Except IoFault Workspace := do
  match ← w.writable path with
  | some (steps, _) => return w.put steps (.file text.toUTF8)
  | none => return w

/-- The workspace with an empty directory made at the end of some steps. -/
def makeDirectory (w : Workspace) (steps : List String) : Except IoFault Workspace := do
  checkPath (pathOfSteps steps)
  match ← w.find steps with
  | ⟨place, none⟩ => return w.put place .directory
  | _ => throw .alreadyExists

/-- Whether steps lead to a directory. -/
def leadsToDirectory (w : Workspace) (steps : List String) : Bool :=
  match w.find steps with
  | .ok ⟨_, some .directory⟩ => true
  | _ => false

/-- Makes the directory at the end of some steps, given in reverse, and those above it that are
missing. What has been made stays if a later one cannot be made. -/
def makeDirectories (w : Workspace) : List String → Except IoFault Unit × Workspace
  | [] => (.ok (), w)
  | name :: parents =>
    let finish (w : Workspace) : Except IoFault Unit × Workspace :=
      match w.makeDirectory (name :: parents).reverse with
      | .ok made => (.ok (), made)
      | .error fault =>
        if w.leadsToDirectory (name :: parents).reverse then (.ok (), w) else (.error fault, w)
    match w.makeDirectory (name :: parents).reverse with
    | .error .notFound =>
      match makeDirectories w parents with
      | (.ok (), made) => finish made
      | (.error fault, made) => (.error fault, made)
    | _ => finish w

/-- Makes an empty file at a path, with the directories above it, unless the file is there. -/
def ensureFile (w : Workspace) (path : String) : Except IoFault Unit × Workspace :=
  match Route.ofPath? path with
  | none => (.error .notFound, w)
  | some route =>
    match w.makeDirectories route.steps.dropLast.reverse with
    | (.error fault, made) => (.error fault, made)
    | (.ok (), made) =>
      match made.writable path with
      | .ok (some (steps, content)) => (.ok (), made.put steps (.file content))
      | .ok none => (.ok (), made)
      | .error fault => (.error fault, made)

end Workspace

end Backtest.Files
