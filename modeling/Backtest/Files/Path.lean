import Backtest.Files.Fault
import Backtest.Text.Pieces

/-!
# Paths

A path is a text with slashes between its components. Joining keeps the text as it is; following a path
only looks at the components.
-/

namespace Backtest.Files

/-- A path made longer by a component. An absolute component takes the place of the whole path. -/
def joinPath (base component : String) : String :=
  if component.startsWith "/" || base.isEmpty then component
  else if base.endsWith "/" then base ++ component
  else base ++ "/" ++ component

/-- Refuses what cannot be a path at all, whatever files there are. -/
def checkPath (path : String) : Except IoFault Unit :=
  if path.isEmpty then .error .notFound
  else if path.toList.contains '\x00' then .error .nulInName
  else if 4095 < path.utf8ByteSize then .error .nameTooLong
  else .ok ()

/-- A path as the steps that it takes. -/
structure Route where
  /-- The names to follow, the first of them a slash if the path is absolute. A single point in the end
  stays, as what stands before it has to be a directory. -/
  steps : List String
  /-- Whether a slash in the end says that the path is that of a directory. -/
  directory : Bool
  deriving DecidableEq, Repr

/-- The route of a path; an empty path has none. -/
def Route.ofPath? (path : String) : Option Route :=
  if path.isEmpty then none
  else
    let pieces := (Text.pieces '/' path.toList).map String.ofList
    let names := pieces.filter fun n => n != ""
    let steps := names.dropLast.filter (fun n => n != ".") ++ names.getLast?.toList
    some
      { steps := if path.startsWith "/" then "/" :: steps else steps
        directory := path.endsWith "/" }

/-- A path that takes some steps. -/
def pathOfSteps (steps : List String) : String :=
  steps.foldl joinPath ""

/-- The name of a file without the part from its last point on, and that part without the point. A point
in front belongs to the name. -/
def splitExtension (name : String) : String × Option String :=
  let reversed := name.toList.reverse
  let extension := reversed.takeWhile (· != '.')
  match reversed.dropWhile (· != '.') with
  | [] => (name, none)
  | _ :: stem =>
    if stem.isEmpty then (name, none)
    else (String.ofList stem.reverse, some (String.ofList extension.reverse))

end Backtest.Files
