import Backtest.Run.Execution
import Backtest.Text.Layout

/-!
# Reports

What a command leaves behind: whether it succeeded, what it shows as its output, what it notes beside it,
and the files.
-/

namespace Backtest.CommandLine

open Backtest.Calendar (Date)
open Backtest.Component (ExtensionFault)
open Backtest.Files (Workspace)
open Backtest.Language (Value)
open Backtest.Results (Performance)
open Backtest.Run

/-- Something that a command tells beside its output. -/
inductive Notice where
  | notLoaded (extension : String) (fault : ExtensionFault)
  | strategy (filename : String) (statements : Nat)
  | binding (name : String) (value : Value)
  | sessions (calendar : String) (count : Nat) (first last : Date)
  | metrics (names : List String)
  | output (route : OutputRoute)
  | valid

/-- The wording of a notice. -/
def Notice.text : Notice → String
  | notLoaded extension fault =>
    "warning: extension " ++ extension ++ " not loaded: " ++ fault.message
  | strategy filename statements =>
    "Strategy " ++ filename ++ ": " ++ toString statements ++ " statements"
  | binding name value => "  " ++ name ++ " = " ++ value.text
  | sessions calendar count first last =>
    "Calendar " ++ calendar ++ ": " ++ toString count ++ " sessions from " ++ first.text ++
      " to " ++ last.text
  | metrics names => "Metrics: " ++ ", ".intercalate names
  | output route => "Output: " ++ route.text
  | valid => "\nRun configuration is valid."

/-- What a command leaves behind. -/
structure Report where
  result : Except RunError Unit
  /-- The texts that are shown, each on a line of its own. -/
  output : List String
  notices : List Notice
  workspace : Workspace

namespace Report

/-- The report of a command that failed before it did anything else. -/
def failed (e : RunError) (w : Workspace) : Report :=
  ⟨.error e, [], [], w⟩

/-- The exit code of the program. -/
def exitCode (r : Report) : Nat :=
  match r.result with
  | .ok () => 0
  | .error e => e.exitCode

/-- The wording of the error that ended the command. -/
def errorText (r : Report) : List String :=
  match r.result with
  | .ok () => []
  | .error e => ["error: " ++ e.message]

/-- Texts as lines. -/
def asLines (texts : List String) : String :=
  String.join (texts.map (· ++ "\n"))

/-- What the program writes to its standard output. -/
def outputText (r : Report) : String :=
  asLines r.output

/-- What the program writes to its standard error. -/
def noticeText (r : Report) : String :=
  asLines (r.notices.map Notice.text ++ r.errorText)

end Report

/-- The lines of a source with their numbers, under its name. -/
def listing (filename text : String) : List String :=
  let lines := (Text.lines text.toList).map String.ofList
  ("# " ++ filename) :: (lines.zipIdx 1).map fun (line, number) =>
    Text.padLeft 4 (toString number) ++ " | " ++ line

/-- What is shown of an event of a run. -/
def eventOutput (result : Except RunError Performance) : Event → List String
  | .source filename text => listing filename text
  | .output .print =>
    match result with
    | .ok performance => [performance.text]
    | .error _ => []
  | _ => []

/-- The report on a run. -/
def Report.ofOutcome {σ : Type} (o : Outcome σ) : Report where
  result := o.result.map fun _ => ()
  output := o.events.flatMap (eventOutput o.result)
  notices := []
  workspace := o.workspace

end Backtest.CommandLine
