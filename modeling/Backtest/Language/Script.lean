import Backtest.Language.Eval
import Backtest.Text.Pieces

/-!
# Scripts

A script is a statement a line. All lines are read before the first one runs; a failing line leaves
everything done by the lines before it.
-/

namespace Backtest.Language

/-- Whether a line without its surrounding blanks holds no statement. -/
def isIdle : List Char → Bool
  | [] => true
  | c :: _ => c == '#'

/-- A statement with its line number. -/
structure ScriptLine where
  line : Nat
  statement : Statement

/-- The statements of lines that are numbered from `first` on; the first line that is no statement fails
the whole script. -/
def readLines (first : Nat) : List (List Char) → Except ScriptError (List ScriptLine)
  | [] => .ok []
  | line :: rest =>
    let body := Text.trimBlanks line
    if isIdle body then readLines (first + 1) rest
    else
      match readStatement body with
      | .error failure => .error ⟨first, .parse (failure.toError body)⟩
      | .ok statement => (readLines (first + 1) rest).map (⟨first, statement⟩ :: ·)

/-- The statements of a script with their line numbers, counted from one. -/
def parseScript (text : String) : Except ScriptError (List ScriptLine) :=
  readLines 1 (Text.pieces '\n' text.toList)

/-- What a script works on: the names it sees and the state of its host. -/
structure ScriptState (σ : Type) where
  bindings : Bindings
  host : σ

/-- Runs one statement. -/
def Statement.run {σ : Type} (host : Host σ) (statement : Statement) (state : ScriptState σ) :
    Except EvalError Unit × ScriptState σ :=
  match statement with
  | .assign name e =>
    match evaluate host state.bindings e state.host with
    | (.ok v, s) => (.ok (), ⟨state.bindings.insert name v, s⟩)
    | (.error failure, s) => (.error failure, ⟨state.bindings, s⟩)
  | .expr e =>
    match evaluate host state.bindings e state.host with
    | (.ok _, s) => (.ok (), ⟨state.bindings, s⟩)
    | (.error failure, s) => (.error failure, ⟨state.bindings, s⟩)

/-- Runs statements in order up to the first that fails. -/
def runLines {σ : Type} (host : Host σ) :
    List ScriptLine → ScriptState σ → Except ScriptError Unit × ScriptState σ
  | [], state => (.ok (), state)
  | l :: rest, state =>
    match l.statement.run host state with
    | (.ok (), next) => runLines host rest next
    | (.error failure, next) => (.error ⟨l.line, failure⟩, next)

/-- Reads a script and runs it. -/
def runScript {σ : Type} (host : Host σ) (text : String) (state : ScriptState σ) :
    Except ScriptError Unit × ScriptState σ :=
  match parseScript text with
  | .error failure => (.error failure, state)
  | .ok lines => runLines host lines state

end Backtest.Language
