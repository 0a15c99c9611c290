import Backtest.Calendar.DateText
import Backtest.Calendar.Moment
import Backtest.CommandLine.Options
import Backtest.Number.Reading
import Backtest.Run.Setting

/-!
# Invocations

What the arguments of the program ask for: a command with its options.
-/

namespace Backtest.CommandLine

open Backtest.Calendar (Date Moment)
open Backtest.Run (DataFrequency)

/-- The arguments that all commands take. -/
structure ExtensionArguments where
  extensions : List String := []
  skipDefault : Bool := false
  lenient : Bool := false
  /-- The path of a run file. -/
  runFile : Option String := none

/-- The arguments of the commands that run or check a strategy. -/
structure RunArguments where
  loading : ExtensionArguments := {}
  algofile : Option String := none
  algotext : Option String := none
  defines : List String := []
  first : Option Date := none
  last : Option Date := none
  capitalBase : Option Float := none
  frequency : Option DataFrequency := none
  bundle : Option String := none
  timestamp : Option Moment := none
  calendar : Option String := none
  metrics : Option String := none
  blotter : Option String := none
  output : Option String := none
  printSource : Bool := false

/-- A path, which is not empty. -/
def readPath? (text : String) : Option String :=
  if text.isEmpty then none else some text

/-- The options that all commands have. -/
def ExtensionArguments.rules : List (OptionRule ExtensionArguments) :=
  [ ⟨"extension", some 'x',
      .repeated fun v a => { a with extensions := a.extensions ++ [v] }⟩,
    ⟨"no-default-extension", none,
      .switch (·.skipDefault) fun a => { a with skipDefault := true }⟩,
    ⟨"non-strict", none, .switch (·.lenient) fun a => { a with lenient := true }⟩,
    ⟨"config", some 'c',
      .single readPath? (·.runFile) fun v a => { a with runFile := some v }⟩ ]

/-- The options of the commands that run or check a strategy. -/
def RunArguments.rules : List (OptionRule RunArguments) :=
  let shared := ExtensionArguments.rules.map fun rule =>
    ⟨rule.name, rule.letter, rule.effect.within (·.loading) fun v a => { a with loading := v }⟩
  shared ++
  [ ⟨"algofile", some 'f',
      .single readPath? (·.algofile) fun v a => { a with algofile := some v }⟩,
    ⟨"algotext", some 't', .single some (·.algotext) fun v a => { a with algotext := some v }⟩,
    ⟨"define", some 'D', .repeated fun v a => { a with defines := a.defines ++ [v] }⟩,
    ⟨"start", some 's',
      .single (fun text => Date.ofLenientChars? text.toList) (·.first)
        fun v a => { a with first := some v }⟩,
    ⟨"end", some 'e',
      .single (fun text => Date.ofLenientChars? text.toList) (·.last)
        fun v a => { a with last := some v }⟩,
    ⟨"capital-base", none,
      .single (fun text => Number.readFloat? text.toList) (·.capitalBase)
        fun v a => { a with capitalBase := some v }⟩,
    ⟨"data-frequency", none,
      .single (fun text => (DataFrequency.ofName text).toOption) (·.frequency)
        fun v a => { a with frequency := some v }⟩,
    ⟨"bundle", some 'b', .single some (·.bundle) fun v a => { a with bundle := some v }⟩,
    ⟨"bundle-timestamp", none,
      .single Moment.ofText? (·.timestamp) fun v a => { a with timestamp := some v }⟩,
    ⟨"calendar", none, .single some (·.calendar) fun v a => { a with calendar := some v }⟩,
    ⟨"metrics-set", none, .single some (·.metrics) fun v a => { a with metrics := some v }⟩,
    ⟨"blotter", none, .single some (·.blotter) fun v a => { a with blotter := some v }⟩,
    ⟨"output", some 'o', .single some (·.output) fun v a => { a with output := some v }⟩,
    ⟨"print-algo", none, .switch (·.printSource) fun a => { a with printSource := true }⟩ ]

/-- A command with its arguments. -/
inductive Invocation where
  | run (a : RunArguments)
  | validate (a : RunArguments)
  | listComponents (a : ExtensionArguments)

namespace Invocation

/-- The name of the command. -/
def command : Invocation → String
  | run _ => "run"
  | validate _ => "validate"
  | listComponents _ => "list-components"

/-- What the arguments of the program ask for, if they are in order. -/
def ofArguments? : List String → Option Invocation
  | "run" :: rest => (readOptions RunArguments.rules rest {}).map .run
  | "validate" :: rest => (readOptions RunArguments.rules rest {}).map .validate
  | "list-components" :: rest =>
    (readOptions ExtensionArguments.rules rest {}).map .listComponents
  | _ => none

/-- The arguments that are about extensions and the run file. -/
def loading : Invocation → ExtensionArguments
  | run a => a.loading
  | validate a => a.loading
  | listComponents a => a

end Invocation

end Backtest.CommandLine
