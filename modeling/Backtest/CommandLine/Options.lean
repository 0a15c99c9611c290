/-!
# Options

How options stand among the arguments of a command. An option is written with two hyphens and its name,
or with one hyphen and its letter. If it takes a value, the value follows an equals sign, or the letter,
or is the next argument. A next argument that begins with a hyphen is a value only if it is the hyphen
alone. Whatever is not an option or its value is refused.
-/

namespace Backtest.CommandLine

/-- What an option does to the settings that it belongs to, unless it refuses. -/
inductive Effect (α : Type) where
  | flag (set : α → Option α)
  | value (set : String → α → Option α)

namespace Effect

variable {α β : Type}

/-- The effect of a flag that is given at most once. -/
def switch (isOn : α → Bool) (turnOn : α → α) : Effect α :=
  .flag fun a => if isOn a then none else some (turnOn a)

/-- The effect of an option that is given at most once, with a value to be read. -/
def single (read : String → Option β) (get : α → Option β) (set : β → α → α) : Effect α :=
  .value fun text a => if (get a).isSome then none else (read text).map fun b => set b a

/-- The effect of an option that can be given any number of times. -/
def repeated (add : String → α → α) : Effect α :=
  .value fun text a => some (add text a)

/-- The effect on settings that are part of others. -/
def within (get : β → α) (put : α → β → β) : Effect α → Effect β
  | .flag set => .flag fun b => (set (get b)).map fun a => put a b
  | .value set => .value fun text b => (set text (get b)).map fun a => put a b

end Effect

/-- An option with its name and, if it has one, its letter. -/
structure OptionRule (α : Type) where
  name : String
  letter : Option Char
  effect : Effect α

/-- An option as it is written, with the value in the same argument, if there is one. -/
inductive Written where
  | named (name : String) (value : Option String)
  | lettered (letter : Char) (value : Option String)
  deriving DecidableEq, Repr

namespace Written

/-- The value in the same argument. -/
def value : Written → Option String
  | named _ value => value
  | lettered _ value => value

/-- What follows the name of an option: nothing, or an equals sign and a value. -/
def valueAfterName? : List Char → Option String
  | [] => none
  | _ :: value => some (String.ofList value)

/-- What follows the letter of an option: nothing, or a value with or without an equals sign. -/
def valueAfterLetter? : List Char → Option String
  | [] => none
  | '=' :: value => some (String.ofList value)
  | value => some (String.ofList value)

/-- The option that an argument is. -/
def ofArgument? (argument : String) : Option Written :=
  match argument.toList with
  | '-' :: '-' :: rest =>
    let name := rest.takeWhile (· != '=')
    some (.named (String.ofList name) (valueAfterName? (rest.drop name.length)))
  | '-' :: letter :: rest => some (.lettered letter (valueAfterLetter? rest))
  | _ => none

/-- Whether a rule is that of the option. -/
def follows {α : Type} (w : Written) (rule : OptionRule α) : Bool :=
  match w with
  | named name _ => rule.name == name
  | lettered letter _ => rule.letter == some letter

end Written

/-- Whether an argument can be the value of the option before it. -/
def canBeValue (argument : String) : Bool :=
  argument == "-" || argument.toList.head? != some '-'

/-- The settings that arguments make, from some that they start with. Two hyphens alone may end the
arguments. -/
def readOptions {α : Type} (rules : List (OptionRule α)) : List String → α → Option α
  | [], a => some a
  | argument :: rest, a =>
    if argument = "--" then
      if rest.isEmpty then some a else none
    else
      match Written.ofArgument? argument with
      | none => none
      | some written =>
        match rules.find? written.follows with
        | none => none
        | some rule =>
          match rule.effect, written.value, rest with
          | .flag set, none, rest => (set a).bind (readOptions rules rest)
          | .flag _, some _, _ => none
          | .value set, some text, rest => (set text a).bind (readOptions rules rest)
          | .value _, none, [] => none
          | .value set, none, text :: rest =>
            if canBeValue text then (set text a).bind (readOptions rules rest) else none

end Backtest.CommandLine
