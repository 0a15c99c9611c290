import Backtest.Language.Eval

/-!
# Definitions

Names given to expressions by `name=value` strings. All strings are split before the first is evaluated;
each is then evaluated under the bindings made so far.
-/

namespace Backtest.Language

/-- A name and the text that its value is read from. -/
structure Definition where
  name : String
  expression : String
  deriving DecidableEq, Repr

/-- Why a list of definitions did not take effect as a whole. -/
inductive DefinitionError where
  /-- The string is not of the form `name=value`. -/
  | malformed (define : String)
  | evaluation (name : String) (cause : EvalError)
  deriving DecidableEq, Repr

/-- The wording of a definition error. -/
def DefinitionError.message : DefinitionError → String
  | .malformed define =>
    "invalid define " ++ Text.quote define ++ ", should be of the form name=value"
  | .evaluation name cause =>
    "failed to execute definition for name " ++ Text.quote name ++ ": " ++ cause.message

/-- The definition that a string is: one equals sign, with a name before it. -/
def Definition.ofString? (define : String) : Option Definition :=
  let cs := define.toList
  if cs.count '=' = 1 then
    let name := String.ofList (Text.trimBlanks (cs.takeWhile (· != '=')))
    if isIdentifier name then some ⟨name, String.ofList ((cs.dropWhile (· != '=')).drop 1)⟩
    else none
  else none

/-- The definitions of several strings, or the first string that is none. -/
def splitDefinitions (defines : List String) : Except DefinitionError (List Definition) :=
  defines.mapM fun define =>
    match Definition.ofString? define with
    | some d => .ok d
    | none => .error (.malformed define)

/-- Binds definitions in order, up to the first whose expression has no value. -/
def bindDefinitions (bindings : Bindings) : List Definition →
    Except DefinitionError Unit × Bindings
  | [] => (.ok (), bindings)
  | d :: rest =>
    match evalText bindings d.expression with
    | .ok v => bindDefinitions (bindings.insert d.name v) rest
    | .error cause => (.error (.evaluation d.name cause), bindings)

/-- Splits and binds definition strings. -/
def define (bindings : Bindings) (defines : List String) : Except DefinitionError Unit × Bindings :=
  match splitDefinitions defines with
  | .ok definitions => bindDefinitions bindings definitions
  | .error e => (.error e, bindings)

/-- The bindings that definition strings make, if all of them take effect. -/
def buildBindings (seed : Bindings) (defines : List String) : Except DefinitionError Bindings :=
  match define seed defines with
  | (.ok (), bindings) => .ok bindings
  | (.error e, _) => .error e

end Backtest.Language
