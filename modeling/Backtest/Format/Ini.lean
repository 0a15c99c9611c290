import Backtest.SortedMap
import Backtest.Text.Casing
import Backtest.Text.Pieces

/-!
# Run files in sections

A text of sections in brackets with keys and values beneath them. Section names and keys count in any
case. A comment begins with a semicolon or a number sign anywhere on a line.
-/

namespace Backtest.Format

/-- Why a text is no file of sections, with the number of the line. -/
inductive IniFault where
  | unclosedSection (line : Nat)
  /-- Carries the number of bytes of the line before the delimiter. -/
  | emptyKey (line position : Nat)
  deriving DecidableEq, Repr

/-- The wording of a fault. -/
def IniFault.message : IniFault → String
  | unclosedSection line =>
    "line " ++ toString line ++
      ": Found opening bracket for section name but no closing bracket"
  | emptyKey line position =>
    "line " ++ toString line ++ ":" ++ toString position ++ ": Key cannot be empty"

/-- Keys with their values; a key can stand without a value. -/
abbrev IniSection := SortedMap String (Option String)

/-- Sections by their names. -/
abbrev Ini := SortedMap String IniSection

namespace Ini

/-- Whether a character begins a comment. -/
def isComment (c : Char) : Bool :=
  c == ';' || c == '#'

/-- What a line of the text says. -/
inductive Line where
  | idle
  | heading (name : String)
  | setting (key : String) (value : Option String)
  deriving DecidableEq, Repr

/-- The characters before the last occurrence of one, if it occurs. -/
def beforeLast? (mark : Char) (cs : List Char) : Option (List Char) :=
  match cs.reverse.dropWhile (· != mark) with
  | [] => none
  | _ :: before => some before.reverse

/-- What a line of a given number says. -/
def readLine (number : Nat) (line : List Char) : Except IniFault Line :=
  let body := Text.trimBlanks ((Text.trimBlanks line).takeWhile fun c => !isComment c)
  match body with
  | [] => .ok .idle
  | '[' :: rest =>
    match beforeLast? ']' rest with
    | some name => .ok (.heading (Text.toLower (String.ofList (Text.trimBlanks name))))
    | none => .error (.unclosedSection number)
  | body =>
    let key := body.takeWhile fun c => c != '=' && c != ':'
    let name := Text.toLower (String.ofList (Text.trimBlanks key))
    match body.drop key.length with
    | [] => .ok (.setting name none)
    | _ :: value =>
      if name.isEmpty then .error (.emptyKey number (Text.byteLength key))
      else .ok (.setting name (some (String.ofList (Text.trimBlanks value))))

/-- The sections with what the lines say, the first of them beneath a heading. A section that is named
again goes on, and a key that is set again changes its value. -/
def readLines (number : Nat) (heading : String) (ini : Ini) :
    List (List Char) → Except IniFault Ini
  | [] => .ok ini
  | line :: rest => do
    match ← readLine number line with
    | .idle => readLines (number + 1) heading ini rest
    | .heading name =>
      readLines (number + 1) name (ini.insert name ((ini.get? name).getD .empty)) rest
    | .setting key value =>
      let keys := ((ini.get? heading).getD .empty).insert key value
      readLines (number + 1) heading (ini.insert heading keys) rest

/-- The sections of a text. What stands before any heading belongs to `default`. -/
def ofText (text : String) : Except IniFault Ini :=
  readLines 1 "default" .empty (Text.pieces '\n' text.toList)

/-- The value of a key in a section. -/
def value? (ini : Ini) (heading key : String) : Option String := do
  let keys ← ini.get? (Text.toLower heading)
  (← keys.get? (Text.toLower key))

/-- The value of a key, unless it is blank. -/
def text? (ini : Ini) (heading key : String) : Option String :=
  (ini.value? heading key).bind fun v => if (Text.trim v).isEmpty then none else some (Text.trim v)

/-- The truth value that a word stands for. -/
def truthOf? (word : String) : Option Bool :=
  let word := Text.toLower word
  if ["true", "yes", "on", "1"].contains word then some true
  else if ["false", "no", "off", "0"].contains word then some false
  else none

/-- The truth value of a key, or another one if it has none. -/
def flag (ini : Ini) (heading key : String) (otherwise : Bool) : Bool :=
  ((ini.value? heading key).bind fun v => truthOf? (Text.trim v)).getD otherwise

/-- The items between the commas of a value, without blank ones. -/
def items (ini : Ini) (heading key : String) : List String :=
  match ini.text? heading key with
  | none => []
  | some v =>
    ((Text.pieces ',' v.toList).map fun item => String.ofList (Text.trimBlanks item)).filter
      fun item => !item.isEmpty

end Ini

end Backtest.Format
