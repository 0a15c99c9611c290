import Backtest.Text.Quoted
import Backtest.Number.Format

/-!
# Values

What an expression of the definition language evaluates to, with its type name, its truth value
and its two texts: the plain one, and the one that stands inside a list.
-/

namespace Backtest.Language

/-- A value of the definition language. Whole numbers have 64 bits. -/
inductive Value where
  | nothing
  | bool (b : Bool)
  | int (n : Int64)
  | float (x : Float)
  | str (s : String)
  | list (items : List Value)

namespace Value

instance : Inhabited Value := ⟨nothing⟩

/-- The name of a value's type. -/
def typeName : Value → String
  | nothing => "NoneType"
  | bool _ => "bool"
  | int _ => "int"
  | float _ => "float"
  | str _ => "str"
  | list _ => "list"

/-- What counts as true in a condition: all but zero, the empty and nothing. -/
def truthy : Value → Bool
  | nothing => false
  | bool b => b
  | int n => n != 0
  | float x => x != 0.0
  | str s => !s.isEmpty
  | list items => !items.isEmpty

/-- The numeric value, booleans counting as zero and one. -/
def toFloat? : Value → Option Float
  | bool b => some (if b then 1.0 else 0.0)
  | int n => some (Number.ofInt64 n)
  | float x => some x
  | _ => none

mutual

/-- The text that reads as a literal: strings are quoted. -/
def repr : Value → String
  | nothing => "None"
  | bool true => "True"
  | bool false => "False"
  | int n => String.ofList (Number.intText n.toInt)
  | float x => Number.plainFormat.text x
  | str s => Text.quote s
  | list items => "[" ++ reprItems items ++ "]"

/-- The literals of a list's items with a comma and a space between them. -/
def reprItems : List Value → String
  | [] => ""
  | [v] => v.repr
  | v :: w :: rest => v.repr ++ ", " ++ reprItems (w :: rest)

end

/-- The text of a value: that of a string is the string, all else is its literal. -/
def text : Value → String
  | str s => s
  | v => v.repr

end Value

end Backtest.Language
