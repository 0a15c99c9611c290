import Backtest.Calendar.DateText
import Backtest.SortedMap
import Backtest.Text.Quoted

/-!
# Bars

The open, high, low, close and volume of symbols, day by day, and the readers that answer from them.
-/

namespace Backtest.Market

open Backtest.Calendar (Date)

/-- The fields of a bar. -/
inductive PriceField where
  | opening
  | high
  | low
  | close
  | volume
  deriving DecidableEq, Repr

namespace PriceField

/-- All fields. -/
def all : List PriceField :=
  [opening, high, low, close, volume]

/-- The name of a field. -/
def name : PriceField → String
  | opening => "open"
  | high => "high"
  | low => "low"
  | close => "close"
  | volume => "volume"

/-- The field of a name, or the wording of the fault. -/
def ofName (name : String) : Except String PriceField :=
  match all.find? fun f => f.name == name with
  | some f => .ok f
  | none => .error ("unknown price field " ++ Text.quote name)

end PriceField

/-- The prices of a symbol on a day. -/
structure Bar where
  opening : Float
  high : Float
  low : Float
  close : Float
  volume : Float

/-- The value of a field. -/
def Bar.value (b : Bar) : PriceField → Float
  | .opening => b.opening
  | .high => b.high
  | .low => b.low
  | .close => b.close
  | .volume => b.volume

/-- The bars of one symbol by their days. -/
abbrev DayBars := SortedMap Date Bar

/-- Bars by symbols and days. A symbol may have no bar. -/
abbrev Bars := SortedMap String DayBars

/-- Answers for the value of a symbol's field on a day, and for the first day with a value. -/
structure BarReader where
  value : String → PriceField → Date → Option Float
  firstDay : Option Date

/-- A traded symbol with its number and the days of its first and last bar. -/
structure Asset where
  sid : Nat
  symbol : String
  firstDay : Date
  lastDay : Date
  deriving DecidableEq, Repr

namespace Bars

/-- The value of a symbol's field on a day. -/
def value (bars : Bars) (symbol : String) (field : PriceField) (d : Date) : Option Float :=
  match bars.get? symbol with
  | none => none
  | some days => (days.get? d).map (·.value field)

/-- The earliest of some days. -/
def earliest : List Date → Option Date
  | [] => none
  | d :: rest =>
    match earliest rest with
    | none => some d
    | some e => some (if e < d then e else d)

/-- The first day on which any symbol has a bar. -/
def firstDay (bars : Bars) : Option Date :=
  earliest (bars.values.filterMap fun days => days.keys.head?)

/-- The reader that answers from bars. -/
def reader (bars : Bars) : BarReader :=
  ⟨bars.value, bars.firstDay⟩

/-- The asset that a symbol's bars make; a symbol without bars makes none. -/
def asset? (sid : Nat) (symbol : String) (days : DayBars) : Option Asset :=
  match days.keys.head?, days.keys.getLast? with
  | some first, some last => some ⟨sid, symbol, first, last⟩
  | _, _ => none

/-- The symbols that have bars, each numbered by its place among all symbols. -/
def assets (bars : Bars) : List Asset :=
  bars.entries.zipIdx.filterMap fun (e, sid) => asset? sid e.1 e.2

end Bars

end Backtest.Market
