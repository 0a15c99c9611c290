import Backtest.Market.Adjustment
import Backtest.Market.Column

/-!
# Bundles

The market data of a run: assets, daily bars, perhaps minute bars, and adjustments. Values are read
raw for one session, or over several sessions as they are seen from the last of them.
-/

namespace Backtest.Market

open Backtest.Calendar (Date)

/-- The market data that a run reads. -/
structure Bundle where
  assets : List Asset
  lookup : String → Option Asset
  daily : BarReader
  minute : Option BarReader
  adjustments : String → List Adjustment

namespace Bundle

/-- A bundle of bars in memory, with symbols taken as they are spelled. -/
def ofBars (bars : Bars) (minute : Option Bars) (adjustments : List Adjustment) : Bundle where
  assets := bars.assets
  lookup symbol := bars.assets.find? fun a => a.symbol == symbol
  daily := bars.reader
  minute := minute.map Bars.reader
  adjustments symbol := adjustments.filter fun a => a.symbol == symbol

/-- The first day with data: that of the minute bars if they have one, else that of the daily bars. -/
def firstTradingDay (b : Bundle) : Option Date :=
  (b.minute.bind (·.firstDay)).or b.daily.firstDay

/-- The value of a field on a session, as it was then. -/
def current (b : Bundle) (symbol : String) (field : PriceField) (session : Date) : Option Float :=
  b.daily.value symbol field session

/-- The values of a field on sessions, seen from the last of them. -/
def history (b : Bundle) (symbol : String) (field : PriceField) (sessions : List Date) :
    List (Option Float) :=
  let adjustments := b.adjustments symbol
  sessions.map fun session =>
    match b.daily.value symbol field session with
    | none => none
    | some raw =>
      match sessions.getLast? with
      | some asOf => some (adjust raw field session asOf adjustments)
      | none => some raw

/-- A row of values for each session, with a value for each symbol, seen from the last session. -/
def rows (b : Bundle) (field : PriceField) (sessions : List Date) (symbols : List String) :
    List (List (Option Float)) :=
  match sessions.getLast? with
  | none => []
  | some asOf =>
    sessions.map fun session =>
      symbols.map fun symbol =>
        (b.daily.value symbol field session).map fun raw =>
          adjust raw field session asOf (b.adjustments symbol)

/-- The rows of a column, if the column can be loaded. -/
def loadColumn (b : Bundle) (column : Column) (sessions : List Date) (symbols : List String) :
    Except UnregisteredColumn (List (List (Option Float))) :=
  match column.field? with
  | none => .error ⟨column⟩
  | some field => .ok (b.rows field sessions symbols)

end Bundle

end Backtest.Market
