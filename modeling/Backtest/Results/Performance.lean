import Backtest.Calendar.DateText
import Backtest.Metrics.Metric
import Backtest.Number.Format
import Backtest.Text.Layout

/-!
# Performance

The record of a run: what was measured on every session, and a summary. It is shown as a table with a
column for everything that any session measured.
-/

namespace Backtest.Results

open Backtest.Calendar (Date)
open Backtest.Metrics (Packet)

/-- What was measured on a session. -/
structure DailyPerformance where
  session : Date
  columns : Packet

/-- What was measured in a run. -/
structure Performance where
  rows : List DailyPerformance
  summary : Packet

namespace Performance

/-- The number of sessions. -/
def sessionCount (p : Performance) : Nat :=
  p.rows.length

/-- The sessions in order. -/
def sessions (p : Performance) : List Date :=
  p.rows.map (·.session)

/-- One column over all sessions. -/
def column (p : Performance) (name : String) : List (Option Float) :=
  p.rows.map fun row => row.columns.get? name

/-- The names of all columns, in order and each once. -/
def columnNames (p : Performance) : List String :=
  (SortedMap.ofList (p.rows.flatMap fun row => row.columns.keys.map fun name => (name, ()))).keys

/-- A line of the table, from its first cell and the others. -/
def tableLine (first : String) (cells : List String) : String :=
  Text.padRight 12 first ++ String.join (cells.map fun cell => " " ++ Text.padLeft 18 cell) ++ "\n"

/-- The cell of a value; a value that is missing shows like one that is no number. -/
def cellText : Option Float → String
  | some x => Number.fixedPlaces 6 x
  | none => "NaN"

/-- The table, the counts of its rows and columns, and the summary. -/
def text (p : Performance) : String :=
  let names := p.columnNames
  tableLine "session" names ++
    String.join (p.rows.map fun row =>
      tableLine row.session.text (names.map fun name => cellText (row.columns.get? name))) ++
    "[" ++ toString p.rows.length ++ " rows x " ++ toString names.length ++ " columns]\n" ++
    String.join (p.summary.entries.map fun e => e.1 ++ ": " ++ Number.fixedPlaces 6 e.2 ++ "\n")

end Performance

end Backtest.Results
