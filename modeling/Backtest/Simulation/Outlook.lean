import Backtest.Market.Bundle
import Backtest.Trading.Ledger

/-!
# The outlook of a strategy

What a strategy can see during a session: the sessions so far, market data read as of the session, and
the books as they stood when the session opened. Nothing dated later can be reached from it.
-/

namespace Backtest.Simulation

open Backtest.Calendar (Date)
open Backtest.Market (Bundle Column PriceField UnregisteredColumn)
open Backtest.Trading (Ledger)

/-- What a strategy sees during a session. -/
structure Outlook where
  /-- The sessions of the run before this one, in order. -/
  earlier : List Date
  session : Date
  /-- The data behind prices and histories. -/
  market : Bundle
  /-- The data behind pipeline columns. -/
  columns : Bundle
  ledger : Ledger

namespace Outlook

/-- The number of the session in the run, from zero. -/
def index (o : Outlook) : Nat :=
  o.earlier.length

/-- The sessions of the run so far, this one included. -/
def sessions (o : Outlook) : List Date :=
  o.earlier ++ [o.session]

/-- The last sessions so far, at least one and at most all of them. -/
def window (o : Outlook) (count : Nat) : List Date :=
  o.sessions.drop (o.sessions.length - max count 1)

/-- The price of a symbol on this session. -/
def price (o : Outlook) (symbol : String) (field : PriceField) : Option Float :=
  o.market.current symbol field o.session

/-- The prices of a symbol on the last sessions, seen from this one. -/
def history (o : Outlook) (symbol : String) (field : PriceField) (count : Nat) :
    List (Option Float) :=
  o.market.history symbol field (o.window count)

/-- The rows of a pipeline column for the last sessions. -/
def pipeline (o : Outlook) (column : Column) (symbols : List String) (count : Nat) :
    Except UnregisteredColumn (List (List (Option Float))) :=
  o.columns.loadColumn column (o.window count) symbols

/-- The value of a pipeline column for one symbol on this session. -/
def pipelineValue (o : Outlook) (column : Column) (symbol : String) (count : Nat) :
    Except UnregisteredColumn (Option Float) :=
  (o.pipeline column [symbol] count).map fun rows =>
    (rows.getLast?.bind List.head?).join

end Outlook

end Backtest.Simulation
