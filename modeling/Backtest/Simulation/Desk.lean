import Backtest.Trading.Blotter

/-!
# The trading desk

What a strategy can change during a session: it places orders, which are counted, and cancels them.
-/

namespace Backtest.Simulation

open Backtest.Calendar (Date)
open Backtest.Trading (Blotter CancelPolicy)

/-- The blotter with the number of orders placed in the present session. -/
structure Desk where
  blotter : Blotter
  ordersPlaced : Nat

namespace Desk

/-- The desk as a session finds it. -/
def new (blotter : Blotter) : Desk :=
  ⟨blotter, 0⟩

/-- Places an order. Its number is that of the blotter's next order. -/
def order (d : Desk) (symbol : String) (amount : Int) (session : Date) : Desk :=
  ⟨d.blotter.place symbol amount session, d.ordersPlaced + 1⟩

/-- Cancels an order. -/
def cancel (d : Desk) (id : Nat) : Desk :=
  { d with blotter := d.blotter.cancel id }

end Desk

end Backtest.Simulation
