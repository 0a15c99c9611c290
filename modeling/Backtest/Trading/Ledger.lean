import Backtest.SortedMap
import Backtest.Trading.Blotter

/-!
# The ledger

Cash and positions of a run. Every transaction moves cash; a position disappears when its amount comes
to nothing, and its cost basis moves only when it grows or changes sides.
-/

namespace Backtest.Trading

/-- The holding of a symbol. -/
structure Position where
  symbol : String
  amount : Int
  costBasis : Float
  lastPrice : Float

/-- The worth of a position at its last price. -/
def Position.marketValue (p : Position) : Float :=
  Float.ofInt p.amount * p.lastPrice

/-- Cash and positions, with the capital that the run began with. -/
structure Ledger where
  capitalBase : Float
  cash : Float
  positions : SortedMap String Position

/-- The cost basis of a position after a transaction that leaves it with `total`. It is averaged when
the position is new or grows on its side, and is the price when the position changes sides. -/
def Position.costBasisAfter (p : Position) (t : Transaction) (total : Int) : Float :=
  if p.amount = 0 ∨ p.amount.sign = t.amount.sign then
    (p.costBasis * Float.ofInt p.amount + t.price * Float.ofInt t.amount) / Float.ofInt total
  else if total.sign ≠ p.amount.sign then t.price
  else p.costBasis

/-- A position after a transaction in its symbol; none if nothing is left of it. -/
def Position.trade? (p : Position) (t : Transaction) : Option Position :=
  let total := p.amount + t.amount
  if total = 0 then none
  else some
    { p with amount := total, costBasis := p.costBasisAfter t total, lastPrice := t.price }

namespace Ledger

/-- A ledger of cash alone. -/
def new (capitalBase : Float) : Ledger :=
  ⟨capitalBase, capitalBase, .empty⟩

/-- The ledger after a transaction. -/
def trade (l : Ledger) (t : Transaction) : Ledger :=
  let held := (l.positions.get? t.symbol).getD ⟨t.symbol, 0, 0.0, t.price⟩
  { l with
    cash := l.cash - Float.ofInt t.amount * t.price
    positions := match held.trade? t with
      | some p => l.positions.insert t.symbol p
      | none => l.positions.erase t.symbol }

/-- The ledger with the last prices of quoted symbols set to their quotes. -/
def mark (l : Ledger) (quotes : Quotes) : Ledger :=
  { l with
    positions := l.positions.mapValues fun _ p =>
      match quotes p.symbol with
      | some price => { p with lastPrice := price }
      | none => p }

/-- The worth of all positions, added up in the order of their symbols from a negative zero, which is
neutral for every double. -/
def positionsValue (l : Ledger) : Float :=
  l.positions.values.foldl (fun sum p => sum + p.marketValue) (-0.0)

/-- The worth of cash and positions. -/
def portfolioValue (l : Ledger) : Float :=
  l.cash + l.positionsValue

/-- The amount held of a symbol. -/
def amountOf (l : Ledger) (symbol : String) : Int :=
  ((l.positions.get? symbol).map (·.amount)).getD 0

end Ledger

end Backtest.Trading
