import Backtest.Calendar.DateText
import Backtest.Text.Casing
import Backtest.Text.Quoted

/-!
# The blotter

Orders from their placing to their end. An order is filled whole at the price quoted for its symbol, or
it is cancelled, or it stays open; no order ever leaves the blotter.
-/

namespace Backtest.Trading

open Backtest.Calendar (Date)

/-- What has become of an order. -/
inductive OrderStatus where
  | opened
  | filled
  | cancelled
  deriving DecidableEq, Repr

/-- An order for an amount of a symbol, negative to sell. -/
structure Order where
  id : Nat
  symbol : String
  amount : Int
  created : Date
  status : OrderStatus
  deriving DecidableEq, Repr

/-- A filled order with its price. -/
structure Transaction where
  orderId : Nat
  symbol : String
  amount : Int
  price : Float
  session : Date

/-- What happens to open orders at the close of a session. -/
inductive CancelPolicy where
  | never
  | endOfDay
  deriving DecidableEq, Repr

/-- The policy that a name stands for in any case, or the wording of the fault. -/
def CancelPolicy.ofName (name : String) : Except String CancelPolicy :=
  let lower := Text.toLower name
  if lower = "never" then .ok never
  else if lower = "eod" then .ok endOfDay
  else .error
    ("unknown cancel policy " ++ Text.quote lower ++ ", expected \"never\" or \"eod\"")

/-- The name of a policy. -/
def CancelPolicy.name : CancelPolicy → String
  | never => "never"
  | endOfDay => "eod"

/-- Orders in the order of their placing, and the number that the next one gets. -/
structure Blotter where
  policy : CancelPolicy
  nextId : Nat
  orders : List Order

/-- What a symbol is quoted at, if anything. -/
abbrev Quotes := String → Option Float

/-- Whether an order still waits to be filled or cancelled. -/
def Order.isOpen (o : Order) : Bool :=
  o.status == .opened

/-- The price at which an order is filled now: the quote of its symbol, if it is open and for some
amount. -/
def Order.fillPrice? (quotes : Quotes) (o : Order) : Option Float :=
  if o.isOpen && o.amount != 0 then quotes o.symbol else none

namespace Blotter

/-- A blotter without orders. The first will have the number one. -/
def new (policy : CancelPolicy) : Blotter :=
  ⟨policy, 1, []⟩

/-- Places an order, open at first. Its number is `b.nextId`. -/
def place (b : Blotter) (symbol : String) (amount : Int) (session : Date) : Blotter :=
  { b with
    nextId := b.nextId + 1
    orders := b.orders ++ [⟨b.nextId, symbol, amount, session, .opened⟩] }

/-- The orders that are open, in the order of their placing. -/
def openOrders (b : Blotter) : List Order :=
  b.orders.filter Order.isOpen

/-- Whether an order number belongs to an open order. -/
def canCancel (b : Blotter) (id : Nat) : Bool :=
  b.orders.any fun o => o.id == id && o.isOpen

/-- Cancels the first open order with a number; another number changes nothing. -/
def cancel (b : Blotter) (id : Nat) : Blotter :=
  { b with
    orders := b.orders.modify (b.orders.findIdx fun o => o.id == id && o.isOpen) fun o =>
      { o with status := .cancelled } }

/-- The transactions that fill what can be filled at the quotes, in the order of placing. -/
def fills (b : Blotter) (session : Date) (quotes : Quotes) : List Transaction :=
  b.orders.filterMap fun o =>
    (o.fillPrice? quotes).map fun price => ⟨o.id, o.symbol, o.amount, price, session⟩

/-- The blotter after those fills. -/
def afterFills (b : Blotter) (quotes : Quotes) : Blotter :=
  { b with
    orders := b.orders.map fun o =>
      if (o.fillPrice? quotes).isSome then { o with status := .filled } else o }

/-- The blotter after the close of a session: the policy may cancel what is open. -/
def endOfSession (b : Blotter) : Blotter :=
  match b.policy with
  | .never => b
  | .endOfDay =>
    { b with
      orders := b.orders.map fun o => if o.isOpen then { o with status := .cancelled } else o }

end Blotter

end Backtest.Trading
