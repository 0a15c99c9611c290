import Backtest.Proofs.Simulation.OrderHistory

/-!
# Calls at the desk

A strategy changes its desk by placing and cancelling orders and in no other way. A phase acts through the
desk when some list of such calls accounts for what it leaves there; the phase of a script does so with the
calls of its log (`Strategy.callsDesk_ofLines`). Whatever is called, the orders stand in the blotter in the
order of their placing, numbered from one.
-/

namespace Backtest.Simulation

open Backtest.Calendar (Date)
open Backtest.Language (Bindings Call EvalError ScriptError ScriptLine Value)
open Backtest.Run (SimulationFault)
open Backtest.Trading (Blotter Order Quotes)

variable {σ : Type}

/-- A call that changes the desk. -/
inductive DeskCall where
  | order (symbol : String) (amount : Int)
  | cancel (id : Nat)

/-- The desk after a call in a session. -/
def Desk.perform (session : Date) (d : Desk) : DeskCall → Desk
  | .order symbol amount => d.order symbol amount session
  | .cancel id => d.cancel id

/-- The desk after some calls in a session, one after the other. -/
def Desk.performAll (session : Date) (d : Desk) (calls : List DeskCall) : Desk :=
  calls.foldl (Desk.perform session) d

/-- Without calls the desk stays as it is. -/
@[simp] theorem Desk.performAll_nil (session : Date) (d : Desk) : d.performAll session [] = d :=
  rfl

/-- Calls are performed in two parts as in one. -/
theorem Desk.performAll_append (session : Date) (d : Desk) (calls later : List DeskCall) :
    d.performAll session (calls ++ later) = (d.performAll session calls).performAll session later :=
  List.foldl_append

/-- The calls that a phase makes, given what it is given. -/
abbrev PhaseCalls (σ : Type) := Outlook → Desk → σ → List DeskCall

/-- A phase changes the desk by its calls only. -/
def Phase.CallsDesk (phase : Phase σ) (calls : PhaseCalls σ) : Prop :=
  ∀ o d s, (phase o d s).2.1 = d.performAll o.session (calls o d s)

/-- The calls that a strategy makes in each of its phases. -/
structure StrategyCalls (σ : Type) where
  beforeRun : PhaseCalls σ
  beforeSession : PhaseCalls σ
  onSession : PhaseCalls σ

/-- A strategy changes the desk by its calls only. -/
structure Strategy.CallsDesk (strategy : Strategy σ) (calls : StrategyCalls σ) : Prop where
  beforeRun : strategy.beforeRun.CallsDesk calls.beforeRun
  beforeSession : strategy.beforeSession.CallsDesk calls.beforeSession
  onSession : strategy.onSession.CallsDesk calls.onSession

/-! ### Scripts -/

section Scripts

/-- The call at the desk that a call of a script is. -/
def deskCall? (x : Call Date) : Option DeskCall :=
  match x.args, x.result with
  | [.str symbol, .int amount], .ok _ =>
    if x.function = "order" then some (.order symbol amount.toInt) else none
  | [.int id], .ok _ => if x.function = "cancel" then some (.cancel id.toInt.toNat) else none
  | _, _ => none

variable {g : TradingFunction} {args : List Value} {mark : Date}

/-- A call that fails does nothing to the desk. -/
theorem deskCall?_error {function : String} {e : EvalError} :
    deskCall? ⟨mark, function, args, .error e⟩ = none := by
  unfold deskCall?
  split <;> first | contradiction | rfl

/-- Nor does a call of another function. -/
theorem deskCall?_of_ne {result : Except EvalError Value} (order : g ≠ .order) (cancel : g ≠ .cancel) :
    deskCall? ⟨mark, g.name, args, result⟩ = none := by
  have notOrder : g.name ≠ "order" := fun same => order (TradingFunction.name_inj.1 same)
  have notCancel : g.name ≠ "cancel" := fun same => cancel (TradingFunction.name_inj.1 same)
  unfold deskCall?
  split
  · rw [if_neg notOrder]
  · rw [if_neg notCancel]
  · rfl

/-- A trading function changes the desk by the call that it is. -/
theorem desk_apply (o : Outlook) (g : TradingFunction) (args : List Value) (s : TradingState) :
    (g.apply o args s).2.desk = s.desk.performAll o.session
      (deskCall? ⟨o.session, g.name, args, (g.apply o args s).1⟩).toList := by
  by_cases order : g = .order
  · subst order
    by_cases given : ∃ symbol amount, args = [.str symbol, .int amount]
    · obtain ⟨symbol, amount, rfl⟩ := given
      rfl
    · obtain ⟨e, failed⟩ := order_apply_error o s given
      rw [failed, deskCall?_error]
      rfl
  by_cases cancel : g = .cancel
  · subst cancel
    by_cases given : ∃ id, args = [.int id]
    · obtain ⟨id, rfl⟩ := given
      rfl
    · obtain ⟨e, failed⟩ := cancel_apply_error o s given
      rw [failed, deskCall?_error]
      rfl
  · rw [desk_apply_of_ne o s order cancel args, deskCall?_of_ne order cancel]
    rfl

/-- The calls at the desk of a script. -/
def scriptCalls (filename : String) (lines : List ScriptLine) : PhaseCalls Bindings :=
  fun o d b => (Phase.logged (.script filename) lines o d (b, [])).2.2.2.filterMap deskCall?

/-- A script does to the desk what its logged calls do. -/
theorem Phase.callsDesk_ofLines (filename : String) (lines : List ScriptLine) :
    (Phase.ofLines (.script filename) lines).CallsDesk (scriptCalls filename lines) := by
  intro o d b
  have same := Phase.logged_erases (.script filename) lines o d (b, [])
  have kept := Phase.logged_invariant (o := o)
    (K := fun d' log => d' = d.performAll o.session (log.filterMap deskCall?))
    ?call (.script filename) lines d (b, []) rfl
  case call =>
    intro g args s log held
    rw [desk_apply, held, ← Desk.performAll_append, List.filterMap_append]
    cases call : deskCall? ⟨o.session, g.name, args, (g.apply o args s).1⟩ <;> simp [call]
  rw [same]
  exact kept

/-- The calls of the strategy of a script. -/
def StrategyCalls.ofLines (filename : String) (lines : List ScriptLine) : StrategyCalls Bindings where
  beforeRun := fun _ _ _ => []
  beforeSession := fun _ _ _ => []
  onSession := scriptCalls filename lines

/-- So does the strategy of a script, in each of its phases. -/
theorem Strategy.callsDesk_ofLines (filename : String) (lines : List ScriptLine) :
    (Strategy.ofLines filename lines).CallsDesk (.ofLines filename lines) where
  beforeRun _ _ _ := rfl
  beforeSession _ _ _ := rfl
  onSession := Phase.callsDesk_ofLines filename lines

end Scripts

/-! ### Slips -/

/-- What is asked for when an order is placed. -/
structure Slip where
  session : Date
  symbol : String
  amount : Int

/-- The order of a slip under a number, as it is placed. -/
def Slip.order (slip : Slip) (number : Nat) : Order :=
  ⟨number, slip.symbol, slip.amount, slip.session, .opened⟩

/-- The orders of slips, numbered from one. -/
def numberedOrders (slips : List Slip) : List Order :=
  slips.mapIdx fun i slip => slip.order (i + 1)

/-- The slip of a call in a session, if it places an order. -/
def DeskCall.slip? (session : Date) : DeskCall → Option Slip
  | .order symbol amount => some ⟨session, symbol, amount⟩
  | .cancel _ => none

/-- The slips of calls in a session. -/
def slipsOf (session : Date) (calls : List DeskCall) : List Slip :=
  calls.filterMap (DeskCall.slip? session)

/-- The order as it was placed. -/
def asPlaced (o : Order) : Order :=
  { o with status := .opened }

/-- The orders of a blotter came of slips, each placed under the next number. -/
structure Holds (b : Blotter) (slips : List Slip) : Prop where
  placed : b.orders.map asPlaced = numberedOrders slips
  next : b.nextId = slips.length + 1

namespace Holds

variable {b : Blotter} {slips : List Slip}

/-- A new blotter holds the orders of no slips. -/
theorem new (policy : Trading.CancelPolicy) : Holds (.new policy) [] :=
  ⟨rfl, rfl⟩

/-- There are as many orders as slips. -/
theorem length (holds : Holds b slips) : b.orders.length = slips.length := by
  have := congrArg List.length holds.placed
  simpa [numberedOrders] using this

/-- Orders that came of slips carry their numbers. -/
theorem numbered (holds : Holds b slips) : b.Numbered where
  ids i o here := by
    have placed : (numberedOrders slips)[i]? = some (asPlaced o) := by
      rw [← holds.placed, List.getElem?_map, here, Option.map_some]
    rw [numberedOrders, List.getElem?_mapIdx] at placed
    obtain ⟨slip, -, same⟩ := Option.map_eq_some_iff.1 placed
    exact congrArg Order.id same.symm
  next := by rw [holds.next, holds.length]

/-- A change of each order's status changes nothing of how it was placed. -/
theorem map (holds : Holds b slips) {f : Order → Order} (same : ∀ o, asPlaced (f o) = asPlaced o)
    {b' : Blotter} (orders : b'.orders = b.orders.map f) (next : b'.nextId = b.nextId) :
    Holds b' slips where
  placed := by
    rw [orders, List.map_map, ← holds.placed]
    exact List.map_congr_left fun o _ => same o
  next := next.trans holds.next

/-- An order that is placed comes of one more slip. -/
theorem place (holds : Holds b slips) (symbol : String) (amount : Int) (session : Date) :
    Holds (b.place symbol amount session) (slips ++ [⟨session, symbol, amount⟩]) where
  placed := by
    unfold numberedOrders
    rw [Blotter.place, List.map_append, holds.placed, List.mapIdx_append, holds.next]
    simp [numberedOrders, Slip.order, asPlaced]
  next := by rw [Blotter.place, holds.next, List.length_append, List.length_singleton]

/-- A cancellation changes nothing of how orders were placed. -/
theorem cancel (holds : Holds b slips) (id : Nat) : Holds (b.cancel id) slips := by
  refine holds.map (fun o => ?_) (holds.numbered.orders_cancel id) rfl
  split <;> rfl

/-- Nor does the close of a session. -/
theorem close (holds : Holds b slips) (quotes : Quotes) :
    Holds (b.afterFills quotes).endOfSession slips := by
  refine holds.map (fun o => ?_) (Blotter.orders_close quotes) (Blotter.nextId_close quotes)
  rw [Order.close_eq]
  rfl

/-- Calls put their slips behind the orders that there are, and are counted by them. -/
theorem performAll {d : Desk} (holds : Holds d.blotter slips) (session : Date)
    (calls : List DeskCall) :
    Holds (d.performAll session calls).blotter (slips ++ slipsOf session calls) ∧
      (d.performAll session calls).ordersPlaced = d.ordersPlaced + (slipsOf session calls).length := by
  induction calls generalizing d slips with
  | nil => simpa [slipsOf] using holds
  | cons call rest ih =>
    cases call with
    | order symbol amount =>
      obtain ⟨later, count⟩ :=
        ih (d := d.order symbol amount session) (holds.place symbol amount session)
      rw [List.append_assoc] at later
      refine ⟨later, count.trans ?_⟩
      simp only [Desk.order, slipsOf, List.filterMap_cons, DeskCall.slip?, List.length_cons]
      omega
    | cancel id => exact ih (d := d.cancel id) (holds.cancel id)

end Holds

end Backtest.Simulation
