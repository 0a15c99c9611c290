import Mathlib.Data.List.Induction
import Backtest.Proofs.Simulation.DeskCalls

/-!
# The lifecycle of orders

Orders in a blotter that is asked for anything in any order: to place and to cancel orders, to fill them at
any quotes, and to close sessions. Each call treats the orders one by one (`orders_after`), and an order that
is no longer open is left alone by all of them. The transactions with the number of an order are therefore one
if it has been filled and none otherwise, which is the invariant of a history (`Settled`).
-/

namespace Backtest.Trading

open Backtest.Calendar (Date)
open Backtest.Simulation (Holds Slip asPlaced numberedOrders)

/-- What can be asked of a blotter. -/
inductive BlotterCall where
  | order (slip : Slip)
  | cancel (id : Nat)
  | processFills (session : Date) (quotes : Quotes)
  | endOfSession

/-- The slip of a call, if it places an order. -/
def BlotterCall.slip? : BlotterCall → Option Slip
  | order slip => some slip
  | _ => none

/-- An order after a call that does not place it. -/
def Order.after (policy : CancelPolicy) (o : Order) : BlotterCall → Order
  | .order _ => o
  | .cancel id => if o.id = id ∧ o.status = .opened then { o with status := .cancelled } else o
  | .processFills _ quotes =>
    if o.status = .opened ∧ o.amount ≠ 0 ∧ (quotes o.symbol).isSome then { o with status := .filled } else o
  | .endOfSession => if policy = .endOfDay ∧ o.status = .opened then { o with status := .cancelled } else o

/-- The transactions of an order in a call. -/
def Order.emitted (o : Order) : BlotterCall → List Transaction
  | .processFills session quotes => o.fills session quotes
  | _ => []

namespace Blotter

/-- The blotter after a call. -/
def after (b : Blotter) : BlotterCall → Blotter
  | .order slip => b.place slip.symbol slip.amount slip.session
  | .cancel id => b.cancel id
  | .processFills _ quotes => b.afterFills quotes
  | .endOfSession => b.endOfSession

/-- The blotter after some calls, one after the other. -/
def afterAll (b : Blotter) (calls : List BlotterCall) : Blotter :=
  calls.foldl after b

/-- The transactions that a call returns. -/
def emitted (b : Blotter) : BlotterCall → List Transaction
  | .processFills session quotes => b.fills session quotes
  | _ => []

/-- The transactions that some calls return, one after the other. -/
def emittedByAll (b : Blotter) : List BlotterCall → List Transaction
  | [] => []
  | call :: rest => b.emitted call ++ (b.after call).emittedByAll rest

end Blotter

/-! ### One order -/

namespace Order

variable (policy : CancelPolicy) (o : Order) (call : BlotterCall)

/-- An order is filled at a price if it is open, for some amount and quoted at it. -/
theorem fillPrice?_eq_some_iff {o : Order} {quotes : Quotes} {price : Float} :
    o.fillPrice? quotes = some price ↔ o.status = .opened ∧ o.amount ≠ 0 ∧ quotes o.symbol = some price := by
  unfold fillPrice? isOpen
  by_cases opened : o.status = .opened <;> by_cases zero : o.amount = 0 <;> simp [opened, zero]

/-- An order is filled if it is open, for some amount and quoted. -/
theorem isSome_fillPrice?_iff {o : Order} {quotes : Quotes} :
    (o.fillPrice? quotes).isSome ↔ o.status = .opened ∧ o.amount ≠ 0 ∧ (quotes o.symbol).isSome := by
  simp only [Option.isSome_iff_exists, fillPrice?_eq_some_iff, exists_and_left]

/-- A call changes nothing of an order but its status. -/
theorem after_eq : o.after policy call = { o with status := (o.after policy call).status } := by
  cases call with
  | order slip => rfl
  | cancel id => rw [after]; split <;> rfl
  | processFills session quotes => rw [after]; split <;> rfl
  | endOfSession => rw [after]; split <;> rfl

/-- A call changes nothing of how an order was placed. -/
theorem asPlaced_after : asPlaced (o.after policy call) = asPlaced o := by
  rw [after_eq]
  rfl

/-- An order that is not open is left alone. -/
theorem after_of_not_open {o : Order} (h : o.status ≠ .opened) : o.after policy call = o := by
  cases call <;> simp [after, h]

/-- The status of an order changes from open only, and to filled or cancelled only. -/
theorem status_after : (o.after policy call).status = o.status ∨ o.status = .opened ∧
    ((o.after policy call).status = .filled ∨ (o.after policy call).status = .cancelled) := by
  by_cases opened : o.status = .opened
  · cases status : (o.after policy call).status with
    | opened => exact .inl opened.symm
    | filled => exact .inr ⟨opened, .inl rfl⟩
    | cancelled => exact .inr ⟨opened, .inr rfl⟩
  · exact .inl (by rw [after_of_not_open policy call opened])

/-- An order is filled in a call that it has a transaction in, and in no other. -/
theorem length_emitted : (if o.status = .filled then 1 else 0) + (o.emitted call).length =
    if (o.after policy call).status = .filled then 1 else 0 := by
  by_cases opened : o.status = .opened
  · cases call with
    | order slip => rfl
    | cancel id => by_cases own : o.id = id <;> simp [after, emitted, opened, own]
    | endOfSession => by_cases late : policy = .endOfDay <;> simp [after, emitted, opened, late]
    | processFills session quotes =>
      simp only [after, emitted, ← isSome_fillPrice?_iff, fills]
      cases o.fillPrice? quotes <;> simp [opened]
  · have none : o.emitted call = [] := by
      cases call with
      | processFills session quotes => exact (o.close_of_not_open policy session quotes opened).2
      | _ => rfl
    rw [after_of_not_open policy call opened, none]
    rfl

end Order

/-! ### One call -/

namespace Blotter

variable {policy : CancelPolicy} {b : Blotter} {slips : List Slip} {ts : List Transaction} {i : Nat}
  {o : Order} (call : BlotterCall) (calls : List BlotterCall)

/-- A call treats the orders one by one, and may put one more behind them. -/
theorem orders_after (numbered : b.Numbered) : (b.after call).orders =
    b.orders.map (·.after b.policy call) ++ (call.slip?.map (·.order b.nextId)).toList := by
  cases call with
  | order slip => simp [after, place, Order.after, BlotterCall.slip?, Slip.order]
  | cancel id => simp [after, numbered.orders_cancel, Order.after, BlotterCall.slip?, Order.isOpen]
  | processFills session quotes =>
    simp only [after, afterFills, Order.after, ← Order.isSome_fillPrice?_iff, BlotterCall.slip?]
    exact (List.append_nil _).symm
  | endOfSession =>
    cases policy : b.policy <;>
      simp [after, endOfSession, Order.after, BlotterCall.slip?, Order.isOpen, policy]

/-- A call leaves the policy as it is. -/
theorem policy_after (b : Blotter) : (b.after call).policy = b.policy := by
  cases call with
  | endOfSession =>
    obtain ⟨policy, nextId, orders⟩ := b
    cases policy <;> rfl
  | _ => rfl

/-- The next number grows by one with an order and stays the same in other calls. -/
theorem nextId_after (b : Blotter) : (b.after call).nextId = b.nextId + call.slip?.toList.length := by
  cases call with
  | endOfSession =>
    obtain ⟨policy, nextId, orders⟩ := b
    cases policy <;> rfl
  | _ => rfl

/-- After a call every order stands in its place. -/
theorem getElem?_after (numbered : b.Numbered) (here : b.orders[i]? = some o) :
    (b.after call).orders[i]? = some (o.after b.policy call) := by
  have inside : i < b.orders.length := (List.getElem?_eq_some_iff.1 here).1
  rw [orders_after call numbered, List.getElem?_append_left (by simpa using inside), List.getElem?_map, here,
    Option.map_some]

/-- A call puts its slip behind those that there are. -/
theorem holds_after (holds : Holds b slips) : Holds (b.after call) (slips ++ call.slip?.toList) := by
  cases slip : call.slip? with
  | none =>
    rw [Option.toList_none, List.append_nil]
    refine holds.map (fun o => o.asPlaced_after b.policy call) ?_ (by rw [nextId_after, slip]; rfl)
    rw [orders_after call holds.numbered, slip, Option.map_none, Option.toList_none, List.append_nil]
  | some _ =>
    cases call with
    | order slip' =>
      obtain rfl := Option.some.inj slip
      exact holds.place slip'.symbol slip'.amount slip'.session
    | _ => cases slip

/-- What is known of a blotter after the calls of a history: the orders are those of their slips, and the
transactions tell which orders have been filled. -/
structure Settled (b : Blotter) (slips : List Slip) (ts : List Transaction) : Prop where
  holds : Holds b slips
  filled : ∀ i o, b.orders[i]? = some o →
    (ts.filter fun t => t.orderId = i + 1).length = if o.status = .filled then 1 else 0
  known : ∀ t ∈ ts, ∃ i < b.orders.length, t.orderId = i + 1

/-- In a new blotter nothing is left to settle. -/
theorem settled_new (policy : CancelPolicy) : (new policy).Settled [] [] :=
  ⟨.new policy, by simp [new], by simp⟩

/-- A call adds an order if it has a slip. -/
theorem orders_length_after (numbered : b.Numbered) :
    (b.after call).orders.length = b.orders.length + call.slip?.toList.length := by
  rw [orders_after call numbered, List.length_append, List.length_map]
  cases call.slip? <;> rfl

/-- The transactions of a call with the number of an order are those of that order. -/
theorem filter_emitted (numbered : b.Numbered) (here : b.orders[i]? = some o) :
    (b.emitted call).filter (fun t => t.orderId = i + 1) = o.emitted call := by
  cases call with
  | processFills session quotes => exact numbered.filter_fills session quotes here
  | _ => rfl

/-- Every transaction of a call carries the number of an order. -/
theorem orderId_of_mem_emitted (numbered : b.Numbered) {t : Transaction} (h : t ∈ b.emitted call) :
    ∃ i < b.orders.length, t.orderId = i + 1 := by
  cases call with
  | processFills session quotes => exact numbered.orderId_of_mem_fills h
  | _ => cases h

/-- The invariant of a history is kept by every call. Of the order that a call places nothing was known before. -/
theorem Settled.after (settled : b.Settled slips ts) :
    (b.after call).Settled (slips ++ call.slip?.toList) (ts ++ b.emitted call) := by
  have numbered := settled.holds.numbered
  have length := orders_length_after call numbered
  refine ⟨holds_after call settled.holds, fun i o here => ?filled, fun t ht => ?known⟩
  case known =>
    obtain ⟨i, inside, number⟩ : ∃ i < b.orders.length, t.orderId = i + 1 := by
      rcases List.mem_append.1 ht with ht | ht
      · exact settled.known t ht
      · exact orderId_of_mem_emitted call numbered ht
    exact ⟨i, by omega, number⟩
  case filled =>
    rw [List.filter_append, List.length_append]
    by_cases old : i < b.orders.length
    · have before := List.getElem?_eq_getElem old
      rw [getElem?_after call numbered before] at here
      obtain rfl := Option.some.inj here
      rw [settled.filled i _ before, filter_emitted call numbered before, Order.length_emitted]
    · have unknown {us : List Transaction} (bound : ∀ t ∈ us, ∃ j < b.orders.length, t.orderId = j + 1) :
          us.filter (fun t => t.orderId = i + 1) = [] := by
        refine List.filter_eq_nil_iff.2 fun t ht same => ?_
        obtain ⟨j, inside, number⟩ := bound t ht
        have := of_decide_eq_true same
        omega
      rw [unknown settled.known, unknown fun t ht => orderId_of_mem_emitted call numbered ht]
      rw [orders_after call numbered, List.getElem?_append_right (by simpa using old)] at here
      obtain ⟨slip, -, placed⟩ := Option.map_eq_some_iff.1 (Option.mem_toList.1 (List.mem_of_getElem? here))
      rw [← placed]
      rfl

/-- The invariant holds of every history. -/
theorem Settled.afterAll (settled : b.Settled slips ts) :
    (b.afterAll calls).Settled (slips ++ calls.filterMap BlotterCall.slip?) (ts ++ b.emittedByAll calls) := by
  induction calls generalizing b slips ts with
  | nil => simpa [Blotter.afterAll, emittedByAll] using settled
  | cons call rest ih =>
    have later := ih (settled.after call)
    rw [List.append_assoc, List.append_assoc] at later
    have slips_eq : (call :: rest).filterMap BlotterCall.slip? =
        call.slip?.toList ++ rest.filterMap BlotterCall.slip? := by
      rw [List.filterMap_cons]
      cases call.slip? <;> rfl
    rw [slips_eq]
    exact later

/-- Calls change an order's status from open only. -/
theorem getElem?_afterAll (holds : Holds b slips) (here : b.orders[i]? = some o) :
    ∃ status, (b.afterAll calls).orders[i]? = some { o with status := status } ∧
      (status = o.status ∨ o.status = .opened ∧ (status = .filled ∨ status = .cancelled)) := by
  induction calls generalizing b slips o with
  | nil => exact ⟨o.status, here, .inl rfl⟩
  | cons call rest ih =>
    obtain ⟨status, later, change⟩ :=
      ih (holds_after call holds) (getElem?_after call holds.numbered here)
    have first := Order.status_after b.policy o call
    rw [Order.after_eq] at later
    refine ⟨status, later, ?_⟩
    grind

end Blotter

/-! ### Histories -/

/-- The blotter of a policy after some calls. -/
def blotterAfter (policy : CancelPolicy) (calls : List BlotterCall) : Blotter :=
  (Blotter.new policy).afterAll calls

/-- The life of the orders in a blotter, whatever it was asked for and is asked for next. -/
structure Lifecycle (policy : CancelPolicy) (calls : List BlotterCall) : Prop where
  /-- The orders are numbered 1, 2, 3, … in the order of their placing, and are what was asked for. -/
  placed : (blotterAfter policy calls).orders.map asPlaced =
    numberedOrders (calls.filterMap BlotterCall.slip?)
  /-- An order that is placed next gets the next number. -/
  next : (blotterAfter policy calls).nextId = (calls.filterMap BlotterCall.slip?).length + 1
  /-- No order ever disappears or changes in anything but its status, and that only from open. -/
  kept : ∀ (later : List BlotterCall) (i : Nat) (o : Order), (blotterAfter policy calls).orders[i]? = some o →
    ∃ status, (blotterAfter policy (calls ++ later)).orders[i]? = some { o with status := status } ∧
      (status = o.status ∨ o.status = .opened ∧ (status = .filled ∨ status = .cancelled))
  /-- Every open order for some amount of a quoted symbol is filled at the quote, and no other order is. -/
  fills : ∀ session quotes t, t ∈ (blotterAfter policy calls).fills session quotes ↔
    ∃ o ∈ (blotterAfter policy calls).orders, o.status = .opened ∧ o.amount ≠ 0 ∧
      ∃ price, quotes o.symbol = some price ∧ t = ⟨o.id, o.symbol, o.amount, price, session⟩
  /-- Each has one transaction, and these are in the order of the numbers. -/
  ordered : ∀ session quotes,
    ((blotterAfter policy calls).fills session quotes).Pairwise fun t u => t.orderId < u.orderId
  /-- The orders that are filled are those with a transaction. -/
  filling : ∀ (session : Date) (quotes : Quotes) (i : Nat) (o : Order),
    (blotterAfter policy calls).orders[i]? = some o →
    (blotterAfter policy (calls ++ [.processFills session quotes])).orders[i]? =
      some (if o.status = .opened ∧ o.amount ≠ 0 ∧ (quotes o.symbol).isSome then { o with status := .filled }
        else o)
  /-- A number can be cancelled if and only if it is that of an open order. -/
  cancels : ∀ id, (blotterAfter policy calls).canCancel id ↔
    ∃ o ∈ (blotterAfter policy calls).orders, o.id = id ∧ o.status = .opened
  /-- That order is cancelled then, and no other. -/
  cancelling : ∀ (id i : Nat) (o : Order), (blotterAfter policy calls).orders[i]? = some o →
    (blotterAfter policy (calls ++ [.cancel id])).orders[i]? =
      some (if o.id = id ∧ o.status = .opened then { o with status := .cancelled } else o)
  /-- At the close of a session the policy of the day leaves no order open. -/
  closing : policy = .endOfDay →
    ∀ o ∈ (blotterAfter policy (calls ++ [.endOfSession])).orders, o.status ≠ .opened
  /-- The policy that never cancels changes nothing. -/
  resting : policy = .never → blotterAfter policy (calls ++ [.endOfSession]) = blotterAfter policy calls
  /-- A number is in one transaction of the history at most. -/
  once : ∀ id, (((Blotter.new policy).emittedByAll calls).filter fun t => t.orderId = id).length ≤ 1
  /-- It is in one if and only if it is that of an order that has been filled. -/
  traded : ∀ id, (∃ t ∈ (Blotter.new policy).emittedByAll calls, t.orderId = id) ↔
    ∃ o ∈ (blotterAfter policy calls).orders, o.id = id ∧ o.status = .filled

/-- Calls are made in two parts as in one. -/
theorem blotterAfter_append (policy : CancelPolicy) (calls later : List BlotterCall) :
    blotterAfter policy (calls ++ later) = (blotterAfter policy calls).afterAll later :=
  List.foldl_append

/-- A blotter keeps its policy. -/
theorem policy_blotterAfter (policy : CancelPolicy) (calls : List BlotterCall) :
    (blotterAfter policy calls).policy = policy := by
  induction calls using List.reverseRecOn with
  | nil => rfl
  | append_singleton calls call ih =>
    rw [blotterAfter_append]
    exact (Blotter.policy_after call _).trans ih

/-- The invariant holds after any calls of a new blotter. -/
theorem settled_blotterAfter (policy : CancelPolicy) (calls : List BlotterCall) :
    (blotterAfter policy calls).Settled (calls.filterMap BlotterCall.slip?)
      ((Blotter.new policy).emittedByAll calls) :=
  (Blotter.settled_new policy).afterAll calls

namespace Blotter

variable {b : Blotter}

/-- The fills are those of the open orders for some amount that are quoted. -/
theorem mem_fills_iff {session : Date} {quotes : Quotes} {t : Transaction} :
    t ∈ b.fills session quotes ↔ ∃ o ∈ b.orders, o.status = .opened ∧ o.amount ≠ 0 ∧
      ∃ price, quotes o.symbol = some price ∧ t = ⟨o.id, o.symbol, o.amount, price, session⟩ := by
  simp only [fills, List.mem_filterMap, Option.map_eq_some_iff, Order.fillPrice?_eq_some_iff]
  grind

/-- Transactions are in the order of the numbers. -/
theorem Numbered.pairwise_fills (numbered : b.Numbered) (session : Date) (quotes : Quotes) :
    (b.fills session quotes).Pairwise fun t u => t.orderId < u.orderId := by
  refine List.pairwise_filterMap.2 (numbered.pairwise_id.imp fun before t ht u hu => ?_)
  obtain ⟨_, -, rfl⟩ := Option.map_eq_some_iff.1 ht
  obtain ⟨_, -, rfl⟩ := Option.map_eq_some_iff.1 hu
  exact before

/-- The policy of the day leaves no order open at the close of a session. -/
theorem status_of_mem_endOfSession (daily : b.policy = .endOfDay) {o : Order}
    (h : o ∈ b.endOfSession.orders) : o.status ≠ .opened := by
  rw [endOfSession, daily] at h
  obtain ⟨p, -, rfl⟩ := List.mem_map.1 h
  cases status : p.status <;> simp [Order.isOpen, status]

/-- The policy that never cancels leaves the blotter as it is. -/
theorem endOfSession_of_never (never : b.policy = .never) : b.endOfSession = b := by
  rw [endOfSession, never]

/-- The transactions with a number are one if it is that of a filled order and none otherwise. -/
theorem Settled.length_filter {slips : List Slip} {ts : List Transaction} (settled : b.Settled slips ts)
    (id : Nat) : (ts.filter fun t => t.orderId = id).length =
      if ∃ o ∈ b.orders, o.id = id ∧ o.status = .filled then 1 else 0 := by
  have numbered := settled.holds.numbered
  by_cases own : ∃ i < b.orders.length, id = i + 1
  · obtain ⟨i, inside, rfl⟩ := own
    have here := List.getElem?_eq_getElem inside
    rw [settled.filled i _ here]
    refine if_congr ⟨fun filled => ⟨_, List.getElem_mem inside, numbered.ids i _ here, filled⟩, ?_⟩ rfl rfl
    rintro ⟨o, ho, number, filled⟩
    obtain ⟨j, hj⟩ := List.mem_iff_getElem?.1 ho
    obtain rfl : j = i := Nat.succ.inj ((numbered.ids j o hj).symm.trans number)
    rwa [Option.some.inj (here.symm.trans hj)]
  · rw [if_neg, List.length_eq_zero_iff, List.filter_eq_nil_iff]
    · intro t ht number
      obtain ⟨i, inside, same⟩ := settled.known t ht
      exact own ⟨i, inside, (of_decide_eq_true number).symm.trans same⟩
    · rintro ⟨o, ho, number, -⟩
      obtain ⟨i, hi⟩ := List.mem_iff_getElem?.1 ho
      exact own ⟨i, (List.getElem?_eq_some_iff.1 hi).1, number.symm.trans (numbered.ids i o hi)⟩

end Blotter

/-- Orders in any blotter have that life, whatever it was asked for. -/
theorem order_lifecycle (policy : CancelPolicy) (calls : List BlotterCall) : Lifecycle policy calls := by
  have settled := settled_blotterAfter policy calls
  have numbered := settled.holds.numbered
  have single := settled.length_filter
  have step {call : BlotterCall} {i : Nat} {o : Order}
      (here : (blotterAfter policy calls).orders[i]? = some o) :
      (blotterAfter policy (calls ++ [call])).orders[i]? = some (o.after policy call) := by
    have next := Blotter.getElem?_after call numbered here
    rw [policy_blotterAfter] at next
    rw [blotterAfter_append]
    exact next
  exact {
    placed := settled.holds.placed
    next := settled.holds.next
    kept := fun later i o here => by
      rw [blotterAfter_append]
      exact Blotter.getElem?_afterAll later settled.holds here
    fills := fun session quotes t => Blotter.mem_fills_iff
    ordered := numbered.pairwise_fills
    filling := fun session quotes i o here => step here
    cancels := fun id => Blotter.canCancel_iff
    cancelling := fun id i o here => step here
    closing := by
      rintro rfl o ho
      rw [blotterAfter_append] at ho
      exact Blotter.status_of_mem_endOfSession (policy_blotterAfter _ calls) ho
    resting := by
      rintro rfl
      rw [blotterAfter_append]
      exact Blotter.endOfSession_of_never (policy_blotterAfter _ calls)
    once := fun id => by
      rw [single]
      split <;> simp
    traded := fun id => by
      have some_iff : (∃ t ∈ (Blotter.new policy).emittedByAll calls, t.orderId = id) ↔
          0 < (((Blotter.new policy).emittedByAll calls).filter fun t => t.orderId = id).length := by
        simp [List.length_pos_iff_exists_mem]
      rw [some_iff, single]
      split
      next filled => exact iff_of_true Nat.one_pos filled
      next unfilled => exact iff_of_false (Nat.lt_irrefl 0) unfilled }

end Backtest.Trading
