import Backtest.Proofs.Simulation.CallLog
import Backtest.Proofs.Trading.OrderFate

/-!
# The orders of a run

Every order that a script places is followed through the run. Under the policy that never cancels, it is
filled in the first session from its own on in which its symbol has a close; under the other policy, in its
own session or not at all. The script can take it back before that.
-/

namespace Backtest.Simulation

open Backtest.Calendar (Date)
open Backtest.Language (Bindings Call EvalError ScriptLine Value)
open Backtest.Results (Performance)
open Backtest.Trading (Blotter CancelPolicy Fate Order OrderStatus Transaction firstQuote)

/-- An order as a script placed it, with the number that it was told. -/
structure Placement where
  session : Date
  symbol : String
  amount : Int
  answer : Int64
  deriving DecidableEq

/-- The order in the blotter that comes of a placement. -/
def Placement.order (p : Placement) (number : Nat) (status : OrderStatus) : Order :=
  ⟨number, p.symbol, p.amount, p.session, status⟩

/-- The order that a call has placed. -/
def placement? (x : Call Date) : Option Placement :=
  match x.args, x.result with
  | [.str symbol, .int amount], .ok (.int answer) =>
    if x.function = "order" then some ⟨x.mark, symbol, amount.toInt, answer⟩ else none
  | _, _ => none

/-- The number of the order that a call has cancelled. -/
def cancellation? (x : Call Date) : Option Nat :=
  match x.args, x.result with
  | [.int id], .ok (.bool true) => if x.function = "cancel" then some id.toInt.toNat else none
  | _, _ => none

/-- The orders placed by some calls. -/
def placements (log : List (Call Date)) : List Placement :=
  log.filterMap placement?

/-- The numbers of the orders cancelled by some calls. -/
def cancellations (log : List (Call Date)) : List Nat :=
  log.filterMap cancellation?

/-- An order is placed in the session of its call. -/
theorem mark_of_placement? {x : Call Date} {p : Placement} (h : placement? x = some p) :
    x.mark = p.session := by
  unfold placement? at h
  split at h
  · split at h
    · cases h
      rfl
    · contradiction
  · contradiction

/-- An order was placed in the session of some call. -/
theorem exists_mark_of_placements {log : List (Call Date)} {i : Nat} {p : Placement}
    (h : (placements log)[i]? = some p) : ∃ x ∈ log, x.mark = p.session := by
  obtain ⟨x, hx, placed⟩ := List.mem_filterMap.1 (List.mem_of_getElem? h)
  exact ⟨x, hx, mark_of_placement? placed⟩

/-- One more call puts its placement behind the others. -/
theorem placements_append_singleton (log : List (Call Date)) (x : Call Date) :
    placements (log ++ [x]) = placements log ++ (placement? x).toList := by
  unfold placements
  rw [List.filterMap_append]
  cases h : placement? x <;> simp [h]

/-- One more call puts its cancellation behind the others. -/
theorem cancellations_append_singleton (log : List (Call Date)) (x : Call Date) :
    cancellations (log ++ [x]) = cancellations log ++ (cancellation? x).toList := by
  unfold cancellations
  rw [List.filterMap_append]
  cases h : cancellation? x <;> simp [h]

section Calls

variable {g : TradingFunction} {mark : Date} {args : List Value}

/-- Calls of other functions place nothing. -/
theorem placement?_of_ne {result : Except EvalError Value} (h : g ≠ .order) :
    placement? ⟨mark, g.name, args, result⟩ = none := by
  have other : g.name ≠ "order" := fun same => h (TradingFunction.name_inj.1 same)
  unfold placement?
  split
  · rw [if_neg other]
  · rfl

/-- Calls of other functions cancel nothing. -/
theorem cancellation?_of_ne {result : Except EvalError Value} (h : g ≠ .cancel) :
    cancellation? ⟨mark, g.name, args, result⟩ = none := by
  have other : g.name ≠ "cancel" := fun same => h (TradingFunction.name_inj.1 same)
  unfold cancellation?
  split
  · rw [if_neg other]
  · rfl

/-- A call that fails places nothing. -/
theorem placement?_error {function : String} {e : EvalError} :
    placement? ⟨mark, function, args, .error e⟩ = none := by
  unfold placement?
  split
  · contradiction
  · rfl

/-- A call that fails cancels nothing. -/
theorem cancellation?_error {function : String} {e : EvalError} :
    cancellation? ⟨mark, function, args, .error e⟩ = none := by
  unfold cancellation?
  split
  · contradiction
  · rfl

variable (o : Outlook) (s : TradingState)

/-- An order takes a symbol and a whole number. -/
theorem order_apply_error (h : ¬∃ symbol amount, args = [.str symbol, .int amount]) :
    ∃ e, TradingFunction.order.apply o args s = (.error e, s) := by
  rcases args with _ | ⟨v, _ | ⟨w, _ | ⟨_, _⟩⟩⟩
  · exact ⟨_, rfl⟩
  · exact ⟨_, rfl⟩
  · cases v with
    | str symbol =>
      cases w with
      | int amount => exact absurd ⟨symbol, amount, rfl⟩ h
      | _ => exact ⟨_, rfl⟩
    | _ => exact ⟨_, rfl⟩
  · exact ⟨_, rfl⟩

/-- A cancellation takes a whole number. -/
theorem cancel_apply_error (h : ¬∃ id, args = [.int id]) :
    ∃ e, TradingFunction.cancel.apply o args s = (.error e, s) := by
  rcases args with _ | ⟨v, _ | ⟨_, _⟩⟩
  · exact ⟨_, rfl⟩
  · cases v with
    | int id => exact absurd ⟨id, rfl⟩ h
    | _ => exact ⟨_, rfl⟩
  · exact ⟨_, rfl⟩

/-- Calls of other functions leave the desk alone. -/
theorem desk_apply_of_ne (order : g ≠ .order) (cancel : g ≠ .cancel) (args : List Value) :
    (g.apply o args s).2.desk = s.desk := by
  unfold TradingFunction.apply
  split
  · contradiction
  · contradiction
  · unfold TradingFunction.runPipeline
    split
    · rfl
    · split <;> rfl
  · rfl

/-- What a call of a trading function does to the blotter: it places an order, or cancels one, or leaves all
orders alone. -/
theorem apply_blotter (g : TradingFunction) (args : List Value) :
    let x : Call Date := ⟨o.session, g.name, args, (g.apply o args s).1⟩
    let b := s.desk.blotter
    let b' := (g.apply o args s).2.desk.blotter
    (∃ symbol amount, placement? x = some ⟨o.session, symbol, amount, Int64.ofNat b.nextId⟩ ∧
      cancellation? x = none ∧ b' = b.place symbol amount o.session) ∨
    (∃ id, placement? x = none ∧ cancellation? x = (if b.canCancel id then some id else none) ∧
      b' = b.cancel id) ∨
    placement? x = none ∧ cancellation? x = none ∧ b' = b := by
  intro x b b'
  by_cases order : g = .order
  · subst order
    have uncancelled : cancellation? x = none := cancellation?_of_ne (by decide)
    by_cases given : ∃ symbol amount, args = [.str symbol, .int amount]
    · obtain ⟨symbol, amount, rfl⟩ := given
      exact .inl ⟨symbol, amount.toInt, rfl, uncancelled, rfl⟩
    · obtain ⟨e, failed⟩ := order_apply_error o s given
      refine .inr (.inr ⟨?_, uncancelled, ?_⟩)
      · simp only [x, failed, placement?_error]
      · simp only [b', failed, b]
  by_cases cancel : g = .cancel
  · subst cancel
    have unplaced : placement? x = none := placement?_of_ne (by decide)
    by_cases given : ∃ id, args = [.int id]
    · obtain ⟨id, rfl⟩ := given
      refine .inr (.inl ⟨id.toInt.toNat, unplaced, ?_, rfl⟩)
      change cancellation? ⟨o.session, "cancel", [.int id], .ok (.bool (b.canCancel _))⟩ = _
      cases b.canCancel id.toInt.toNat with
      | false => rfl
      | true => rfl
    · obtain ⟨e, failed⟩ := cancel_apply_error o s given
      refine .inr (.inr ⟨unplaced, ?_, ?_⟩)
      · simp only [x, failed, cancellation?_error]
      · simp only [b', failed, b]
  · have same : b' = b := congrArg Desk.blotter (desk_apply_of_ne o s order cancel args)
    exact .inr (.inr ⟨placement?_of_ne order, cancellation?_of_ne cancel, same⟩)

end Calls

namespace Scenario

/-- What is known of the orders in the course of a run. Each placed order stands in the blotter under its
number, with a fate that accounts for all transactions under that number. -/
structure Tracked (c : Scenario) (done : List SessionRecord) (b : Blotter) (log : List (Call Date)) :
    Prop where
  policy : b.policy = c.policy
  length : b.orders.length = (placements log).length
  next : b.nextId = b.orders.length + 1
  orders : ∀ i p, (placements log)[i]? = some p → p.answer = Int64.ofNat (i + 1) ∧
    ∃ status, b.orders[i]? = some (p.order (i + 1) status) ∧
      Fate c.feeds.closes c.policy (done.map (·.session)) (i + 1 ∈ cancellations log)
        (p.order (i + 1) status) ((transactions done).filter fun t => t.orderId = i + 1)
  cancelled : ∀ n ∈ cancellations log, n ≤ b.orders.length
  filled : ∀ t ∈ transactions done, ∃ i < b.orders.length, t.orderId = i + 1
  dated : ∀ r ∈ done, ∀ t ∈ r.fills, t.session = r.session

namespace Tracked

variable {c : Scenario} {done : List SessionRecord} {b : Blotter} {log : List (Call Date)} {x : Call Date}

/-- At first there is nothing to track. -/
theorem start (c : Scenario) : Tracked c [] (.new c.policy) [] where
  policy := rfl
  length := rfl
  next := rfl
  orders := by simp [placements]
  cancelled := by simp [cancellations]
  filled := by simp [transactions]
  dated := by simp

/-- Orders that are tracked carry their numbers. -/
theorem numbered (tracked : Tracked c done b log) : b.Numbered where
  ids i o ho := by
    have bound : i < (placements log).length := by
      rw [← tracked.length]
      exact (List.getElem?_eq_some_iff.1 ho).1
    obtain ⟨-, status, here, -⟩ := tracked.orders i _ (List.getElem?_eq_getElem bound)
    rw [ho] at here
    cases here
    rfl
  next := tracked.next

/-- No transaction carries the number of the next order. -/
theorem untraded (tracked : Tracked c done b log) :
    (transactions done).filter (fun t => t.orderId = b.orders.length + 1) = [] := by
  refine List.filter_eq_nil_iff.2 fun t ht same => ?_
  obtain ⟨i, hi, own⟩ := tracked.filled t ht
  have same := of_decide_eq_true same
  omega

/-- An order that is placed is tracked from then on. -/
theorem place (tracked : Tracked c done b log) {session : Date} {symbol : String} {amount : Int}
    (later : ∀ r ∈ done, r.session < session)
    (placed : placement? x = some ⟨session, symbol, amount, Int64.ofNat b.nextId⟩)
    (uncancelled : cancellation? x = none) :
    Tracked c done (b.place symbol amount session) (log ++ [x]) := by
  have hplacements : placements (log ++ [x]) =
      placements log ++ [⟨session, symbol, amount, Int64.ofNat b.nextId⟩] := by
    rw [placements_append_singleton, placed, Option.toList_some]
  have hcancellations : cancellations (log ++ [x]) = cancellations log := by
    rw [cancellations_append_singleton, uncancelled, Option.toList_none, List.append_nil]
  have length : (b.place symbol amount session).orders.length = b.orders.length + 1 := by
    simp [Blotter.place]
  refine ⟨tracked.policy, ?_, ?_, ?_, ?_, ?_, tracked.dated⟩
  · rw [length, hplacements, tracked.length]
    simp
  · rw [length, Blotter.place, tracked.next]
  · intro i p hp
    rw [hplacements] at hp
    rw [hcancellations]
    by_cases old : i < (placements log).length
    · rw [List.getElem?_append_left old] at hp
      obtain ⟨answer, status, here, fate⟩ := tracked.orders i p hp
      refine ⟨answer, status, ?_, fate⟩
      rw [Blotter.place, List.getElem?_append_left (tracked.length ▸ old), here]
    · obtain rfl : i = (placements log).length := by
        have := (List.getElem?_eq_some_iff.1 hp).1
        simp at this
        omega
      rw [List.getElem?_concat_length] at hp
      cases hp
      rw [← tracked.length]
      refine ⟨congrArg Int64.ofNat tracked.next, .opened, ?_, ?_⟩
      · rw [Blotter.place, tracked.next]
        exact List.getElem?_concat_length ..
      · have kept : b.orders.length + 1 ∉ cancellations log := fun h => by
          have := tracked.cancelled _ h
          omega
        rw [tracked.untraded]
        refine Fate.place rfl kept fun s hs => ?_
        obtain ⟨r, hr, rfl⟩ := List.mem_map.1 hs
        exact later r hr
  · intro n hn
    rw [hcancellations] at hn
    have := tracked.cancelled n hn
    omega
  · intro t ht
    obtain ⟨i, hi, own⟩ := tracked.filled t ht
    exact ⟨i, by omega, own⟩

/-- An order that is cancelled is tracked as such, and the others as before. -/
theorem cancel (tracked : Tracked c done b log) {id : Nat} (unplaced : placement? x = none)
    (cancelled : cancellation? x = if b.canCancel id then some id else none) :
    Tracked c done (b.cancel id) (log ++ [x]) := by
  have hplacements : placements (log ++ [x]) = placements log := by
    rw [placements_append_singleton, unplaced, Option.toList_none, List.append_nil]
  have hcancellations : ∀ n, n ∈ cancellations (log ++ [x]) ↔
      n ∈ cancellations log ∨ n = id ∧ b.canCancel id := by
    intro n
    rw [cancellations_append_singleton, cancelled, List.mem_append]
    by_cases can : b.canCancel id <;> simp [can]
  have length : (b.cancel id).orders.length = b.orders.length := List.length_modify ..
  refine ⟨tracked.policy, by rw [length, hplacements, tracked.length], ?_, ?_, ?_, ?_, tracked.dated⟩
  · rw [length]
    exact tracked.next
  · intro i p hp
    rw [hplacements] at hp
    obtain ⟨answer, status, here, fate⟩ := tracked.orders i p hp
    rw [tracked.numbered.getElem?_cancel id here]
    refine ⟨answer, ?_⟩
    by_cases now : id = i + 1 ∧ status = .opened
    · obtain ⟨rfl, rfl⟩ := now
      have can : b.canCancel (i + 1) := (tracked.numbered.canCancel_iff _).2 ⟨i, _, rfl, here, rfl⟩
      exact ⟨.cancelled, by simp [Placement.order],
        fate.cancel rfl ((hcancellations _).2 (.inr ⟨rfl, can⟩))⟩
    · have other : ¬(i + 1 = id ∧ b.canCancel id) := by
        rintro ⟨rfl, can⟩
        obtain ⟨j, o, hj, ho, opened⟩ := (tracked.numbered.canCancel_iff _).1 can
        obtain rfl : i = j := by omega
        rw [here] at ho
        cases ho
        exact now ⟨rfl, opened⟩
      have same : i + 1 ∈ cancellations (log ++ [x]) ↔ i + 1 ∈ cancellations log := by
        simp [hcancellations, other]
      exact ⟨status, by simp [Placement.order, now], by rwa [propext same]⟩
  · intro n hn
    rw [length]
    rcases (hcancellations n).1 hn with hn | ⟨rfl, can⟩
    · exact tracked.cancelled n hn
    · obtain ⟨i, o, rfl, ho, -⟩ := (tracked.numbered.canCancel_iff _).1 can
      exact (List.getElem?_eq_some_iff.1 ho).1
  · rw [length]
    exact tracked.filled

/-- A call that leaves the orders alone changes nothing of what is known. -/
theorem keep (tracked : Tracked c done b log) (unplaced : placement? x = none)
    (uncancelled : cancellation? x = none) : Tracked c done b (log ++ [x]) := by
  have hplacements : placements (log ++ [x]) = placements log := by
    rw [placements_append_singleton, unplaced, Option.toList_none, List.append_nil]
  have hcancellations : cancellations (log ++ [x]) = cancellations log := by
    rw [cancellations_append_singleton, uncancelled, Option.toList_none, List.append_nil]
  constructor
  · exact tracked.policy
  · rw [hplacements, tracked.length]
  · exact tracked.next
  · rw [hplacements, hcancellations]
    exact tracked.orders
  · rw [hcancellations]
    exact tracked.cancelled
  · exact tracked.filled
  · exact tracked.dated

/-- The close of a session brings every order to its fate of that session. -/
theorem close (tracked : Tracked c done b log) {r : SessionRecord}
    (later : ∀ q ∈ done, q.session < r.session)
    (marks : ∀ x ∈ log, x.mark ∈ done.map (·.session) ++ [r.session])
    (fills : r.fills = b.fills r.session (c.feeds.closes r.session)) :
    Tracked c (done ++ [r]) (b.afterFills (c.feeds.closes r.session)).endOfSession log := by
  have length : (b.afterFills (c.feeds.closes r.session)).endOfSession.orders.length =
      b.orders.length := by
    rw [Blotter.orders_close, List.length_map]
  refine ⟨?_, by rw [length, tracked.length], ?_, ?_, ?_, ?_, ?_⟩
  · rw [Blotter.policy_close, tracked.policy]
  · rw [Blotter.nextId_close, length, tracked.next]
  · intro i p hp
    obtain ⟨answer, status, here, fate⟩ := tracked.orders i p hp
    have created : p.session ∈ done.map (·.session) ++ [r.session] := by
      obtain ⟨x, hx, mark⟩ := exists_mark_of_placements hp
      exact mark ▸ marks x hx
    have later : ∀ s ∈ done.map (·.session), s < r.session := by
      intro s hs
      obtain ⟨q, hq, rfl⟩ := List.mem_map.1 hs
      exact later q hq
    have closed := fate.close later created
    refine ⟨answer, ((p.order (i + 1) status).close c.policy (c.feeds.closes r.session)).status, ?_, ?_⟩
    · rw [Blotter.orders_close, List.getElem?_map, here, tracked.policy, Option.map_some, Order.close_eq]
      rfl
    · rw [Order.close_eq] at closed
      rw [List.map_append, transactions_append, List.filter_append, transactions_singleton, fills,
        tracked.numbered.filter_fills _ _ here]
      exact closed
  · rw [length]
    exact tracked.cancelled
  · intro t ht
    rw [length]
    rw [transactions_append, transactions_singleton, List.mem_append, fills] at ht
    rcases ht with ht | ht
    · exact tracked.filled t ht
    · exact tracked.numbered.orderId_of_mem_fills ht
  · intro q hq t ht
    rcases List.mem_append.1 hq with hq | hq
    · exact tracked.dated q hq t ht
    · obtain rfl := List.mem_singleton.1 hq
      rw [fills] at ht
      exact Blotter.session_of_mem_fills ht

end Tracked

variable {c : Scenario} {filename : String} {lines : List ScriptLine} {seed : Bindings}

/-- A successful run is tracked to its end. -/
theorem tracked_run {performance : Performance}
    (h : (c.run (.ofLines filename lines) seed).1 = .ok performance) :
    ∃ b, Tracked c (c.records (.ofLines filename lines) seed) b (c.calls filename lines seed) := by
  have held := calls_invariant c filename lines seed
    (P := fun done b _ log => Tracked c done b log)
    (Q := fun done session b _ log => Tracked c done b log ∧ ∀ r ∈ done, r.session < session)
    (Tracked.start c) ?opening ?call ?close
  case opening =>
    intro done session b l log here _ tracked
    exact ⟨tracked, fun r hr => lt_of_prefix_sessions here (List.mem_map_of_mem hr)⟩
  case call =>
    rintro done g args s log o ⟨tracked, later⟩
    refine ⟨?_, later⟩
    rcases apply_blotter o s g args with ⟨symbol, amount, placed, kept, blotter⟩ |
      ⟨id, kept, cancelled, blotter⟩ | ⟨unplaced, uncancelled, blotter⟩
    · exact blotter ▸ tracked.place later placed kept
    · exact blotter ▸ tracked.cancel kept cancelled
    · exact blotter ▸ tracked.keep unplaced uncancelled
  case close =>
    rintro done r b l log here marks ⟨tracked, later⟩ fills _
    exact tracked.close later marks fills
  simp only [h] at held
  obtain ⟨b, -, tracked⟩ := held
  exact ⟨b, tracked⟩

/-- In the sessions of a run every session comes once. -/
theorem filter_eq_session {session : Date} (h : session ∈ c.sessions) :
    c.sessions.filter (fun s => s = session) = [session] := by
  have apart : c.sessions.Pairwise (· ≠ ·) := by
    refine c.sessions_pairwise.imp fun earlier => ?_
    rintro rfl
    exact Int.lt_irrefl _ earlier
  rw [List.filter_eq, List.Nodup.count apart, if_pos h, List.replicate_one]

/-- The fate of every order of a successful run. Its transactions are told by the policy, the closes of its
symbol, and whether the script cancelled it; each is booked in its own session. -/
theorem fills_of_placement {performance : Performance}
    (h : (c.run (.ofLines filename lines) seed).1 = .ok performance) :
    let records := c.records (.ofLines filename lines) seed
    let log := c.calls filename lines seed
    (∀ (i : Nat) (p : Placement), (placements log)[i]? = some p → p.answer = Int64.ofNat (i + 1) ∧
      (transactions records).filter (fun t => t.orderId = i + 1) =
        if p.amount = 0 ∨ i + 1 ∈ cancellations log then []
        else match c.policy with
          | .never =>
            ((firstQuote c.feeds.closes (c.sessions.filter fun s => p.session ≤ s) p.symbol).map
              fun (s, price) => ⟨i + 1, p.symbol, p.amount, price, s⟩).toList
          | .endOfDay =>
            ((c.feeds.closes p.session p.symbol).map
              fun price => ⟨i + 1, p.symbol, p.amount, price, p.session⟩).toList) ∧
    (∀ r ∈ records, ∀ t ∈ r.fills, t.session = r.session) ∧
    ∀ t ∈ transactions records, ∃ i < (placements log).length, t.orderId = i + 1 := by
  intro records log
  obtain ⟨b, tracked⟩ := tracked_run h
  refine ⟨fun i p hp => ?_, tracked.dated, ?_⟩
  · obtain ⟨answer, status, -, fate⟩ := tracked.orders i p hp
    refine ⟨answer, ?_⟩
    have own := fate.transactions_eq
    have all : records.map (·.session) = c.sessions := (rows_of_run h).2
    rw [all] at own
    have here : p.session ∈ c.sessions := by
      obtain ⟨x, hx, mark⟩ := exists_mark_of_placements hp
      exact mark ▸ mark_mem_sessions h hx
    rw [own]
    by_cases cancelled : i + 1 ∈ cancellations log
    · simp [log, cancelled]
    by_cases zero : p.amount = 0
    · simp [log, cancelled, zero, Order.due?, Placement.order]
    have alive : ¬(p.amount = 0 ∨ i + 1 ∈ cancellations log) := by simp [zero, cancelled]
    have wanted : ¬(p.order (i + 1) status).amount = 0 := zero
    rw [if_neg cancelled, if_neg alive, Order.due?, if_neg wanted]
    cases c.policy with
    | never => rfl
    | endOfDay =>
      have once : CancelPolicy.endOfDay.eligible (p.order (i + 1) status).created c.sessions =
          [p.session] := filter_eq_session here
      rw [once]
      simp only [firstQuote, Placement.order, List.findSome?_cons, List.findSome?_nil]
      cases c.feeds.closes p.session p.symbol <;> rfl
  · rw [← tracked.length]
    exact tracked.filled

/-- An order of a session without a close is filled in the next, where there is one. -/
theorem fills_of_placement_next_session :
    let c := ofDays ⟨738004⟩ ⟨738005⟩ .never fun d => if d = ⟨738004⟩ then none else some 1.0
    let lines := orderDaily "A" 2
    ∃ performance, (c.run (.ofLines "strategy" lines) .empty).1 = .ok performance ∧
      (transactions (c.records (.ofLines "strategy" lines) .empty)).filter (fun t => t.orderId = 1) =
        [⟨1, "A", 2, 1.0, ⟨738005⟩⟩] := by
  intro c lines
  obtain ⟨performance, ok⟩ :
      ∃ performance, (c.run (.ofLines "strategy" lines) .empty).1 = .ok performance :=
    exists_of_isOk (by decide +kernel)
  have placed :
      (placements (c.calls "strategy" lines .empty))[0]? = some ⟨⟨738004⟩, "A", 2, 1⟩ := by
    decide +kernel
  have kept : cancellations (c.calls "strategy" lines .empty) = [] := by decide +kernel
  have fate := ((fills_of_placement ok).1 0 _ placed).2
  rw [kept, if_neg (by simp)] at fate
  exact ⟨performance, ok, fate⟩

end Scenario

end Backtest.Simulation
