import Backtest.Trading.Blotter

/-!
# The fate of an order

What becomes of one order while sessions close. It waits until its symbol is quoted in a session in which
it may be filled, unless it is cancelled before. Every operation on a blotter treats its orders one by one,
so that the fate of each can be followed on its own.
-/

namespace Backtest.Trading

open Backtest.Calendar (Date)

/-- The sessions in which an order may be filled: those from its own on, or its own alone. -/
def CancelPolicy.eligible (policy : CancelPolicy) (created : Date) (sessions : List Date) : List Date :=
  match policy with
  | .never => sessions.filter fun s => created ≤ s
  | .endOfDay => sessions.filter fun s => s = created

/-- The first of some sessions in which a symbol is quoted, with its price. -/
def firstQuote (closes : Date → Quotes) (sessions : List Date) (symbol : String) :
    Option (Date × Float) :=
  sessions.findSome? fun s => (closes s symbol).map (s, ·)

namespace Order

/-- The transaction that fills an order. -/
def fillAt (o : Order) (fill : Date × Float) : Transaction :=
  ⟨o.id, o.symbol, o.amount, fill.2, fill.1⟩

/-- When and at which price an order is filled in some sessions, if nobody cancels it. -/
def due? (closes : Date → Quotes) (policy : CancelPolicy) (sessions : List Date) (o : Order) :
    Option (Date × Float) :=
  if o.amount = 0 then none else firstQuote closes (policy.eligible o.created sessions) o.symbol

/-- The transaction of an order at the close of a session, if it is filled. -/
def fills (o : Order) (session : Date) (quotes : Quotes) : List Transaction :=
  ((o.fillPrice? quotes).map fun price => o.fillAt (session, price)).toList

/-- The order after the close of a session. -/
def close (policy : CancelPolicy) (quotes : Quotes) (o : Order) : Order :=
  if (o.fillPrice? quotes).isSome then { o with status := .filled }
  else if policy = .endOfDay ∧ o.isOpen then { o with status := .cancelled }
  else o

/-- The transactions of an order carry its number. -/
theorem orderId_of_mem_fills {o : Order} {session : Date} {quotes : Quotes} {t : Transaction}
    (h : t ∈ o.fills session quotes) : t.orderId = o.id := by
  obtain ⟨price, -, rfl⟩ := Option.map_eq_some_iff.1 (Option.mem_toList.1 h)
  rfl

/-- The close of a session changes nothing of an order but its status. -/
theorem close_eq (policy : CancelPolicy) (quotes : Quotes) (o : Order) :
    o.close policy quotes = { o with status := (o.close policy quotes).status } := by
  unfold close
  split
  · rfl
  · split <;> rfl

end Order

/-- What has become of an order when some sessions have closed, given whether it was cancelled, and its
transactions. -/
inductive Fate (closes : Date → Quotes) (policy : CancelPolicy) (closed : List Date) (cancelled : Prop)
    (o : Order) : List Transaction → Prop where
  | waiting (status : o.status = .opened) (kept : ¬cancelled) (due : o.due? closes policy closed = none)
      (today : policy = .endOfDay → o.created ∉ closed) : Fate closes policy closed cancelled o []
  | filled (fill : Date × Float) (status : o.status = .filled) (kept : ¬cancelled)
      (due : o.due? closes policy closed = some fill) :
      Fate closes policy closed cancelled o [o.fillAt fill]
  | cancelled (status : o.status = .cancelled) (given : cancelled) :
      Fate closes policy closed cancelled o []
  | expired (status : o.status = .cancelled) (kept : ¬cancelled) (endOfDay : policy = .endOfDay)
      (past : o.created ∈ closed) (due : o.due? closes policy closed = none) :
      Fate closes policy closed cancelled o []

section Fate

variable {closes : Date → Quotes} {policy : CancelPolicy} {closed : List Date} {session : Date}
  {cancelled : Prop} {o : Order} {own : List Transaction}

namespace Order

/-- A later session matters if the order may be filled in it. -/
theorem due?_append (o : Order) (later : List Date) :
    o.due? closes policy (closed ++ later) =
      (o.due? closes policy closed).or (o.due? closes policy later) := by
  unfold due?
  by_cases zero : o.amount = 0
  · simp [zero]
  · cases policy <;> simp [zero, firstQuote, CancelPolicy.eligible, List.findSome?_append]

/-- In a session in which an open order may be filled, it is filled at the quote. -/
theorem due?_singleton (status : o.status = .opened)
    (eligible : policy.eligible o.created [session] = [session]) :
    o.due? closes policy [session] = (o.fillPrice? (closes session)).map (session, ·) := by
  unfold due? fillPrice? isOpen
  by_cases zero : o.amount = 0
  · simp [zero]
  · simp [zero, status, eligible, firstQuote, List.findSome?_cons]
    cases closes session o.symbol <;> rfl

/-- What is not open is left alone at the close. -/
theorem close_of_not_open (o : Order) (policy : CancelPolicy) (session : Date) (quotes : Quotes)
    (h : o.status ≠ .opened) :
    o.close policy quotes = o ∧ o.fills session quotes = [] := by
  have unfilled : o.fillPrice? quotes = none := by simp [fillPrice?, isOpen, h]
  exact ⟨by simp [close, unfilled, isOpen, h], by simp [fills, unfilled]⟩

end Order

namespace Fate

/-- A new order waits. -/
theorem place (status : o.status = .opened) (kept : ¬cancelled) (later : ∀ s ∈ closed, s < o.created) :
    Fate closes policy closed cancelled o [] := by
  have unseen : o.created ∉ closed := fun h => Int.lt_irrefl _ (later _ h)
  have none : policy.eligible o.created closed = [] := by
    cases policy with
    | never =>
      refine List.filter_eq_nil_iff.2 fun s hs early => ?_
      exact Int.not_le.2 (later s hs) (of_decide_eq_true early)
    | endOfDay =>
      refine List.filter_eq_nil_iff.2 fun s hs own => ?_
      exact unseen (of_decide_eq_true own ▸ hs)
  exact .waiting status kept (by simp [Order.due?, none, firstQuote]) fun _ => unseen

/-- An open order that is cancelled never has a transaction. -/
theorem cancel (fate : Fate closes policy closed cancelled o own) (status : o.status = .opened)
    {given : Prop} (h : given) : Fate closes policy closed given { o with status := .cancelled } own := by
  cases fate with
  | waiting => exact .cancelled rfl h
  | filled _ other => simp [status] at other
  | cancelled other => simp [status] at other
  | expired other => simp [status] at other

/-- The transactions of an order are told by its fate. -/
theorem transactions_eq [Decidable cancelled] (fate : Fate closes policy closed cancelled o own) :
    own = if cancelled then [] else ((o.due? closes policy closed).map o.fillAt).toList := by
  cases fate with
  | waiting _ kept due => simp [kept, due]
  | filled fill _ kept due => simp [kept, due]
  | cancelled _ given => simp [given]
  | expired _ kept _ _ due => simp [kept, due]

/-- An open order of a session that closes may be filled in it, under either policy. -/
theorem eligible_singleton (later : ∀ s ∈ closed, s < session)
    (created : o.created ∈ closed ++ [session]) (today : policy = .endOfDay → o.created ∉ closed) :
    policy.eligible o.created [session] = [session] := by
  cases policy with
  | never =>
    have : o.created ≤ session := by
      rcases List.mem_append.1 created with h | h
      · exact Int.le_of_lt (later _ h)
      · exact List.mem_singleton.1 h ▸ Int.le_refl _
    simp [CancelPolicy.eligible, this]
  | endOfDay =>
    have : session = o.created := by simpa [today rfl, eq_comm] using created
    simp [CancelPolicy.eligible, this]

/-- An order that waits is filled, or waits on, or expires. -/
theorem close_of_waiting (status : o.status = .opened) (kept : ¬cancelled)
    (created : o.created ∈ closed ++ [session])
    (total : o.due? closes policy (closed ++ [session]) =
      (o.fillPrice? (closes session)).map (session, ·)) :
    Fate closes policy (closed ++ [session]) cancelled (o.close policy (closes session))
      (o.fills session (closes session)) := by
  cases price : o.fillPrice? (closes session) with
  | some x =>
    rw [price] at total
    have closing : o.close policy (closes session) = { o with status := .filled } := by
      simp [Order.close, price]
    rw [closing, Order.fills, price]
    exact .filled (session, x) rfl kept total
  | none =>
    rw [price] at total
    cases policy with
    | never =>
      have closing : o.close .never (closes session) = o := by simp [Order.close, price]
      rw [closing, Order.fills, price]
      exact .waiting status kept total (by simp)
    | endOfDay =>
      have closing : o.close .endOfDay (closes session) = { o with status := .cancelled } := by
        simp [Order.close, price, Order.isOpen, status]
      rw [closing, Order.fills, price]
      exact .expired rfl kept rfl created total

/-- At the close of a session an order has the fate of that session. -/
theorem close (fate : Fate closes policy closed cancelled o own)
    (later : ∀ s ∈ closed, s < session) (created : o.created ∈ closed ++ [session]) :
    Fate closes policy (closed ++ [session]) cancelled (o.close policy (closes session))
      (own ++ o.fills session (closes session)) := by
  cases fate with
  | waiting status kept due today =>
    have eligible := eligible_singleton later created today
    rw [List.nil_append]
    refine close_of_waiting status kept created ?_
    rw [o.due?_append, due, Option.none_or, Order.due?_singleton status eligible]
  | filled fill status kept due =>
    obtain ⟨same, unfilled⟩ := o.close_of_not_open policy session (closes session) (by simp [status])
    rw [same, unfilled, List.append_nil]
    exact .filled fill status kept (by rw [o.due?_append, due, Option.some_or])
  | cancelled status given =>
    obtain ⟨same, unfilled⟩ := o.close_of_not_open policy session (closes session) (by simp [status])
    rw [same, unfilled, List.append_nil]
    exact .cancelled status given
  | expired status kept endOfDay past due =>
    obtain ⟨same, unfilled⟩ := o.close_of_not_open policy session (closes session) (by simp [status])
    have unseen : o.due? closes policy [session] = none := by
      have : session ≠ o.created := fun h => Int.lt_irrefl _ (h ▸ later _ past)
      subst endOfDay
      simp [Order.due?, CancelPolicy.eligible, this, firstQuote]
    rw [same, unfilled, List.append_nil]
    exact .expired status kept endOfDay created (by rw [o.due?_append, due, unseen, Option.none_or])

end Fate

end Fate

namespace Blotter

variable {b : Blotter}

/-- The close of a session treats the orders one by one. -/
theorem orders_close (quotes : Quotes) :
    (b.afterFills quotes).endOfSession.orders = b.orders.map (·.close b.policy quotes) := by
  unfold endOfSession afterFills
  cases b.policy with
  | never =>
    refine List.map_congr_left fun o _ => ?_
    simp [Order.close]
  | endOfDay =>
    rw [List.map_map]
    refine List.map_congr_left fun o _ => ?_
    cases price : o.fillPrice? quotes <;> simp [Order.close, price, Order.isOpen]

/-- The close of a session leaves the policy as it is. -/
theorem policy_close (quotes : Quotes) : (b.afterFills quotes).endOfSession.policy = b.policy := by
  unfold endOfSession afterFills
  cases b.policy <;> rfl

/-- The close of a session leaves the next number as it is. -/
theorem nextId_close (quotes : Quotes) : (b.afterFills quotes).endOfSession.nextId = b.nextId := by
  unfold endOfSession afterFills
  cases b.policy <;> rfl

/-- Transactions are of the session that closes. -/
theorem session_of_mem_fills {session : Date} {quotes : Quotes} {t : Transaction}
    (h : t ∈ b.fills session quotes) : t.session = session := by
  obtain ⟨o, -, ho⟩ := List.mem_filterMap.1 h
  obtain ⟨price, -, rfl⟩ := Option.map_eq_some_iff.1 ho
  rfl

/-- The orders of a blotter carry their numbers, counted from one, and the next number is the one after
them. -/
structure Numbered (b : Blotter) : Prop where
  ids : ∀ i o, b.orders[i]? = some o → o.id = i + 1
  next : b.nextId = b.orders.length + 1

/-- Numbers grow with the orders, so no two orders share one. -/
theorem Numbered.pairwise_id (numbered : b.Numbered) : b.orders.Pairwise fun o p => o.id < p.id := by
  refine List.pairwise_iff_getElem.2 fun i j hi hj before => ?_
  rw [numbered.ids i _ (List.getElem?_eq_getElem hi), numbered.ids j _ (List.getElem?_eq_getElem hj)]
  exact Nat.succ_lt_succ before

/-- The transactions of a blotter are those of its orders in turn. -/
theorem fills_eq_flatMap (b : Blotter) (session : Date) (quotes : Quotes) :
    b.fills session quotes = b.orders.flatMap (·.fills session quotes) := by
  unfold fills
  induction b.orders with
  | nil => rfl
  | cons o orders ih =>
    rw [List.filterMap_cons, List.flatMap_cons, ← ih]
    unfold Order.fills
    cases o.fillPrice? quotes <;> rfl

/-- The transactions of an order with a number are all of them or none. -/
theorem filter_fills_order (o : Order) (session : Date) (quotes : Quotes) (n : Nat) :
    ((o.fills session quotes).filter fun t => t.orderId = n) =
      if o.id = n then o.fills session quotes else [] := by
  unfold Order.fills
  cases o.fillPrice? quotes with
  | none => simp
  | some price => by_cases hn : o.id = n <;> simp [hn, Order.fillAt]

/-- Of orders that are numbered from some number on, the transactions with a number are those of the order
with it. -/
theorem filter_fills_from (orders : List Order) (first : Nat)
    (numbered : ∀ i o, orders[i]? = some o → o.id = first + i) (session : Date) (quotes : Quotes)
    {i : Nat} {o : Order} (h : orders[i]? = some o) :
    ((orders.flatMap (·.fills session quotes)).filter fun t => t.orderId = first + i) =
      o.fills session quotes := by
  induction orders generalizing first i with
  | nil => simp at h
  | cons head tail ih =>
    have here : head.id = first := numbered 0 head rfl
    have rest : ∀ j p, tail[j]? = some p → p.id = first + 1 + j := by
      intro j p hp
      rw [numbered (j + 1) p hp]
      omega
    rw [List.flatMap_cons, List.filter_append, filter_fills_order]
    cases i with
    | zero =>
      obtain rfl : head = o := by simpa using h
      have others :
          (tail.flatMap (·.fills session quotes)).filter (fun t => t.orderId = first + 0) = [] := by
        refine List.filter_eq_nil_iff.2 fun t ht same => ?_
        obtain ⟨p, hp, ht⟩ := List.mem_flatMap.1 ht
        obtain ⟨j, hj⟩ := List.mem_iff_getElem?.1 hp
        have own := rest j p hj
        have : t.orderId = p.id := Order.orderId_of_mem_fills ht
        have same := of_decide_eq_true same
        omega
      rw [others, List.append_nil, Nat.add_zero, if_pos here]
    | succ j =>
      have later := ih (first + 1) rest (by simpa using h)
      rw [if_neg (by omega), List.nil_append, ← later]
      simp only [Nat.add_assoc, Nat.add_comm 1]

/-- The transactions with the number of an order are those of that order. -/
theorem Numbered.filter_fills (numbered : b.Numbered) (session : Date) (quotes : Quotes) {i : Nat}
    {o : Order} (h : b.orders[i]? = some o) :
    (b.fills session quotes).filter (fun t => t.orderId = i + 1) = o.fills session quotes := by
  have fromOne := filter_fills_from b.orders 1
    (fun j p hp => by rw [numbered.ids j p hp, Nat.add_comm]) session quotes h
  rw [fills_eq_flatMap, Nat.add_comm]
  exact fromOne

/-- Every transaction carries the number of an order. -/
theorem Numbered.orderId_of_mem_fills (numbered : b.Numbered) {session : Date} {quotes : Quotes}
    {t : Transaction} (h : t ∈ b.fills session quotes) : ∃ i < b.orders.length, t.orderId = i + 1 := by
  rw [fills_eq_flatMap] at h
  obtain ⟨o, ho, ht⟩ := List.mem_flatMap.1 h
  obtain ⟨i, hi⟩ := List.mem_iff_getElem?.1 ho
  exact ⟨i, (List.getElem?_eq_some_iff.1 hi).1,
    (Order.orderId_of_mem_fills ht).trans (numbered.ids i o hi)⟩

/-- A number that can be cancelled is that of an open order. -/
theorem canCancel_iff {id : Nat} : b.canCancel id ↔ ∃ o ∈ b.orders, o.id = id ∧ o.status = .opened := by
  simp [canCancel, Order.isOpen]

/-- A number can be cancelled if it is that of an open order in its place. -/
theorem Numbered.canCancel_iff (numbered : b.Numbered) (id : Nat) :
    b.canCancel id ↔ ∃ i o, id = i + 1 ∧ b.orders[i]? = some o ∧ o.status = .opened := by
  rw [Blotter.canCancel_iff]
  constructor
  · rintro ⟨o, ho, number, status⟩
    obtain ⟨i, hi⟩ := List.mem_iff_getElem?.1 ho
    exact ⟨i, o, by rw [← number, numbered.ids i o hi], hi, status⟩
  · rintro ⟨i, o, rfl, hi, status⟩
    exact ⟨o, List.mem_of_getElem? hi, numbered.ids i o hi, status⟩

/-- A change of the first element with a property is one of all that have it, if no two do. -/
theorem modify_findIdx {α : Type} {p : α → Bool} (f : α → α) {l : List α}
    (apart : l.Pairwise fun x y => p x → ¬p y) :
    l.modify (l.findIdx p) f = l.map fun x => if p x then f x else x := by
  induction apart with
  | nil => rfl
  | @cons x rest others _ ih =>
    rw [List.findIdx_cons, List.map_cons]
    cases found : p x with
    | false =>
      simp only [cond_false, List.modify_succ_cons, ih]
      rfl
    | true =>
      have same : rest.map (fun y => if p y then f y else y) = rest :=
        (List.map_congr_left fun y hy => if_neg (others y hy found)).trans (List.map_id' rest)
      rw [same]
      rfl

/-- The first open order with a number is the only one. -/
theorem Numbered.orders_cancel (numbered : b.Numbered) (id : Nat) : (b.cancel id).orders =
    b.orders.map fun o => if o.id == id && o.isOpen then { o with status := .cancelled } else o := by
  refine modify_findIdx (fun o : Order => { o with status := .cancelled }) (numbered.pairwise_id.imp ?_)
  intro o p before first second
  simp only [Bool.and_eq_true, beq_iff_eq] at first second
  omega

/-- Cancelling concerns the open order with the number. -/
theorem Numbered.getElem?_cancel (numbered : b.Numbered) (id : Nat) {i : Nat} {o : Order}
    (h : b.orders[i]? = some o) :
    (b.cancel id).orders[i]? =
      some (if id = i + 1 ∧ o.status = .opened then { o with status := .cancelled } else o) := by
  have own := numbered.ids i o h
  rw [numbered.orders_cancel, List.getElem?_map, h]
  by_cases asked : id = i + 1
  · cases status : o.status <;> simp [Order.isOpen, own, asked, status]
  · have other : ¬o.id = id := by omega
    simp [asked, other]

end Blotter

end Backtest.Trading
