import Backtest.Trading.Ledger

/-!
# Positions as nets

A ledger that books transactions one by one holds, of each symbol, the sum of their amounts: it has a
position exactly when that sum is not zero, whatever positions came and went on the way.
-/

namespace Backtest.Trading

/-- What the transactions in a symbol come to. -/
def net (symbol : String) : List Transaction → Int
  | [] => 0
  | t :: ts => (if t.symbol = symbol then t.amount else 0) + net symbol ts

/-- The net amounts of two runs of transactions add up. -/
theorem net_append (symbol : String) (ts us : List Transaction) :
    net symbol (ts ++ us) = net symbol ts + net symbol us := by
  induction ts with
  | nil => simp [net]
  | cons t ts ih => rw [List.cons_append, net, net, ih, Int.add_assoc]

/-- One transaction nets its amount in its own symbol. -/
theorem net_singleton_self (t : Transaction) : net t.symbol [t] = t.amount := by
  simp [net]

/-- It nets nothing in others. -/
theorem net_singleton_of_ne {symbol : String} {t : Transaction} (h : t.symbol ≠ symbol) :
    net symbol [t] = 0 := by
  simp [net, h]

/-- A ledger holds the nets of transactions, each under its own symbol. -/
structure Ledger.Nets (l : Ledger) (ts : List Transaction) : Prop where
  flat : ∀ symbol, l.positions.get? symbol = none → net symbol ts = 0
  held : ∀ symbol p, l.positions.get? symbol = some p →
    p.symbol = symbol ∧ p.amount = net symbol ts ∧ net symbol ts ≠ 0

namespace Ledger

/-- A transaction changes the position in its own symbol. -/
theorem get?_trade_of_ne {l : Ledger} {t : Transaction} {symbol : String} (h : t.symbol ≠ symbol) :
    (l.trade t).positions.get? symbol = l.positions.get? symbol := by
  have hne : compare symbol t.symbol ≠ .eq := fun heq => h (Std.LawfulEqCmp.eq_of_compare heq).symm
  simp only [trade]
  split
  · simp [SortedMap.get?_insert, hne]
  · simp [SortedMap.get?_erase, hne]

/-- The position in the symbol of a transaction is that before, or a new one, after the transaction. -/
theorem get?_trade_self (l : Ledger) (t : Transaction) :
    (l.trade t).positions.get? t.symbol =
      ((l.positions.get? t.symbol).getD ⟨t.symbol, 0, 0.0, t.price⟩).trade? t := by
  simp only [trade]
  split
  · rename_i htrade
    simp [SortedMap.get?_insert, htrade]
  · rename_i htrade
    simp [SortedMap.get?_erase, htrade]

/-- A new ledger holds the net of no transactions. -/
theorem nets_new (capitalBase : Float) : (new capitalBase).Nets [] :=
  ⟨fun _ _ => rfl, fun _ _ h => by simp [new] at h⟩

namespace Nets

variable {l : Ledger} {ts : List Transaction}

/-- The amount that is held of a symbol is the net of its transactions. -/
theorem amountOf_eq (nets : l.Nets ts) (symbol : String) : l.amountOf symbol = net symbol ts := by
  unfold amountOf
  cases h : l.positions.get? symbol with
  | none => exact (nets.flat symbol h).symm
  | some p => exact (nets.held symbol p h).2.1

/-- There is a position if and only if that is not zero. -/
theorem isSome_get?_iff (nets : l.Nets ts) (symbol : String) :
    (l.positions.get? symbol).isSome ↔ net symbol ts ≠ 0 := by
  cases h : l.positions.get? symbol with
  | none => simp [nets.flat symbol h]
  | some p => simp [(nets.held symbol p h).2.2]

/-- Booking one more transaction. -/
theorem trade (nets : l.Nets ts) (t : Transaction) : (l.trade t).Nets (ts ++ [t]) := by
  have booked : ∀ symbol, t.symbol ≠ symbol → net symbol (ts ++ [t]) = net symbol ts := by
    intro symbol h
    rw [net_append, net_singleton_of_ne h, Int.add_zero]
  have total : ((l.positions.get? t.symbol).getD ⟨t.symbol, 0, 0.0, t.price⟩).amount + t.amount =
      net t.symbol (ts ++ [t]) := by
    rw [net_append, net_singleton_self, ← nets.amountOf_eq]
    unfold amountOf
    cases l.positions.get? t.symbol <;> rfl
  have own : ((l.positions.get? t.symbol).getD ⟨t.symbol, 0, 0.0, t.price⟩).symbol = t.symbol := by
    cases h : l.positions.get? t.symbol with
    | none => rfl
    | some p => exact (nets.held t.symbol p h).1
  constructor
  · intro symbol h
    by_cases hs : t.symbol = symbol
    · subst hs
      rw [get?_trade_self, Position.trade?] at h
      by_cases zero : net t.symbol (ts ++ [t]) = 0
      · exact zero
      · simp [total, zero] at h
    · rw [get?_trade_of_ne hs] at h
      rw [booked symbol hs, nets.flat symbol h]
  · intro symbol p h
    by_cases hs : t.symbol = symbol
    · subst hs
      rw [get?_trade_self, Position.trade?] at h
      by_cases zero : net t.symbol (ts ++ [t]) = 0
      · simp [total, zero] at h
      · simp only [total, zero, if_false, Option.some.injEq] at h
        subst h
        exact ⟨own, rfl, zero⟩
    · rw [get?_trade_of_ne hs] at h
      rw [booked symbol hs]
      exact nets.held symbol p h

/-- Booking a list of transactions. -/
theorem foldl_trade (nets : l.Nets ts) (us : List Transaction) :
    (us.foldl Ledger.trade l).Nets (ts ++ us) := by
  induction us generalizing l ts with
  | nil => simpa using nets
  | cons t us ih =>
    have := ih (nets.trade t)
    rwa [List.append_assoc] at this

end Nets

/-- Transactions in other symbols leave a position as it is. -/
theorem get?_foldl_trade {symbol : String} {ts : List Transaction}
    (h : ∀ t ∈ ts, t.symbol ≠ symbol) (l : Ledger) :
    (ts.foldl trade l).positions.get? symbol = l.positions.get? symbol := by
  induction ts generalizing l with
  | nil => rfl
  | cons t ts ih =>
    rw [List.foldl_cons, ih fun u hu => h u (List.mem_cons_of_mem _ hu),
      get?_trade_of_ne (h t List.mem_cons_self)]

/-- Marking sets the last price of what is quoted and nothing else. -/
theorem get?_mark (l : Ledger) (quotes : Quotes) (symbol : String) :
    (l.mark quotes).positions.get? symbol =
      (l.positions.get? symbol).map fun p =>
        match quotes p.symbol with
        | some price => { p with lastPrice := price }
        | none => p :=
  SortedMap.get?_mapValues ..

/-- Marking changes no amount. -/
theorem Nets.mark {l : Ledger} {ts : List Transaction} (nets : l.Nets ts) (quotes : Quotes) :
    (l.mark quotes).Nets ts := by
  constructor
  · intro symbol h
    rw [get?_mark, Option.map_eq_none_iff] at h
    exact nets.flat symbol h
  · intro symbol p h
    rw [get?_mark] at h
    obtain ⟨q, hq, rfl⟩ := Option.map_eq_some_iff.1 h
    have := nets.held symbol q hq
    split <;> exact this

end Ledger

end Backtest.Trading
