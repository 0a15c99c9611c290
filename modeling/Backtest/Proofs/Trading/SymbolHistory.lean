import Backtest.Proofs.LookUps
import Backtest.Proofs.Trading.NetPosition
import Mathlib.Algebra.Ring.Int.Defs

/-!
# Positions by symbol

The position that a ledger holds in a symbol is made by the transactions in that symbol, whatever is traded
between them (`get?_foldl_trade_eq`). Of those it remembers only what came after they last added up to nothing,
and of a position on one side nothing once it has changed to the other. Cost bases are computed in doubles, and
no law of their arithmetic is used.
-/

namespace Backtest.Trading

/-- The transactions in a symbol, in their order. -/
def tradesIn (symbol : String) (ts : List Transaction) : List Transaction :=
  ts.filter fun t => t.symbol = symbol

/-- A transaction is one of those in its symbol. -/
theorem tradesIn_cons_self (t : Transaction) (ts : List Transaction) :
    tradesIn t.symbol (t :: ts) = t :: tradesIn t.symbol ts := by
  simp [tradesIn]

/-- It is none of those in others. -/
theorem tradesIn_cons_of_ne {symbol : String} {t : Transaction} (h : t.symbol ≠ symbol)
    (ts : List Transaction) : tradesIn symbol (t :: ts) = tradesIn symbol ts := by
  simp [tradesIn, h]

/-- Transactions that are all in one symbol are those in it. -/
theorem tradesIn_of_forall {symbol : String} {ts : List Transaction} (own : ∀ t ∈ ts, t.symbol = symbol) :
    tradesIn symbol ts = ts :=
  List.filter_eq_self.2 fun t ht => decide_eq_true (own t ht)

/-- The transactions in a symbol are of that symbol. -/
theorem symbol_of_mem_tradesIn {symbol : String} {ts : List Transaction} {t : Transaction}
    (h : t ∈ tradesIn symbol ts) : t.symbol = symbol :=
  of_decide_eq_true (List.mem_filter.1 h).2

/-- Transactions that are all in one symbol come to the sum of their amounts there. -/
theorem net_of_forall {symbol : String} {ts : List Transaction} (own : ∀ t ∈ ts, t.symbol = symbol) :
    net symbol ts = (ts.map (·.amount)).sum := by
  induction ts with
  | nil => rfl
  | cons t ts ih =>
    rw [net, if_pos (own t List.mem_cons_self), ih fun u hu => own u (List.mem_cons_of_mem _ hu),
      List.map_cons, List.sum_cons]

/-- What a transaction in its symbol makes of a position, or of none. -/
def booked? (held : Option Position) (t : Transaction) : Option Position :=
  (held.getD ⟨t.symbol, 0, 0.0, t.price⟩).trade? t

/-- A transaction that takes a position to the other side leaves nothing of what was known of it but the
amount. -/
theorem trade?_of_turn {p : Position} {t : Transaction}
    (turn : 0 < p.amount ∧ p.amount + t.amount < 0 ∨ p.amount < 0 ∧ 0 < p.amount + t.amount) :
    p.trade? t = some ⟨p.symbol, p.amount + t.amount, t.price, t.price⟩ := by
  have left : p.amount + t.amount ≠ 0 := by omega
  have opposite : ¬(p.amount = 0 ∨ p.amount.sign = t.amount.sign) := by
    rcases turn with ⟨long, short⟩ | ⟨short, long⟩
    · rw [Int.sign_eq_one_of_pos long, Int.sign_eq_neg_one_of_neg (a := t.amount) (by omega)]
      omega
    · rw [Int.sign_eq_neg_one_of_neg short, Int.sign_eq_one_of_pos (a := t.amount) (by omega)]
      omega
  have turned : (p.amount + t.amount).sign ≠ p.amount.sign := by
    rcases turn with ⟨long, short⟩ | ⟨short, long⟩
    · rw [Int.sign_eq_neg_one_of_neg short, Int.sign_eq_one_of_pos long]
      decide
    · rw [Int.sign_eq_one_of_pos long, Int.sign_eq_neg_one_of_neg short]
      decide
  have basis : p.costBasisAfter t (p.amount + t.amount) = t.price := by
    rw [Position.costBasisAfter, if_neg opposite, if_pos turned]
  simp only [Position.trade?, if_neg left, basis]

namespace Ledger

variable {symbol : String} {closed before : List Transaction}

/-- A position is made by the transactions in its symbol, from what was held of it before. -/
theorem get?_foldl_trade_eq (symbol : String) (ts : List Transaction) (l : Ledger) :
    (ts.foldl trade l).positions.get? symbol =
      (tradesIn symbol ts).foldl booked? (l.positions.get? symbol) := by
  induction ts generalizing l with
  | nil => rfl
  | cons t ts ih =>
    rw [List.foldl_cons, ih]
    by_cases own : t.symbol = symbol
    · subst own
      rw [tradesIn_cons_self, List.foldl_cons, get?_trade_self, booked?]
    · rw [tradesIn_cons_of_ne own, get?_trade_of_ne own]

/-- The position that transactions leave in a new ledger. -/
theorem get?_foldl_trade_new (symbol : String) (ts : List Transaction) (capitalBase : Float) :
    (ts.foldl trade (new capitalBase)).positions.get? symbol = (tradesIn symbol ts).foldl booked? none :=
  get?_foldl_trade_eq symbol ts (new capitalBase)

/-- Transactions in one symbol that add up to nothing leave no position. -/
theorem foldl_booked?_of_closed (own : ∀ t ∈ closed, t.symbol = symbol)
    (nothing : (closed.map (·.amount)).sum = 0) : closed.foldl booked? none = none := by
  have nets := (nets_new 0.0).foldl_trade closed
  have flat := (nets.isSome_get?_iff symbol).not
  rw [List.nil_append, net_of_forall own, nothing, get?_foldl_trade_new, tradesIn_of_forall own] at flat
  simpa using flat

/-- Transactions in one symbol that do not add up to nothing leave a position of their sum. -/
theorem exists_foldl_booked? (own : ∀ t ∈ before, t.symbol = symbol)
    (something : (before.map (·.amount)).sum ≠ 0) :
    ∃ p, before.foldl booked? none = some p ∧ p.symbol = symbol ∧ p.amount = (before.map (·.amount)).sum := by
  have nets := (nets_new 0.0).foldl_trade before
  have some := (nets.isSome_get?_iff symbol).2
  rw [List.nil_append, net_of_forall own] at some
  obtain ⟨p, held⟩ := Option.isSome_iff_exists.1 (some something)
  obtain ⟨name, amount, -⟩ := nets.held symbol p held
  rw [List.nil_append, net_of_forall own] at amount
  rw [get?_foldl_trade_new, tradesIn_of_forall own] at held
  exact ⟨p, held, name, amount⟩

/-- Positions are independent by symbol and forget their closed history. A position depends only on the
transactions in its symbol, so that transactions may be interleaved in any way; what came before the
transactions in a symbol added up to nothing does not count; and a transaction that takes the amount from one
side to the other sets the cost basis and the last price to its own price. -/
theorem positions_by_symbol (capitalBase : Float) (ts : List Transaction) :
    let book (us : List Transaction) : Ledger := us.foldl trade (new capitalBase)
    (∀ symbol, (book ts).positions.get? symbol = (book (tradesIn symbol ts)).positions.get? symbol) ∧
    (∀ us, (∀ symbol, tradesIn symbol us = tradesIn symbol ts) → (book us).positions = (book ts).positions) ∧
    (∀ symbol closed rest, tradesIn symbol ts = closed ++ rest → (closed.map (·.amount)).sum = 0 →
      (book ts).positions.get? symbol = (book rest).positions.get? symbol) ∧
    ∀ symbol before t, before ++ [t] <+: tradesIn symbol ts →
      let held := (before.map (·.amount)).sum
      0 < held ∧ held + t.amount < 0 ∨ held < 0 ∧ 0 < held + t.amount →
      (book (before ++ [t])).positions.get? symbol = some ⟨symbol, held + t.amount, t.price, t.price⟩ := by
  intro book
  have made (us : List Transaction) (symbol : String) :
      (book us).positions.get? symbol = (tradesIn symbol us).foldl booked? none :=
    get?_foldl_trade_new symbol us capitalBase
  refine ⟨fun symbol => ?own, fun us same => ?interleaved, fun symbol closed rest split nothing => ?closed,
    ?turned⟩
  case own =>
    rw [made, made, tradesIn_of_forall fun t ht => symbol_of_mem_tradesIn ht]
  case interleaved =>
    refine SortedMap.ext_get? fun symbol => ?_
    rw [made, made, same]
  case closed =>
    have own (t : Transaction) (ht : t ∈ closed ++ rest) : t.symbol = symbol :=
      symbol_of_mem_tradesIn (split ▸ ht)
    rw [made, made, split, List.foldl_append,
      foldl_booked?_of_closed (fun t ht => own t (List.mem_append_left _ ht)) nothing,
      tradesIn_of_forall fun t ht => own t (List.mem_append_right _ ht)]
  case turned =>
    intro symbol before t first held turn
    have own (u : Transaction) (hu : u ∈ before ++ [t]) : u.symbol = symbol :=
      symbol_of_mem_tradesIn (first.subset hu)
    obtain ⟨p, before_eq, name, amount⟩ :=
      exists_foldl_booked? (fun u hu => own u (List.mem_append_left _ hu)) (by omega)
    rw [made, tradesIn_of_forall own, List.foldl_append, before_eq, List.foldl_cons, List.foldl_nil, booked?,
      Option.getD_some, trade?_of_turn (by rw [amount]; exact turn), name, amount]

/-- Shares of A are sold in full, then bought again and sold beyond what there is, with one of B bought
between: A is left as if only the last two trades had been made, and at the price of the last. -/
theorem positions_by_symbol_of_turn :
    let trade (symbol : String) (amount : Int) (price : Float) : Transaction :=
      ⟨1, symbol, amount, price, ⟨738004⟩⟩
    let book (us : List Transaction) : Ledger := us.foldl Ledger.trade (new 100.0)
    let closed := [trade "A" 5 10.0, trade "A" (-5) 11.0]
    let turned := [trade "A" 3 12.0, trade "A" (-7) 9.0]
    let ts := closed ++ trade "B" 1 2.0 :: turned
    (∀ symbol, tradesIn symbol (trade "B" 1 2.0 :: closed ++ turned) = tradesIn symbol ts) ∧
      tradesIn "A" ts = closed ++ turned ∧ (closed.map (·.amount)).sum = 0 ∧
      (book (trade "B" 1 2.0 :: closed ++ turned)).positions = (book ts).positions ∧
      (book ts).positions.get? "A" = (book turned).positions.get? "A" ∧
      (book turned).positions.get? "A" = some ⟨"A", -4, 9.0, 9.0⟩ := by
  intro trade book closed turned ts
  have same : ∀ symbol, tradesIn symbol (trade "B" 1 2.0 :: closed ++ turned) = tradesIn symbol ts := by
    intro symbol
    by_cases a : "A" = symbol <;> by_cases b : "B" = symbol <;>
      simp [tradesIn, ts, closed, turned, trade, a, b]
    exact absurd (a.trans b.symm) (by decide)
  obtain ⟨-, interleaved, forgotten, -⟩ := positions_by_symbol 100.0 ts
  have split : tradesIn "A" ts = closed ++ turned := rfl
  obtain ⟨-, -, -, turns⟩ := positions_by_symbol 100.0 turned
  exact ⟨same, split, rfl, interleaved _ same, forgotten "A" closed turned split rfl,
    turns "A" [trade "A" 3 12.0] (trade "A" (-7) 9.0) ⟨[], rfl⟩ (by decide)⟩

end Ledger

end Backtest.Trading
