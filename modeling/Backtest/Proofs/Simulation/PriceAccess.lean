import Backtest.Simulation.Simulator

/-!
# Ways to read a price

A script reads prices of the present session, histories of the last sessions, and pipeline columns. All
three show a day's value as it is seen from the session: adjusted by what has taken effect since. Seen from
its own day a value is raw, a longer history goes on with a shorter one, and the columns of the pipeline's
rows are histories.
-/

namespace Backtest.Market

open Backtest.Calendar (Date)

/-- Nothing stands between a day and itself. -/
theorem adjust_self (raw : Float) (field : PriceField) (session : Date) (adjustments : List Adjustment) :
    adjust raw field session session adjustments = raw := by
  have none : adjustments.filter (·.between session session) = [] := by
    rw [List.filter_eq_nil_iff]
    intro a _ between
    simp only [Adjustment.between, Bool.and_eq_true, decide_eq_true_eq] at between
    exact Int.not_le.2 between.1.1 between.1.2
  rw [adjust, none, List.foldl_nil]

namespace PriceField

/-- The name of a field stands for it. -/
theorem ofName_name (field : PriceField) : ofName field.name = .ok field := by
  cases field <;> rfl

end PriceField

namespace Column

/-- The column of a field is of that field. -/
theorem field?_ofField (field : PriceField) : (ofField field).field? = some field := by
  simp [field?, ofField, PriceField.ofName_name, Except.toOption]

end Column

namespace Bundle

variable (b : Bundle) (symbol : String) (field : PriceField)

/-- The value of a field on a day, as it is seen from another day. -/
def seenFrom (asOf session : Date) : Option Float :=
  (b.daily.value symbol field session).map fun raw =>
    adjust raw field session asOf (b.adjustments symbol)

/-- Seen from its own session a value is the current one. -/
theorem seenFrom_self (session : Date) :
    b.seenFrom symbol field session session = b.current symbol field session := by
  simp [seenFrom, current, adjust_self]

variable {sessions : List Date} {asOf : Date}

/-- A history is the values of its sessions as seen from the last one. -/
theorem history_eq_seenFrom (last : sessions.getLast? = some asOf) :
    b.history symbol field sessions = sessions.map (b.seenFrom symbol field asOf) := by
  simp only [history, last]
  apply List.map_congr_left
  intro session _
  rw [seenFrom]
  cases b.daily.value symbol field session <;> rfl

/-- Rows are the values of their sessions as seen from the last one. -/
theorem rows_eq_seenFrom (last : sessions.getLast? = some asOf) (symbols : List String) :
    b.rows field sessions symbols =
      sessions.map fun session => symbols.map fun symbol => b.seenFrom symbol field asOf session := by
  simp only [rows, last, seenFrom]

/-- A history ends with the raw value of its last session. -/
theorem getLast?_history (last : sessions.getLast? = some asOf) :
    (b.history symbol field sessions).getLast? = some (b.current symbol field asOf) := by
  rw [b.history_eq_seenFrom symbol field last, List.getLast?_map, last, Option.map_some, seenFrom_self]

/-- Histories that end on the same session agree on the sessions that they share. -/
theorem history_suffix {shorter : List Date} (suffix : shorter <:+ sessions)
    (same : shorter.getLast? = sessions.getLast?) :
    b.history symbol field shorter <:+ b.history symbol field sessions := by
  cases last : sessions.getLast? with
  | none =>
    obtain rfl := List.getLast?_eq_none_iff.1 (same.trans last)
    obtain rfl := List.getLast?_eq_none_iff.1 last
    exact List.suffix_rfl
  | some asOf =>
    rw [b.history_eq_seenFrom symbol field last, b.history_eq_seenFrom symbol field (same.trans last)]
    exact suffix.map _

/-- Rows and columns: there is a row for each session and in it a value for each symbol, and what the rows
hold of a symbol is its history. -/
theorem rows_columns (sessions : List Date) (symbols : List String) :
    (b.rows field sessions symbols).length = sessions.length ∧
      (∀ row ∈ b.rows field sessions symbols, row.length = symbols.length) ∧
      ∀ (j : Nat) (hj : j < symbols.length),
        (b.rows field sessions symbols).map (·[j]?) =
          (b.history symbols[j] field sessions).map some := by
  cases last : sessions.getLast? with
  | none =>
    obtain rfl := List.getLast?_eq_none_iff.1 last
    exact ⟨rfl, by simp [rows], fun _ _ => rfl⟩
  | some asOf =>
    rw [b.rows_eq_seenFrom field last]
    refine ⟨List.length_map _, by simp, fun j hj => ?_⟩
    rw [b.history_eq_seenFrom _ field last, List.map_map, List.map_map]
    apply List.map_congr_left
    intro session _
    simp [List.getElem?_eq_getElem hj]

end Bundle

end Backtest.Market

namespace Backtest.Simulation

open Backtest.Calendar (Date)
open Backtest.Language (Value callFunction)
open Backtest.Market (BenchmarkReturns Bundle Column PriceField)

/-- A script's call of a trading function reaches it: no built-in function has its name. -/
theorem callFunction_trading (o : Outlook) (f : TradingFunction) (args : List Value) (s : TradingState) :
    callFunction (tradingHost o) f.name args s = f.apply o args s := by
  cases f <;> rfl

namespace Outlook

/-- How many sessions a window shows: those that are asked for, but at least one, and no more than there
are. -/
def span (o : Outlook) (count : Nat) : Nat :=
  min (max count 1) (o.index + 1)

variable (o : Outlook) (symbol : String) (field : PriceField)

/-- There are sessions up to the present one. -/
theorem length_sessions : o.sessions.length = o.index + 1 := by
  simp [sessions, index]

/-- A window is the end of the sessions so far. -/
theorem window_eq_drop (count : Nat) : o.window count = o.sessions.drop (o.index + 1 - o.span count) := by
  rw [window, length_sessions, span]
  congr 1
  omega

/-- A window is as long as its span. -/
theorem length_window (count : Nat) : (o.window count).length = o.span count := by
  rw [window_eq_drop, List.length_drop, length_sessions, span]
  omega

/-- Every window ends with the present session. -/
theorem getLast?_window (count : Nat) : (o.window count).getLast? = some o.session := by
  have shorter : o.index + 1 - o.span count < o.sessions.length := by
    rw [length_sessions, span]
    omega
  rw [window_eq_drop, List.getLast?_drop, if_neg (Nat.not_le.2 shorter), sessions,
    List.getLast?_append, List.getLast?_singleton, Option.some_or]

/-- A smaller window is the end of a greater one. -/
theorem window_suffix {fewer count : Nat} (le : fewer ≤ count) : o.window fewer <:+ o.window count := by
  have later : o.index + 1 - o.span count ≤ o.index + 1 - o.span fewer := by
    unfold span
    omega
  rw [window_eq_drop, window_eq_drop, ← Nat.add_sub_cancel' later, ← List.drop_drop]
  exact List.drop_suffix ..

/-- A history is what the window shows, as seen from the present session. -/
theorem history_eq (count : Nat) :
    o.history symbol field count =
      (o.window count).map (o.market.seenFrom symbol field o.session) :=
  o.market.history_eq_seenFrom symbol field (o.getLast?_window count)

/-- A shorter history is the end of a longer one. -/
theorem history_suffix {fewer count : Nat} (le : fewer ≤ count) :
    o.history symbol field fewer <:+ o.history symbol field count :=
  o.market.history_suffix symbol field (o.window_suffix le)
    ((o.getLast?_window fewer).trans (o.getLast?_window count).symm)

/-- The last entry of a history is the present price. -/
theorem getLast?_history (count : Nat) :
    (o.history symbol field count).getLast? = some (o.price symbol field) :=
  o.market.getLast?_history symbol field (o.getLast?_window count)

/-- The pipeline's value of a pricing column is the raw value, whatever window is loaded. -/
theorem pipelineValue_ofField (count : Nat) :
    o.pipelineValue (.ofField field) symbol count = .ok (o.columns.current symbol field o.session) := by
  have last := o.getLast?_window count
  rw [pipelineValue, pipeline, Bundle.loadColumn, Column.field?_ofField]
  simp only [o.columns.rows_eq_seenFrom field last, Except.map, List.getLast?_map, last,
    Option.map_some, Option.bind_some, List.map_cons, List.head?_cons, Option.join_some,
    Bundle.seenFrom_self]

end Outlook

section Calls

variable (o : Outlook) (symbol : String) (field : PriceField) (s : TradingState)

/-- The name of a field is taken as that field. -/
theorem fieldArgument_name (function : String) :
    fieldArgument function (.str field.name) = .ok field := by
  cases field <;> rfl

/-- A script is told the present price. -/
theorem call_price :
    callFunction (tradingHost o) "price" [.str symbol, .str field.name] s =
      (.ok (priceValue (o.price symbol field)), s) := by
  refine (callFunction_trading o .price _ s).trans ?_
  simp only [TradingFunction.apply, TradingFunction.look, symbolArgument, fieldArgument_name]
  rfl

/-- A script is told the history of as many sessions as it asks for. -/
theorem call_history (count : Int64) :
    callFunction (tradingHost o) "history" [.str symbol, .str field.name, .int count] s =
      (.ok (.list ((o.history symbol field count.toInt.toNat).map priceValue)), s) := by
  refine (callFunction_trading o .history _ s).trans ?_
  simp only [TradingFunction.apply, TradingFunction.look, symbolArgument, intArgument,
    fieldArgument_name]
  rfl

/-- A script is told the current value of a column. -/
theorem call_pipeline (count : Int64) :
    callFunction (tradingHost o) "pipeline"
        [.str ("EquityPricing." ++ field.name), .str symbol, .int count] s =
      (.ok (priceValue (o.columns.current symbol field o.session)), s) := by
  refine (callFunction_trading o .pipeline _ s).trans ?_
  have arguments : TradingFunction.pipelineArguments
      [.str ("EquityPricing." ++ field.name), .str symbol, .int count] =
        .ok (.ofField field, symbol, count.toInt.toNat) := by
    cases field <;> rfl
  simp only [TradingFunction.apply, TradingFunction.runPipeline, arguments,
    o.pipelineValue_ofField symbol field]

end Calls

/-- All the ways to read a price agree. In session `i` of a run whose prices and pipeline columns come from
one bundle, a script's history shows the last sessions of the run up to and including its own, at least one
and at most all of them. A longer history ends with a shorter one, and every history ends with the price and
with the value of the pricing column. Whatever sessions and symbols are asked for, the columns of the
pipeline's rows are the histories of the symbols. -/
theorem price_reads_agree (bundle : Bundle) (benchmark : BenchmarkReturns) (sessions : List Date)
    (i : Nat) (here : i < sessions.length) {σ : Type} (b : Books σ) (s : TradingState)
    (symbol : String) (field : PriceField) {n m : Int64} (le : n ≤ m) :
    let o := b.outlook ⟨bundle, bundle, benchmark⟩ (sessions.take i) sessions[i]
    let call (function : String) (args : List Value) := callFunction (tradingHost o) function args s
    let size (count : Int64) : Nat := min (max count.toInt 1).toNat (i + 1)
    let values (count : Int64) : List (Option Float) :=
      ((sessions.take (i + 1)).drop (i + 1 - size count)).map (bundle.seenFrom symbol field sessions[i])
    let price := bundle.current symbol field sessions[i]
    (∀ count, call "history" [.str symbol, .str field.name, .int count] =
        (.ok (.list ((values count).map priceValue)), s) ∧ (values count).length = size count) ∧
      values n <:+ values m ∧
      (values n).getLast? = some price ∧
      call "price" [.str symbol, .str field.name] = (.ok (priceValue price), s) ∧
      call "pipeline" [.str ("EquityPricing." ++ field.name), .str symbol, .int n] =
        (.ok (priceValue price), s) ∧
      ∀ (days : List Date) (symbols : List String), ∃ rows,
        bundle.loadColumn (.ofField field) days symbols = .ok rows ∧ rows.length = days.length ∧
          (∀ row ∈ rows, row.length = symbols.length) ∧
          ∀ (j : Nat) (hj : j < symbols.length),
            rows.map (·[j]?) = (bundle.history symbols[j] field days).map some := by
  intro o call size values price
  have index : o.index = i := by simp [o, Outlook.index, Books.outlook, Nat.le_of_lt here]
  have run : o.sessions = sessions.take (i + 1) := List.take_append_getElem here
  have span (count : Int64) : o.span count.toInt.toNat = size count := by
    simp only [Outlook.span, index, size]
    omega
  have history (count : Int64) : o.history symbol field count.toInt.toNat = values count := by
    rw [o.history_eq, o.window_eq_drop, span, run, index]
    rfl
  have fewer : n.toInt.toNat ≤ m.toInt.toNat := Int.toNat_le_toNat (Int64.le_iff_toInt_le.1 le)
  refine ⟨fun count => ⟨?_, ?_⟩, ?_, ?_, call_price o symbol field s, call_pipeline o symbol field s n,
    fun days symbols => ⟨_, ?_, bundle.rows_columns field days symbols⟩⟩
  · rw [← history]
    exact call_history o symbol field s count
  · rw [← history, o.history_eq, List.length_map, o.length_window, span]
  · rw [← history, ← history]
    exact o.history_suffix symbol field fewer
  · rw [← history]
    exact o.getLast?_history symbol field _
  · rw [Bundle.loadColumn, Column.field?_ofField]

/-- In the second session, on which a split takes effect, a count below one shows the session alone, and a
count beyond the run shows the first session halved. -/
theorem price_reads_agree_across_split :
    let sessions : List Date := [⟨738004⟩, ⟨738005⟩, ⟨738006⟩]
    let bars : String → PriceField → Date → Option Float :=
      fun _ _ d => some (if d = ⟨738004⟩ then 100.0 else 51.0)
    let bundle : Bundle :=
      ⟨[], fun _ => none, ⟨bars, none⟩, none, fun symbol => [⟨symbol, ⟨738005⟩, 0.5⟩]⟩
    let b : Books Unit := .new [.cash] .never 100.0 ()
    let s : TradingState := ⟨.new b.blotter, none⟩
    let o := b.outlook ⟨bundle, bundle, .empty⟩ (sessions.take 1) ⟨738005⟩
    let call (function : String) (args : List Value) := callFunction (tradingHost o) function args s
    (-3 : Int64) ≤ 5 ∧
      call "history" [.str "A", .str "close", .int (-3)] = (.ok (.list [.float 51.0]), s) ∧
      call "history" [.str "A", .str "close", .int 5] = (.ok (.list [.float 50.0, .float 51.0]), s) ∧
      call "price" [.str "A", .str "close"] = (.ok (.float 51.0), s) ∧
      call "pipeline" [.str "EquityPricing.close", .str "A", .int (-3)] = (.ok (.float 51.0), s) := by
  intro sessions bars bundle b s o call
  have le : (-3 : Int64) ≤ 5 := by decide
  obtain ⟨histories, -, -, price, pipeline, -⟩ :=
    price_reads_agree bundle .empty sessions 1 (by decide) b s "A" .close le
  have halved : bundle.seenFrom "A" .close ⟨738005⟩ ⟨738004⟩ = some 50.0 := by decide +kernel
  have raw : bundle.seenFrom "A" .close ⟨738005⟩ ⟨738005⟩ = some 51.0 := by decide +kernel
  refine ⟨le, (histories (-3)).1.trans ?_, (histories 5).1.trans ?_, price, pipeline⟩
  · change (Except.ok (Value.list ([bundle.seenFrom "A" .close ⟨738005⟩ ⟨738005⟩].map priceValue)), s) = _
    rw [raw]
    rfl
  · change (Except.ok (Value.list ([bundle.seenFrom "A" .close ⟨738005⟩ ⟨738004⟩,
      bundle.seenFrom "A" .close ⟨738005⟩ ⟨738005⟩].map priceValue)), s) = _
    rw [halved, raw]
    rfl

end Backtest.Simulation
