import Backtest.Proofs.Simulation.CallLog
import Backtest.Proofs.Trading.NetPosition

/-!
# The ledger of a run

Whenever the metrics are recorded, the ledger holds of each symbol the net of all its transactions so far,
at the close of the latest session in which the symbol had one. A script that asks for a position is told
the net of the transactions of earlier sessions.
-/

namespace Backtest.Simulation

open Backtest.Calendar (Date)
open Backtest.Language (Bindings Call ScriptLine Value)
open Backtest.Trading (Blotter Ledger Transaction net)

/-- The close of a symbol in the latest of some sessions in which it has one. -/
def Feeds.lastClose (f : Feeds) (sessions : List Date) (symbol : String) : Option Float :=
  sessions.reverse.findSome? fun session => f.closes session symbol

/-- The last close is that of the last session if it has one, and else an earlier one. -/
theorem Feeds.lastClose_append_singleton (f : Feeds) (sessions : List Date) (session : Date)
    (symbol : String) :
    f.lastClose (sessions ++ [session]) symbol =
      (f.closes session symbol).or (f.lastClose sessions symbol) := by
  unfold lastClose
  rw [List.reverse_append, List.reverse_singleton, List.singleton_append, List.findSome?_cons]
  cases f.closes session symbol <;> rfl

/-- What a ledger holds when the sessions of some records have closed. -/
structure Accounts (f : Feeds) (records : List SessionRecord) (l : Ledger) : Prop where
  nets : l.Nets (transactions records)
  marked : ∀ symbol p, l.positions.get? symbol = some p →
    f.lastClose (records.map (·.session)) symbol = some p.lastPrice

/-- A new ledger accounts for no records. -/
theorem accounts_new (f : Feeds) (capitalBase : Float) : Accounts f [] (.new capitalBase) :=
  ⟨Ledger.nets_new capitalBase, fun _ _ h => by simp [Ledger.new] at h⟩

/-- Orders are filled at quotes only. -/
theorem quotes_of_mem_fills {b : Blotter} {session : Date} {quotes : Trading.Quotes} {t : Transaction}
    (h : t ∈ b.fills session quotes) : quotes t.symbol = some t.price := by
  obtain ⟨o, -, ho⟩ := List.mem_filterMap.1 h
  obtain ⟨price, hprice, rfl⟩ := Option.map_eq_some_iff.1 ho
  unfold Trading.Order.fillPrice? at hprice
  split at hprice
  · exact hprice
  · contradiction

/-- The close of a session keeps the accounts: what is quoted is marked at its close, and what is not quoted
is not traded. -/
theorem Accounts.close {f : Feeds} {records : List SessionRecord} {l : Ledger} {r : SessionRecord}
    {b : Blotter} (accounts : Accounts f records l)
    (fills : r.fills = b.fills r.session (f.closes r.session))
    (ledger : r.report.ledger = (r.fills.foldl Ledger.trade l).mark (f.closes r.session)) :
    Accounts f (records ++ [r]) r.report.ledger := by
  have nets := (accounts.nets.foldl_trade r.fills).mark (f.closes r.session)
  constructor
  · rw [ledger, transactions_append, transactions_singleton]
    exact nets
  · intro symbol p h
    rw [ledger, Ledger.get?_mark] at h
    obtain ⟨q, hq, rfl⟩ := Option.map_eq_some_iff.1 h
    have own := ((accounts.nets.foldl_trade r.fills).held symbol q hq).1
    rw [List.map_append, List.map_singleton, f.lastClose_append_singleton, own]
    cases hclose : f.closes r.session symbol with
    | some price => rfl
    | none =>
      have untraded : ∀ t ∈ r.fills, t.symbol ≠ symbol := by
        rintro t ht rfl
        rw [fills] at ht
        rw [quotes_of_mem_fills ht] at hclose
        contradiction
      rw [Ledger.get?_foldl_trade untraded] at hq
      exact accounts.marked symbol q hq

/-- A call for the position in a symbol is answered with the net of the transactions of earlier sessions. -/
def AnswersPosition (records : List SessionRecord) (x : Call Date) : Prop :=
  ∀ symbol, x.function = "position" → x.args = [.str symbol] →
    x.result = .ok (.int (Int64.ofInt
      (net symbol (transactions (records.filter fun r => decide (r.session < x.mark))))))

/-- A trading function that asks for a position reads the ledger. -/
theorem answersPosition_apply {f : Feeds} {records : List SessionRecord} {o : Outlook}
    (accounts : Accounts f records o.ledger) (earlier : ∀ r ∈ records, r.session < o.session)
    (g : TradingFunction) (args : List Value) (s : TradingState) :
    AnswersPosition records ⟨o.session, g.name, args, (g.apply o args s).1⟩ := by
  intro symbol hname hargs
  have position : g = .position := TradingFunction.name_inj.1 hname
  subst position
  have all : (records.filter fun r => decide (r.session < o.session)) = records :=
    List.filter_eq_self.2 fun r hr => decide_eq_true (earlier r hr)
  dsimp only at hargs ⊢
  rw [hargs, all, ← accounts.nets.amountOf_eq]
  rfl

namespace Scenario

/-- What holds of a run so far: of the ledger now, of the ledgers that were recorded, and of the answers to
the script. -/
structure Balanced (c : Scenario) (records : List SessionRecord) (l : Ledger) (log : List (Call Date)) :
    Prop where
  now : Accounts c.feeds records l
  recorded : ∀ r ∈ records,
    Accounts c.feeds (records.filter fun q => decide (q.session ≤ r.session)) r.report.ledger
  answers : ∀ x ∈ log, AnswersPosition records x

variable {c : Scenario} {done : List SessionRecord} {l : Ledger} {log : List (Call Date)}

/-- A call with a right answer keeps the balance. -/
theorem Balanced.call (balanced : Balanced c done l log) {x : Call Date}
    (answer : AnswersPosition done x) : Balanced c done l (log ++ [x]) where
  now := balanced.now
  recorded := balanced.recorded
  answers := by
    intro y hy
    rcases List.mem_append.1 hy with hy | hy
    · exact balanced.answers y hy
    · exact List.mem_singleton.1 hy ▸ answer

/-- So does the close of a session. -/
theorem Balanced.close (balanced : Balanced c done l log) {r : SessionRecord} {b : Blotter}
    (later : ∀ q ∈ done, q.session < r.session) (marks : ∀ x ∈ log, x.mark ≤ r.session)
    (fills : r.fills = b.fills r.session (c.feeds.closes r.session))
    (ledger : r.report.ledger = (r.fills.foldl Ledger.trade l).mark (c.feeds.closes r.session)) :
    Balanced c (done ++ [r]) r.report.ledger log where
  now := balanced.now.close fills ledger
  recorded := by
    intro q hq
    rcases List.mem_append.1 hq with hq | hq
    · have hlater : ¬r.session ≤ q.session := Int.not_le.2 (later q hq)
      simpa [List.filter_append, hlater] using balanced.recorded q hq
    · obtain rfl := List.mem_singleton.1 hq
      have all : ((done ++ [q]).filter fun p => decide (p.session ≤ q.session)) = done ++ [q] := by
        refine List.filter_eq_self.2 fun p hp => decide_eq_true ?_
        rcases List.mem_append.1 hp with hp | hp
        · exact Int.le_of_lt (later p hp)
        · exact List.mem_singleton.1 hp ▸ Int.le_refl _
      rw [all]
      exact balanced.now.close fills ledger
  answers := by
    intro x hx symbol hname hargs
    have hlater : ¬r.session < x.mark := Int.not_lt.2 (marks x hx)
    simpa [List.filter_append, hlater] using balanced.answers x hx symbol hname hargs

variable (c) (filename : String) (lines : List ScriptLine) (seed : Bindings)

/-- A run that succeeds or fails is balanced, at its end or in the session that fails. -/
theorem balanced_run :
    ∃ l, Balanced c (c.records (.ofLines filename lines) seed) l (c.calls filename lines seed) := by
  have held := calls_invariant c filename lines seed
    (P := fun done _ l log => Balanced c done l log)
    (Q := fun done session _ l log => Balanced c done l log ∧ ∀ r ∈ done, r.session < session)
    ?start ?opening ?call ?close
  case start =>
    exact ⟨accounts_new c.feeds c.capitalBase, by simp, by simp⟩
  case opening =>
    intro done session blotter l log here _ balanced
    exact ⟨balanced, fun r hr => lt_of_prefix_sessions here (List.mem_map_of_mem hr)⟩
  case call =>
    rintro done g args s log o ⟨balanced, earlier⟩
    exact ⟨balanced.call (answersPosition_apply balanced.now earlier g args s), earlier⟩
  case close =>
    rintro done r blotter l log here marks ⟨balanced, earlier⟩ fills ledger
    refine balanced.close earlier (fun x hx => ?_) fills ledger
    rcases List.mem_append.1 (marks x hx) with hx | hx
    · exact Int.le_of_lt (lt_of_prefix_sessions here hx)
    · exact List.mem_singleton.1 hx ▸ Int.le_refl _
  dsimp only at held
  split at held
  · obtain ⟨_, l, held⟩ := held
    exact ⟨l, held⟩
  · rcases held with ⟨_, l, held⟩ | ⟨_, _, l, held, -⟩
    · exact ⟨l, held⟩
    · exact ⟨l, held⟩

/-- Whenever metrics are recorded, the ledger has a position in a symbol exactly if the transactions so far
do not net to zero. The position is their net, marked at the last close that the symbol had. A script that
asks for a position is told the net of the transactions of earlier sessions. -/
theorem ledger_eq_net_of_fills :
    let records := c.records (.ofLines filename lines) seed
    (∀ r ∈ records, ∀ symbol,
      let position? := r.report.ledger.positions.get? symbol
      let total := net symbol (transactions (records.filter fun q => q.session ≤ r.session))
      (position?.isSome ↔ total ≠ 0) ∧
      ∀ p, position? = some p → p.symbol = symbol ∧ p.amount = total ∧
        c.feeds.lastClose (c.sessions.filter fun s => s ≤ r.session) symbol = some p.lastPrice) ∧
    ∀ x ∈ c.calls filename lines seed, ∀ symbol, x.function = "position" → x.args = [.str symbol] →
      let total := net symbol (transactions (records.filter fun q => q.session < x.mark))
      ∃ n, x.result = .ok (.int n) ∧ n = Int64.ofInt total ∧
        (Int64.minValue.toInt ≤ total → total ≤ Int64.maxValue.toInt → n.toInt = total) := by
  intro records
  obtain ⟨l, balanced⟩ := c.balanced_run filename lines seed
  have first : records.map (·.session) <+: c.sessions := c.prefix_sessions_of_records ..
  refine ⟨fun r hr symbol => ?_, fun x hx symbol hname hargs => ?_⟩
  · have accounts := balanced.recorded r hr
    refine ⟨accounts.nets.isSome_get?_iff symbol, fun p hp => ?_⟩
    obtain ⟨own, amount, -⟩ := accounts.nets.held symbol p hp
    have marked := accounts.marked symbol p hp
    rw [sessions_upTo_record first hr] at marked
    exact ⟨own, amount, marked⟩
  · exact ⟨_, balanced.answers x hx symbol hname hargs, rfl, fun least greatest =>
      Int64.toInt_ofInt_of_le least (Int.lt_of_le_of_lt greatest (by decide))⟩

/-- After two daily orders for one share the ledger holds two, and a position asked for in the second
session is one. -/
theorem ledger_eq_net_of_two_fills :
    let c := ofDays ⟨738004⟩ ⟨738005⟩ .never fun _ => some 1.0
    let lines := orderDaily "A" 1 ++ [⟨2, .expr (.call "position" [.literal (.str "A")])⟩]
    (∃ r ∈ c.records (.ofLines "strategy" lines) .empty,
      ∃ p, r.report.ledger.positions.get? "A" = some p ∧ p.amount = 2 ∧
        c.feeds.lastClose (c.sessions.filter fun s => s ≤ r.session) "A" = some p.lastPrice) ∧
    ∃ x ∈ c.calls "strategy" lines .empty, ∃ n, x.result = .ok (.int n) ∧ n.toInt = 1 := by
  intro c lines
  have held : ∃ r ∈ c.records (.ofLines "strategy" lines) .empty, net "A" (transactions
      ((c.records (.ofLines "strategy" lines) .empty).filter fun q => q.session ≤ r.session)) = 2 := by
    decide +kernel
  have asked : ∃ x ∈ c.calls "strategy" lines .empty, x.function = "position" ∧
      x.args.map (fun v => (symbolArgument "position" v).toOption) = [some "A"] ∧ net "A" (transactions
        ((c.records (.ofLines "strategy" lines) .empty).filter fun q => q.session < x.mark)) = 1 := by
    decide +kernel
  have both := c.ledger_eq_net_of_fills "strategy" lines .empty
  generalize c.records (.ofLines "strategy" lines) .empty = records at held asked both ⊢
  generalize c.calls "strategy" lines .empty = calls at asked both ⊢
  obtain ⟨ledgers, answers⟩ := both
  constructor
  · obtain ⟨r, hr, total⟩ := held
    obtain ⟨p, hp⟩ := Option.isSome_iff_exists.1 ((ledgers r hr "A").1.2 (by rw [total]; decide))
    obtain ⟨-, amount, marked⟩ := (ledgers r hr "A").2 p hp
    exact ⟨r, hr, p, hp, amount.trans total, marked⟩
  · obtain ⟨x, hx, hname, hargs, total⟩ := asked
    have hargs : x.args = [.str "A"] := by
      obtain ⟨v, args, named⟩ := List.map_eq_singleton_iff.1 hargs
      cases v <;> cases named
      exact args
    obtain ⟨n, answer, -, inRange⟩ := answers x hx "A" hname hargs
    rw [total] at inRange
    exact ⟨x, hx, n, answer, inRange (by decide) (by decide)⟩

end Scenario

end Backtest.Simulation
