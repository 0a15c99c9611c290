import Backtest.Proofs.Language.HostRelation
import Backtest.Proofs.Simulation.History

/-!
# The calls of a run

A log of the calls that a strategy's script makes, each with its session, its arguments and its answer. The
log is kept beside the strategy's names by a host that answers as before, so a run with the log is the same
run (`run_logged`, `records_logged`). `calls_invariant` is the induction over all that happens in a run: the
opening of a session, a call of a trading function, and the close.
-/

namespace Backtest.Language

variable {σ μ : Type}

/-- A call of a host function with its answer, marked with when it was made. -/
structure Call (μ : Type) where
  mark : μ
  function : String
  args : List Value
  result : Except EvalError Value

/-- A host that also writes its calls to the end of a log. -/
def Host.logged (host : Host σ) (mark : μ) : Host (σ × List (Call μ)) where
  call name args s :=
    match host.call name args s.1 with
    | (none, next) => (none, next, s.2)
    | (some result, next) => (some result, next, s.2 ++ [⟨mark, name, args, result⟩])

/-- The log changes no answer. -/
theorem Host.related_logged (host : Host σ) (mark : μ) :
    Host.Related (fun s t => s = t.1) host (host.logged mark) := by
  rintro name args s ⟨_, log⟩ rfl
  simp only [Host.logged]
  rcases host.call name args s with ⟨_ | result, next⟩
  · exact ⟨rfl, rfl⟩
  · exact ⟨rfl, rfl⟩

end Backtest.Language

namespace Backtest.Simulation

open Backtest.Calendar (Date)
open Backtest.Language (Bindings Call Host ScriptError ScriptLine Value runLines)
open Backtest.Results (Performance)
open Backtest.Run (RunError SimulationFault)
open Backtest.Trading (Blotter Ledger)

variable {σ τ : Type}

/-- The books with the strategy's state replaced by what a function makes of it. -/
def Books.map (φ : τ → σ) (b : Books τ) : Books σ :=
  ⟨φ b.strategy, b.blotter, b.ledger, b.metrics⟩

/-- A phase does what another does when part of its state is erased. -/
def Phase.Erases (φ : τ → σ) (p : Phase τ) (q : Phase σ) : Prop :=
  ∀ o d s, q o d (φ s) = ((p o d s).1, (p o d s).2.1, φ (p o d s).2.2)

section Erasure

variable {φ : τ → σ} {p : Phase τ} {q : Phase σ}

/-- In a session a strategy acts as one that carries more with it. -/
theorem actSession_erases (erases : p.Erases φ q) (f : Feeds) (earlier : List Date) (session : Date)
    (b : Books τ) :
    actSession f (.ofPhase q) earlier session (b.map φ) =
      ((actSession f (.ofPhase p) earlier session b).1,
        (actSession f (.ofPhase p) earlier session b).2.map φ) := by
  rw [actSession_ofPhase, actSession_ofPhase]
  have acted := erases (b.outlook f earlier session) (.new b.blotter) b.strategy
  simp only [Books.map, Books.outlook] at acted ⊢
  rw [acted]
  rcases p ⟨earlier, session, f.market, f.columns, b.ledger⟩ (.new b.blotter) b.strategy
    with ⟨e | _, d, s⟩
  · rfl
  · rfl

/-- The close of a session leaves the strategy alone. -/
theorem closeSession_map (f : Feeds) (session : Date) (placed : Nat) (b : Books τ) (φ : τ → σ) :
    closeSession f session placed (b.map φ) =
      ((closeSession f session placed b).1, (closeSession f session placed b).2.map φ) :=
  rfl

/-- Erasing part of the strategy's state changes neither the records of a run nor how it ends. -/
theorem runSessions_erases (erases : p.Erases φ q) (f : Feeds) (earlier : List Date) (carried : Nat)
    (sessions : List Date) (b : Books τ) :
    completed f (.ofPhase q) earlier carried sessions (b.map φ) =
        completed f (.ofPhase p) earlier carried sessions b ∧
      runSessions f (.ofPhase q) earlier carried sessions (b.map φ) =
        ((runSessions f (.ofPhase p) earlier carried sessions b).1,
          (runSessions f (.ofPhase p) earlier carried sessions b).2.map φ) := by
  induction sessions generalizing earlier carried b with
  | nil => exact ⟨rfl, rfl⟩
  | cons session rest ih =>
    have acted := actSession_erases erases f earlier session b
    rcases hact : actSession f (.ofPhase p) earlier session b with ⟨e | placed, b'⟩
    · rw [hact] at acted
      rw [completed_cons_error hact, completed_cons_error acted, runSessions_cons_error hact,
        runSessions_cons_error acted]
      exact ⟨rfl, rfl⟩
    · rw [hact] at acted
      obtain ⟨records, run⟩ := ih (earlier ++ [session]) 0
        (closeSession f session (placed + carried) b').2
      rw [completed_cons_ok hact, completed_cons_ok acted, runSessions_cons_ok hact,
        runSessions_cons_ok acted, closeSession_map, records, run]
      exact ⟨rfl, rfl⟩

end Erasure

/-- Different trading functions have different names. -/
theorem TradingFunction.name_inj {f g : TradingFunction} : f.name = g.name ↔ f = g := by
  cases f <;> cases g <;> decide

/-- The phase that runs the lines of a script and logs its calls. -/
def Phase.logged (describe : ScriptError → SimulationFault) (lines : List ScriptLine) :
    Phase (Bindings × List (Call Date)) :=
  fun o d s =>
    match runLines ((tradingHost o).logged o.session) lines ⟨s.1, ⟨d, none⟩, s.2⟩ with
    | (.ok (), next) => (.ok (), next.host.1.desk, next.bindings, next.host.2)
    | (.error e, next) =>
      let fault := match next.host.1.pending with
        | some column => TradingFault.column column
        | none => .script e
      (.error (fault.runError describe), next.host.1.desk, next.bindings, next.host.2)

/-- Logging changes nothing of what a script does. -/
theorem Phase.logged_erases (describe : ScriptError → SimulationFault) (lines : List ScriptLine) :
    (Phase.logged describe lines).Erases Prod.fst (.ofLines describe lines) := by
  rintro o d ⟨b, log⟩
  have related := Language.runLines_related ((tradingHost o).related_logged o.session) lines b
    (t := (⟨d, none⟩, log)) rfl
  simp only [ofLines, runTrading, logged]
  generalize runLines (tradingHost o) lines ⟨b, ⟨d, none⟩⟩ = x at related ⊢
  generalize runLines ((tradingHost o).logged o.session) lines ⟨b, ⟨d, none⟩, log⟩ = y at related ⊢
  obtain ⟨result, bindings, host⟩ := related
  obtain ⟨e | _, b', s'⟩ := x <;> obtain ⟨_, c', t', log'⟩ := y <;> cases result <;>
    cases bindings <;> cases host
  · rfl
  · rfl

/-- What every call of a trading function keeps, of the desk and the log, holds when the script ends. -/
theorem Phase.logged_invariant {K : Desk → List (Call Date) → Prop} {o : Outlook}
    (call : ∀ (f : TradingFunction) args s log, K s.desk log →
      K (f.apply o args s).2.desk (log ++ [⟨o.session, f.name, args, (f.apply o args s).1⟩]))
    (describe : ScriptError → SimulationFault) (lines : List ScriptLine) (d : Desk)
    (s : Bindings × List (Call Date)) (h : K d s.2) :
    K (Phase.logged describe lines o d s).2.1 (Phase.logged describe lines o d s).2.2.2 := by
  have kept := Language.runLines_invariant ((tradingHost o).logged o.session)
    (P := fun t => K t.1.desk t.2) ?step lines s.1 (s := (⟨d, none⟩, s.2)) h
  case step =>
    rintro name args ⟨t, log⟩ h
    simp only [Host.logged, tradingHost]
    cases hfind : TradingFunction.all.find? fun f => f.name == name with
    | none => exact h
    | some f =>
      have hname : f.name = name := by simpa using List.find?_some hfind
      exact hname ▸ call f args t log h
  simp only [Phase.logged]
  generalize runLines ((tradingHost o).logged o.session) lines ⟨s.1, ⟨d, none⟩, s.2⟩ = x at kept ⊢
  obtain ⟨e | _, next⟩ := x
  · exact kept
  · exact kept

/-- The strategy of a script with a log of its calls. -/
def Strategy.logged (filename : String) (lines : List ScriptLine) :
    Strategy (Bindings × List (Call Date)) :=
  .ofPhase (.logged (.script filename) lines)

/-- The strategy's half of a session with the log keeps what its calls keep of the blotter and the log. The ledger waits
for the close, and what is logged is marked with the session. -/
theorem actSession_logged {K : Blotter → List (Call Date) → Prop} (filename : String) (lines : List ScriptLine)
    (f : Feeds) (earlier : List Date) (session : Date) (b : Books (Bindings × List (Call Date)))
    (call : ∀ (g : TradingFunction) args s log (o : Outlook), o.session = session → o.ledger = b.ledger →
      K s.desk.blotter log →
      K (g.apply o args s).2.desk.blotter (log ++ [⟨session, g.name, args, (g.apply o args s).1⟩]))
    (held : K b.blotter b.strategy.2) (marks : ∀ x ∈ b.strategy.2, x.mark ∈ earlier) :
    let after := (actSession f (.logged filename lines) earlier session b).2
    (K after.blotter after.strategy.2 ∧ ∀ x ∈ after.strategy.2, x.mark ∈ earlier ++ [session]) ∧
      after.ledger = b.ledger := by
  rw [Strategy.logged, actSession_ofPhase]
  have kept := Phase.logged_invariant
    (K := fun d log => K d.blotter log ∧ ∀ x ∈ log, x.mark ∈ earlier ++ [session])
    (o := b.outlook f earlier session) ?step (.script filename) lines (.new b.blotter) b.strategy
    ⟨held, fun x hx => List.mem_append_left _ (marks x hx)⟩
  case step =>
    rintro g args s log ⟨held, marks⟩
    refine ⟨call g args s log _ rfl rfl held, fun x hx => ?_⟩
    rcases List.mem_append.1 hx with hx | hx
    · exact marks x hx
    · rw [List.mem_singleton.1 hx]
      exact List.mem_append_right _ (List.mem_singleton_self _)
  generalize Phase.logged (.script filename) lines (b.outlook f earlier session) (.new b.blotter) b.strategy = x
    at kept ⊢
  obtain ⟨e | _, d, s⟩ := x
  · exact ⟨kept, rfl⟩
  · exact ⟨kept, rfl⟩

namespace Scenario

variable (c : Scenario) (filename : String) (lines : List ScriptLine) (seed : Bindings)

/-- The calls that a script makes in a scenario, in order, also those of a session in which it fails. -/
def calls : List (Call Date) :=
  (c.run (.logged filename lines) (seed, [])).2.2

/-- The run with the log has the records of the run without. -/
theorem records_logged :
    c.records (.logged filename lines) (seed, []) = c.records (.ofLines filename lines) seed := by
  rw [Strategy.logged, Strategy.ofLines_eq, records_ofPhase, records_ofPhase]
  exact (runSessions_erases (Phase.logged_erases (.script filename) lines) c.feeds [] 0 c.sessions
    (c.books (seed, []))).1.symm

/-- The run with the log ends as the run without. -/
theorem run_logged :
    (c.run (.logged filename lines) (seed, [])).1 = (c.run (.ofLines filename lines) seed).1 := by
  by_cases empty : c.sessions = []
  · simp [run, empty]
  · have erased := (runSessions_erases (Phase.logged_erases (.script filename) lines) c.feeds [] 0
      c.sessions (c.books (seed, []))).2
    rw [Strategy.logged, Strategy.ofLines_eq, run_ofPhase empty, run_ofPhase empty]
    change runSessions c.feeds (.ofPhase _) [] 0 c.sessions (c.books seed) = _ at erased
    rw [erased]
    rcases runSessions c.feeds (.ofPhase (.logged (.script filename) lines)) [] 0 c.sessions
      (c.books (seed, [])) with ⟨e | records, b⟩
    · rfl
    · rfl

/-- The induction over all that happens in a run, of the records so far, the blotter, the ledger and the
log. `P` holds between sessions and `Q` during one, and the marks of the log are carried along with them: a logged
call was made in a session that has closed or in the present one. -/
theorem calls_invariant
    {P : List SessionRecord → Blotter → Ledger → List (Call Date) → Prop}
    {Q : List SessionRecord → Date → Blotter → Ledger → List (Call Date) → Prop}
    (start : P [] (.new c.policy) (.new c.capitalBase) [])
    (opening : ∀ done session blotter ledger log,
      done.map (·.session) ++ [session] <+: c.sessions →
      (∀ x ∈ log, x.mark ∈ done.map (·.session)) →
      P done blotter ledger log → Q done session blotter ledger log)
    (call : ∀ done (f : TradingFunction) args s log (o : Outlook),
      Q done o.session s.desk.blotter o.ledger log →
      Q done o.session (f.apply o args s).2.desk.blotter o.ledger
        (log ++ [⟨o.session, f.name, args, (f.apply o args s).1⟩]))
    (close : ∀ done (r : SessionRecord) blotter ledger log,
      done.map (·.session) ++ [r.session] <+: c.sessions →
      (∀ x ∈ log, x.mark ∈ done.map (·.session) ++ [r.session]) →
      Q done r.session blotter ledger log →
      r.fills = blotter.fills r.session (c.feeds.closes r.session) →
      r.report.ledger = (r.fills.foldl Ledger.trade ledger).mark (c.feeds.closes r.session) →
      P (done ++ [r]) (blotter.afterFills (c.feeds.closes r.session)).endOfSession r.report.ledger log) :
    let records := c.records (.ofLines filename lines) seed
    let log := c.calls filename lines seed
    match (c.run (.ofLines filename lines) seed).1 with
    | .ok _ => ∃ blotter ledger, P records blotter ledger log
    | .error _ =>
      (∃ blotter ledger, P records blotter ledger log) ∨
        ∃ session blotter ledger, Q records session blotter ledger log := by
  intro records log
  by_cases empty : c.sessions = []
  · simp only [records, Scenario.records, log, calls, run, empty]
    exact .inl ⟨_, _, start⟩
  · have held := runSessions_invariant c.feeds (.logged filename lines)
      (P := fun done b => P done b.blotter b.ledger b.strategy.2 ∧
        ∀ x ∈ b.strategy.2, x.mark ∈ done.map (·.session))
      (Q := fun done session b => Q done session b.blotter b.ledger b.strategy.2 ∧
        ∀ x ∈ b.strategy.2, x.mark ∈ done.map (·.session) ++ [session]) ?act ?close
      [] c.sessions 0 (c.books (seed, [])) rfl ⟨start, by simp [books, Books.new]⟩
    case act =>
      rintro done session b here ⟨held, marks⟩
      have opened := opening done session _ _ _ here marks held
      have acted := actSession_logged (K := fun blotter log => Q done session blotter b.ledger log)
        filename lines c.feeds (done.map (·.session)) session b ?called opened marks
      case called =>
        rintro f args s log o rfl ledger held
        rw [← ledger] at held ⊢
        exact call done f args s log o held
      obtain ⟨kept, ledger⟩ := acted
      rw [ledger]
      exact kept
    case close =>
      rintro done session placed b here ⟨held, marks⟩
      refine ⟨close done (closeSession c.feeds session placed b).1 b.blotter b.ledger b.strategy.2
        here marks held rfl rfl, fun x hx => ?_⟩
      rw [List.map_append]
      exact marks x hx
    simp only [records, log, calls, ← run_logged c filename lines seed,
      ← records_logged c filename lines seed, Strategy.logged, records_ofPhase,
      run_ofPhase empty, List.map_nil, List.nil_append] at held ⊢
    generalize runSessions c.feeds (.ofPhase (.logged (.script filename) lines)) [] 0 c.sessions
      (c.books (seed, [])) = run at held ⊢
    obtain ⟨e | ended, b⟩ := run
    · obtain ⟨session, held, -⟩ := held
      exact .inr ⟨session, b.blotter, b.ledger, held⟩
    · exact ⟨b.blotter, b.ledger, held.1⟩

variable {c filename lines seed}

/-- The calls of a successful run are made in its sessions. -/
theorem mark_mem_sessions {performance : Performance}
    (h : (c.run (.ofLines filename lines) seed).1 = .ok performance) {x : Call Date}
    (hx : x ∈ c.calls filename lines seed) : x.mark ∈ c.sessions := by
  have held := calls_invariant c filename lines seed
    (P := fun done _ _ log => ∀ x ∈ log, x.mark ∈ done.map (·.session))
    (Q := fun _ _ _ _ _ => True) (by simp) (by simp) (by simp)
    (fun done r _ _ _ _ marks _ _ _ x hx => by simpa using marks x hx)
  simp only [h] at held
  obtain ⟨-, -, marks⟩ := held
  rw [← (rows_of_run h).2]
  exact marks x hx

end Scenario

end Backtest.Simulation
