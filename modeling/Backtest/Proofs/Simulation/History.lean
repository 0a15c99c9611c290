import Backtest.Proofs.Calendar.Sessions
import Backtest.Simulation.Simulator

/-!
# The records of a run

A run answers the records of its sessions only when every session succeeds. `completed` also keeps the
records of the sessions before a failure, so that a statement about each session of a run covers runs
that fail. `runSessions_invariant` is the induction over a run: what the strategy's half of a session and
its close keep between them holds at the end, whichever way the run ends.
-/

namespace Backtest.Simulation

open Backtest.Calendar (Date TradingCalendar)
open Backtest.Language (ScriptLine)
open Backtest.Market (Bundle)
open Backtest.Results (Performance)
open Backtest.Run (RunError)
open Backtest.Trading (CancelPolicy Transaction)

variable {σ : Type}

/-- The records of the sessions that reach their close: all of them, or those before the first session in
which the strategy fails. -/
def completed (f : Feeds) (strategy : Strategy σ) (earlier : List Date) (carried : Nat) :
    List Date → Books σ → List SessionRecord
  | [], _ => []
  | session :: rest, b =>
    match actSession f strategy earlier session b with
    | (.error _, _) => []
    | (.ok placed, b) =>
      let (record, b) := closeSession f session (placed + carried) b
      record :: completed f strategy (earlier ++ [session]) 0 rest b

/-- The record of a session is of that session. -/
@[simp] theorem closeSession_session (f : Feeds) (session : Date) (placed : Nat) (b : Books σ) :
    (closeSession f session placed b).1.session = session :=
  rfl

section Equations

variable {f : Feeds} {strategy : Strategy σ} {earlier : List Date} {carried : Nat} {session : Date}
  {rest : List Date} {b b' : Books σ}

/-- A session in which the strategy fails is not completed, nor is any after it. -/
theorem completed_cons_error {e : RunError}
    (h : actSession f strategy earlier session b = (.error e, b')) :
    completed f strategy earlier carried (session :: rest) b = [] := by
  rw [completed, h]

/-- Any other session is completed before the rest. -/
theorem completed_cons_ok {placed : Nat}
    (h : actSession f strategy earlier session b = (.ok placed, b')) :
    completed f strategy earlier carried (session :: rest) b =
      (closeSession f session (placed + carried) b').1 ::
        completed f strategy (earlier ++ [session]) 0 rest
          (closeSession f session (placed + carried) b').2 := by
  rw [completed, h]

/-- A session in which the strategy fails ends the run. -/
theorem runSessions_cons_error {e : RunError}
    (h : actSession f strategy earlier session b = (.error e, b')) :
    runSessions f strategy earlier carried (session :: rest) b = (.error e, b') := by
  rw [runSessions, h]

/-- Any other session is recorded before the rest. -/
theorem runSessions_cons_ok {placed : Nat}
    (h : actSession f strategy earlier session b = (.ok placed, b')) :
    runSessions f strategy earlier carried (session :: rest) b =
      ((runSessions f strategy (earlier ++ [session]) 0 rest
          (closeSession f session (placed + carried) b').2).1.map
            ((closeSession f session (placed + carried) b').1 :: ·),
        (runSessions f strategy (earlier ++ [session]) 0 rest
          (closeSession f session (placed + carried) b').2).2) := by
  rw [runSessions, h]

/-- A run that succeeds has acted in its first session, closed it and gone on with the rest. -/
theorem exists_of_runSessions_cons_ok {records : List SessionRecord} {last : Books σ}
    (h : runSessions f strategy earlier carried (session :: rest) b = (.ok records, last)) :
    ∃ placed b' later, actSession f strategy earlier session b = (.ok placed, b') ∧
      runSessions f strategy (earlier ++ [session]) 0 rest
        (closeSession f session (placed + carried) b').2 = (.ok later, last) ∧
      records = (closeSession f session (placed + carried) b').1 :: later := by
  rcases hact : actSession f strategy earlier session b with ⟨e | placed, b'⟩
  · rw [runSessions_cons_error hact] at h
    cases h
  · rw [runSessions_cons_ok hact] at h
    generalize hrun : runSessions f strategy (earlier ++ [session]) 0 rest
      (closeSession f session (placed + carried) b').2 = run at h
    rcases run with ⟨e | later, _⟩
    · cases h
    · cases h
      exact ⟨placed, b', later, rfl, hrun, rfl⟩

end Equations

/-- The records that a run answers are those of its completed sessions. -/
theorem completed_of_runSessions {f : Feeds} {strategy : Strategy σ} {earlier : List Date}
    {carried : Nat} {sessions : List Date} {b : Books σ} {records : List SessionRecord}
    (h : (runSessions f strategy earlier carried sessions b).1 = .ok records) :
    completed f strategy earlier carried sessions b = records := by
  induction sessions generalizing earlier carried b records with
  | nil => simpa [runSessions, completed] using h
  | cons session rest ih =>
    obtain ⟨placed, b', later, hact, hrun, rfl⟩ := exists_of_runSessions_cons_ok (Prod.ext h rfl)
    rw [completed_cons_ok hact, ih (congrArg Prod.fst hrun)]

/-- A run that succeeds completes all its sessions. -/
theorem sessions_of_runSessions {f : Feeds} {strategy : Strategy σ} {earlier : List Date}
    {carried : Nat} {sessions : List Date} {b : Books σ} {records : List SessionRecord}
    (h : (runSessions f strategy earlier carried sessions b).1 = .ok records) :
    records.map (·.session) = sessions := by
  induction sessions generalizing earlier carried b records with
  | nil =>
    cases h
    rfl
  | cons session rest ih =>
    obtain ⟨placed, b', later, hact, hrun, rfl⟩ := exists_of_runSessions_cons_ok (Prod.ext h rfl)
    rw [List.map_cons, ih (congrArg Prod.fst hrun), closeSession_session]

/-- A run that fails does so in a session in which the strategy fails, after sessions that succeed. -/
theorem exists_of_runSessions_error {f : Feeds} {strategy : Strategy σ} {earlier : List Date}
    {carried : Nat} {sessions : List Date} {b : Books σ} {e : RunError}
    (h : (runSessions f strategy earlier carried sessions b).1 = .error e) :
    ∃ front session records b', front ++ [session] <+: sessions ∧
      runSessions f strategy earlier carried front b = (.ok records, b') ∧
      (actSession f strategy (earlier ++ front) session b').1 = .error e := by
  induction sessions generalizing earlier carried b with
  | nil => cases h
  | cons session rest ih =>
    rcases hact : actSession f strategy earlier session b with ⟨e' | placed, b'⟩
    · rw [runSessions_cons_error hact] at h
      cases h
      refine ⟨[], session, [], b, ⟨rest, rfl⟩, rfl, ?_⟩
      rw [List.append_nil, hact]
    · rw [runSessions_cons_ok hact] at h
      generalize hrun : runSessions f strategy (earlier ++ [session]) 0 rest
        (closeSession f session (placed + carried) b').2 = run at h
      rcases run with ⟨e' | later, last⟩
      · cases h
        obtain ⟨front, failing, records, books, here, succeeds, fails⟩ := ih (congrArg Prod.fst hrun)
        let record := (closeSession f session (placed + carried) b').1
        refine ⟨session :: front, failing, record :: records, books,
          List.prefix_cons_inj session |>.2 here, ?_, ?_⟩
        · rw [runSessions_cons_ok hact, succeeds]
          rfl
        · rwa [List.append_cons]
      · cases h

/-- The sessions of a run that come after others are run on the books that these leave. -/
theorem runSessions_append {f : Feeds} {strategy : Strategy σ} {earlier front : List Date}
    {carried : Nat} {b b' : Books σ} {records : List SessionRecord}
    (h : runSessions f strategy earlier carried front b = (.ok records, b')) (rest : List Date) :
    runSessions f strategy earlier carried (front ++ rest) b =
      let later :=
        runSessions f strategy (earlier ++ front) (if front.isEmpty then carried else 0) rest b'
      (later.1.map (records ++ ·), later.2) := by
  induction front generalizing earlier carried b records with
  | nil =>
    cases h
    simp only [List.nil_append, List.append_nil, List.isEmpty_nil, if_true]
    generalize runSessions f strategy earlier carried rest b' = run
    rcases run with ⟨e | later, last⟩ <;> rfl
  | cons session front ih =>
    obtain ⟨placed, b₁, later, hact, hrun, rfl⟩ := exists_of_runSessions_cons_ok h
    rw [List.cons_append, runSessions_cons_ok hact, ih hrun]
    simp only [ite_self, List.append_assoc, List.singleton_append, List.isEmpty_cons, Bool.false_eq_true,
      if_false]
    generalize runSessions f strategy (earlier ++ session :: front) 0 rest b' = run
    rcases run with ⟨e | records, last⟩ <;> rfl

/-- Completed sessions are the first sessions of the run, in order. -/
theorem prefix_sessions_of_completed (f : Feeds) (strategy : Strategy σ) (earlier : List Date)
    (carried : Nat) (sessions : List Date) (b : Books σ) :
    (completed f strategy earlier carried sessions b).map (·.session) <+: sessions := by
  induction sessions generalizing earlier carried b with
  | nil => simp [completed]
  | cons session rest ih =>
    rcases hact : actSession f strategy earlier session b with ⟨e | placed, b'⟩
    · rw [completed_cons_error hact]
      exact List.nil_prefix
    · rw [completed_cons_ok hact, List.map_cons]
      exact List.prefix_cons_inj session |>.2 (ih ..)

/-- The induction over a run. `P` is what holds between sessions, of the records so far, and `Q` what holds
during a session, when its strategy has acted or failed. -/
theorem runSessions_invariant (f : Feeds) (strategy : Strategy σ) {sessions : List Date}
    {P : List SessionRecord → Books σ → Prop} {Q : List SessionRecord → Date → Books σ → Prop}
    (act : ∀ done session b, done.map (·.session) ++ [session] <+: sessions → P done b →
      Q done session (actSession f strategy (done.map (·.session)) session b).2)
    (close : ∀ done session placed b, done.map (·.session) ++ [session] <+: sessions →
      Q done session b →
      P (done ++ [(closeSession f session placed b).1]) (closeSession f session placed b).2)
    (done : List SessionRecord) (rest : List Date) (carried : Nat) (b : Books σ)
    (hsessions : done.map (·.session) ++ rest = sessions) (start : P done b) :
    let run := runSessions f strategy (done.map (·.session)) carried rest b
    let records := done ++ completed f strategy (done.map (·.session)) carried rest b
    match run.1 with
    | .ok _ => P records run.2
    | .error _ => ∃ session, Q records session run.2 := by
  induction rest generalizing done carried b with
  | nil => simpa [runSessions, completed] using start
  | cons session rest ih =>
    have here : done.map (·.session) ++ [session] <+: sessions :=
      ⟨rest, by rw [← hsessions, List.append_assoc, List.singleton_append]⟩
    have acted := act done session b here start
    rcases hact : actSession f strategy (done.map (·.session)) session b with ⟨e | placed, b'⟩
    · rw [hact] at acted
      simp only [runSessions_cons_error hact, completed_cons_error hact, List.append_nil]
      exact ⟨session, acted⟩
    · rw [hact] at acted
      have closed := close done session (placed + carried) b' here acted
      have later := ih (done ++ [(closeSession f session (placed + carried) b').1]) 0 _
        (by simpa using hsessions) closed
      simp only [runSessions_cons_ok hact, completed_cons_ok hact]
      simp only [List.map_append, List.map_cons, List.map_nil, List.append_assoc,
        List.singleton_append, closeSession_session] at later
      split at later
      · rename_i hrun
        simpa only [hrun, Except.map] using later
      · rename_i hrun
        simpa only [hrun, Except.map] using later

/-- The transactions of sessions, in order. -/
def transactions (records : List SessionRecord) : List Transaction :=
  records.flatMap (·.fills)

/-- The transactions of two runs of records come one behind the other. -/
@[simp] theorem transactions_append (records later : List SessionRecord) :
    transactions (records ++ later) = transactions records ++ transactions later :=
  List.flatMap_append

/-- The transactions of one record are its fills. -/
@[simp] theorem transactions_singleton (r : SessionRecord) : transactions [r] = r.fills := by
  simp [transactions]

/-- The strategy that acts in its sessions only. -/
def Strategy.ofPhase (phase : Phase σ) : Strategy σ :=
  { Strategy.idle with onSession := phase }

/-- The strategy of a script has one phase, which runs its lines. -/
theorem Strategy.ofLines_eq (filename : String) (lines : List ScriptLine) :
    Strategy.ofLines filename lines = .ofPhase (.ofLines (.script filename) lines) :=
  rfl

/-- A strategy of one phase acts in that phase only. -/
theorem actSession_ofPhase (f : Feeds) (phase : Phase σ) (earlier : List Date) (session : Date)
    (b : Books σ) :
    actSession f (.ofPhase phase) earlier session b =
      match phase (b.outlook f earlier session) (.new b.blotter) b.strategy with
      | (.error e, d, s) => (.error e, b.take d s)
      | (.ok (), d, s) => (.ok d.ordersPlaced, b.take d s) :=
  rfl

namespace Scenario

/-- The books that a scenario begins with. -/
def books (c : Scenario) (s : σ) : Books σ :=
  .new c.metrics c.policy c.capitalBase s

/-- The records of the sessions that a strategy completes in a scenario. -/
def records (c : Scenario) (strategy : Strategy σ) (s : σ) : List SessionRecord :=
  match c.sessions with
  | [] => []
  | first :: rest =>
    match actInitially c.feeds strategy first (c.books s) with
    | (.error _, _) => []
    | (.ok carried, b) => completed c.feeds strategy [] carried (first :: rest) b

/-- The records of a strategy of one phase are those of its completed sessions. -/
theorem records_ofPhase (c : Scenario) (phase : Phase σ) (s : σ) :
    c.records (.ofPhase phase) s =
      completed c.feeds (.ofPhase phase) [] 0 c.sessions (c.books s) := by
  unfold records
  cases c.sessions with
  | nil => rfl
  | cons first rest => rfl

/-- A run of a strategy of one phase is a run through its sessions. -/
theorem run_ofPhase {c : Scenario} (nonempty : c.sessions ≠ []) (phase : Phase σ) (s : σ) :
    c.run (.ofPhase phase) s =
      match runSessions c.feeds (.ofPhase phase) [] 0 c.sessions (c.books s) with
      | (.error e, b) => (.error e, b.strategy)
      | (.ok records, b) => (.ok (performanceOf records b), b.strategy) := by
  unfold run
  cases hsessions : c.sessions with
  | nil => contradiction
  | cons first rest => rfl

/-- It fails if and only if one of its sessions does. -/
theorem run_eq_error_iff {c : Scenario} (nonempty : c.sessions ≠ []) {phase : Phase σ} {s : σ}
    {e : RunError} :
    (c.run (.ofPhase phase) s).1 = .error e ↔
      (runSessions c.feeds (.ofPhase phase) [] 0 c.sessions (c.books s)).1 = .error e := by
  rw [run_ofPhase nonempty]
  split <;> simp_all

/-- The strategy fails in a session, after sessions that succeed. -/
def FailsInSession (c : Scenario) (strategy : Strategy σ) (s : σ) (e : RunError) : Prop :=
  ∃ front session records b, front ++ [session] <+: c.sessions ∧
    runSessions c.feeds strategy [] 0 front (c.books s) = (.ok records, b) ∧
    (actSession c.feeds strategy front session b).1 = .error e

/-- A run of a strategy that acts in its sessions only fails in one of them. -/
theorem run_eq_error_iff_failsInSession {c : Scenario} (nonempty : c.sessions ≠ []) {phase : Phase σ}
    {s : σ} {e : RunError} :
    (c.run (.ofPhase phase) s).1 = .error e ↔ c.FailsInSession (.ofPhase phase) s e := by
  rw [run_eq_error_iff nonempty]
  constructor
  · intro failed
    obtain ⟨front, session, records, b, here, succeeds, fails⟩ := exists_of_runSessions_error failed
    exact ⟨front, session, records, b, here, succeeds, fails⟩
  · rintro ⟨front, session, records, b, ⟨rest, sessions⟩, succeeds, fails⟩
    rw [← sessions, List.append_assoc, List.singleton_append, runSessions_append succeeds]
    rcases hact : actSession c.feeds (.ofPhase phase) front session b with ⟨_ | placed, b'⟩
    · rw [hact] at fails
      cases fails
      simp only [List.nil_append, runSessions_cons_error hact]
      rfl
    · rw [hact] at fails
      cases fails

/-- The rows that a scenario answers are those of its records, and there is one for every session. -/
theorem rows_of_run {c : Scenario} {phase : Phase σ} {s : σ} {p : Performance}
    (h : (c.run (.ofPhase phase) s).1 = .ok p) :
    p.rows = (c.records (.ofPhase phase) s).map (fun r => ⟨r.session, r.columns⟩) ∧
      (c.records (.ofPhase phase) s).map (·.session) = c.sessions := by
  by_cases nonempty : c.sessions = []
  · rw [run] at h
    split at h
    · contradiction
    · simp_all
  · rw [run_ofPhase nonempty] at h
    rw [records_ofPhase]
    generalize hrun : runSessions c.feeds (.ofPhase phase) [] 0 c.sessions (c.books s) = run at h
    rcases run with ⟨e | records, b⟩
    · contradiction
    · have succeeded := congrArg Prod.fst hrun
      rw [completed_of_runSessions succeeded, sessions_of_runSessions succeeded]
      cases h
      exact ⟨rfl, rfl⟩

/-- The sessions of a scenario are in order, and none comes twice. -/
theorem sessions_pairwise (c : Scenario) : c.sessions.Pairwise (· < ·) :=
  c.calendar.schedule.ascending c.first c.last

/-- The sessions that have closed lie before the next one. -/
theorem lt_of_prefix_sessions {c : Scenario} {closed : List Date} {session : Date}
    (h : closed ++ [session] <+: c.sessions) {s : Date} (hs : s ∈ closed) : s < session := by
  have ordered := (List.pairwise_append.1 (c.sessions_pairwise.sublist h.sublist)).2.2
  exact ordered s hs session (List.mem_singleton_self _)

/-- The records of a strategy that acts in its sessions only are those of the first sessions. -/
theorem prefix_sessions_of_records (c : Scenario) (phase : Phase σ) (s : σ) :
    (c.records (.ofPhase phase) s).map (·.session) <+: c.sessions := by
  rw [records_ofPhase]
  exact prefix_sessions_of_completed ..

/-- The records up to a recorded session are those of all sessions of the run up to it. -/
theorem sessions_upTo_record {c : Scenario} {records : List SessionRecord}
    (h : records.map (·.session) <+: c.sessions) {r : SessionRecord} (hr : r ∈ records) :
    (records.filter fun q => decide (q.session ≤ r.session)).map (·.session) =
      c.sessions.filter fun s => decide (s ≤ r.session) := by
  obtain ⟨rest, hrest⟩ := h
  have ordered := c.sessions_pairwise
  rw [← hrest, List.pairwise_append] at ordered
  have later : ∀ s ∈ rest, ¬decide (s ≤ r.session) = true := by
    intro s hs
    have := ordered.2.2 r.session (List.mem_map_of_mem hr) s hs
    rw [decide_eq_true_eq]
    exact Int.not_le.2 this
  rw [← hrest, List.filter_append, List.filter_eq_nil_iff.2 later, List.append_nil, List.filter_map]
  rfl

/-- The scenario over weekdays in which each field of each symbol is a function of the day. -/
def ofDays (first last : Date) (policy : CancelPolicy) (value : Date → Option Float) : Scenario where
  calendar := .weekdays
  first := first
  last := last
  capitalBase := 100.0
  metrics := [.cash]
  policy := policy
  feeds :=
    let bundle : Bundle := ⟨[], fun _ => none, ⟨fun _ _ day => value day, none⟩, none, fun _ => []⟩
    ⟨bundle, bundle, .empty⟩

end Scenario

/-- A result that passes for a success is one. -/
theorem exists_of_isOk {ε α : Type} {result : Except ε α} (h : result.isOk) : ∃ a, result = .ok a := by
  cases result with
  | ok a => exact ⟨a, rfl⟩
  | error e => contradiction

/-- The script that places the same order in every session. -/
def orderDaily (symbol : String) (amount : Int64) : List ScriptLine :=
  [⟨1, .expr (.call "order" [.literal (.str symbol), .literal (.int amount)])⟩]

end Backtest.Simulation
