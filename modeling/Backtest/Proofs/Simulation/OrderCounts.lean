import Backtest.Proofs.Metrics.Totals
import Backtest.Proofs.Simulation.DeskCalls

/-!
# The accounts of a run

Each order that a strategy places is in the blotter once and is counted once: in the session in which it
was placed, or in the first if it was placed before. The log of a run is made of the slips of its calls,
first those from before the run and then those of each session, and every count of orders is a length in
it.
-/

namespace Backtest.Simulation

open Backtest.Calendar (Date)
open Backtest.Language (Bindings ScriptLine)
open Backtest.Metrics (MetricsSet)
open Backtest.Results (Performance)

variable {σ : Type} {f : Feeds} {strategy : Strategy σ} {calls : StrategyCalls σ} {earlier : List Date}
  {carried : Nat} {session : Date} {sessions : List Date} {b b' last : Books σ}
  {records : List SessionRecord} {slips : List Slip}

/-- The slips of the orders that a strategy places in a session, also if it fails in it. -/
def actSlips (f : Feeds) (strategy : Strategy σ) (calls : StrategyCalls σ) (earlier : List Date)
    (session : Date) (b : Books σ) : List Slip :=
  let o := b.outlook f earlier session
  let opening := calls.beforeSession o (.new b.blotter) b.strategy
  match strategy.beforeSession o (.new b.blotter) b.strategy with
  | (.error _, _) => slipsOf session opening
  | (.ok (), d, s) => slipsOf session (opening ++ calls.onSession o d s)

/-- The slips of each session of a run up to a failure. -/
def sessionSlips (f : Feeds) (strategy : Strategy σ) (calls : StrategyCalls σ) (earlier : List Date)
    (carried : Nat) : List Date → Books σ → List (List Slip)
  | [], _ => []
  | session :: rest, b =>
    actSlips f strategy calls earlier session b ::
      match actSession f strategy earlier session b with
      | (.error _, _) => []
      | (.ok placed, b) =>
        sessionSlips f strategy calls (earlier ++ [session]) 0 rest
          (closeSession f session (placed + carried) b).2

/-- In a session the slips of its orders come behind those that there are, and are counted. Its two phases work on
one desk, so their calls are performed one after the other. -/
theorem actSession_slips (through : strategy.CallsDesk calls) (holds : Holds b.blotter slips)
    {placed : Nat} (h : actSession f strategy earlier session b = (.ok placed, b')) :
    Holds b'.blotter (slips ++ actSlips f strategy calls earlier session b) ∧
      placed = (actSlips f strategy calls earlier session b).length ∧ b'.metrics = b.metrics := by
  let o := b.outlook f earlier session
  have opening := through.beforeSession o (.new b.blotter) b.strategy
  unfold actSession at h
  unfold actSlips
  simp only at h ⊢
  rcases before : strategy.beforeSession o (.new b.blotter) b.strategy with ⟨e | _, d, s⟩
  · rw [before] at h
    cases h
  · have acting := through.onSession o d s
    rw [before] at h opening
    simp only at h opening
    rcases on : strategy.onSession o d s with ⟨e | _, d', s'⟩
    · simp only [o, on] at h
      cases h
    · simp only [o, on] at h acting
      cases h
      have all : d' = (Desk.new b.blotter).performAll session
          (calls.beforeSession o (.new b.blotter) b.strategy ++ calls.onSession o d s) := by
        rw [Desk.performAll_append, acting, opening]
        rfl
      have kept := Holds.performAll (d := .new b.blotter) holds session
        (calls.beforeSession o (.new b.blotter) b.strategy ++ calls.onSession o d s)
      rw [← all] at kept
      exact ⟨kept.1, kept.2.trans (Nat.zero_add _), rfl⟩

/-- The accounts of some sessions of a run. -/
structure SessionAccounts (slips : List Slip) (turns : List (List Slip)) (carried : Nat)
    (records : List SessionRecord) (b last : Books σ) : Prop where
  holds : Holds last.blotter (slips ++ turns.flatten)
  counts : records.map (·.report.ordersPlaced) = (turns.map List.length).modifyHead (· + carried)
  metrics : last.metrics = b.metrics.recordAll (records.map (·.report))

/-- Nothing carried over changes no count. -/
theorem modifyHead_add_zero (counts : List Nat) : counts.modifyHead (· + 0) = counts := by
  cases counts <;> rfl

/-- The induction over a run: each session adds its slips and reports how many they are. -/
theorem runSessions_accounts (through : strategy.CallsDesk calls) (holds : Holds b.blotter slips)
    (h : runSessions f strategy earlier carried sessions b = (.ok records, last)) :
    SessionAccounts slips (sessionSlips f strategy calls earlier carried sessions b) carried records b
      last := by
  induction sessions generalizing earlier carried b slips records with
  | nil =>
    cases h
    exact ⟨by simpa [sessionSlips] using holds, rfl, rfl⟩
  | cons session rest ih =>
    obtain ⟨placed, b', later, hact, hrun, rfl⟩ := exists_of_runSessions_cons_ok h
    obtain ⟨acted, count, metrics⟩ := actSession_slips through holds hact
    have closed : Holds (closeSession f session (placed + carried) b').2.blotter _ :=
      acted.close (f.closes session)
    obtain ⟨holds, counts, recorded⟩ := ih closed hrun
    simp only [sessionSlips, hact]
    refine ⟨?_, ?_, ?_⟩
    · rwa [List.flatten_cons, ← List.append_assoc]
    · have own : (closeSession f session (placed + carried) b').1.report.ordersPlaced = placed + carried := rfl
      rw [List.map_cons, counts, modifyHead_add_zero, own, count, List.map_cons, List.modifyHead_cons]
    · rw [recorded, ← metrics]
      rfl

/-- A run has slips for each of its sessions. -/
theorem length_sessionSlips (h : runSessions f strategy earlier carried sessions b = (.ok records, last)) :
    (sessionSlips f strategy calls earlier carried sessions b).length = sessions.length := by
  induction sessions generalizing earlier carried b records with
  | nil => rfl
  | cons session rest ih =>
    obtain ⟨placed, b', later, hact, hrun, rfl⟩ := exists_of_runSessions_cons_ok h
    simp only [sessionSlips, hact, List.length_cons, ih hrun]

/-- Counts in which the orders from before the first session are counted in it add up to all orders. -/
theorem sum_modifyHead_length {turns : List (List Slip)} (nonempty : turns ≠ []) (initial : List Slip) :
    ((turns.map List.length).modifyHead (· + initial.length)).sum = (initial ++ turns.flatten).length := by
  cases turns with
  | nil => contradiction
  | cons turn rest =>
    simp only [List.map_cons, List.modifyHead_cons, List.sum_cons, List.flatten_cons, List.length_append,
      List.length_flatten]
    omega

namespace Scenario

variable (c : Scenario)

/-- The books in the end, whichever way the run ends. -/
def lastBooks (strategy : Strategy σ) (s : σ) : Books σ :=
  match c.sessions with
  | [] => c.books s
  | first :: rest => (runFrom c.feeds strategy first rest (c.books s)).2

/-- The slips of the orders that a strategy places before the run. -/
def slipsBefore (calls : StrategyCalls σ) (s : σ) : List Slip :=
  match c.sessions with
  | [] => []
  | first :: _ =>
    let b := c.books s
    slipsOf first (calls.beforeRun (b.outlook c.feeds [] first) (.new b.blotter) s)

/-- The slips of the orders that a strategy places in each session. -/
def slipsIn (strategy : Strategy σ) (calls : StrategyCalls σ) (s : σ) : List (List Slip) :=
  match c.sessions with
  | [] => []
  | first :: rest =>
    match actInitially c.feeds strategy first (c.books s) with
    | (.error _, _) => []
    | (.ok carried, b) => sessionSlips c.feeds strategy calls [] carried (first :: rest) b

/-- The slips of all orders of a run, in the order of their placing. -/
def allSlips (strategy : Strategy σ) (calls : StrategyCalls σ) (s : σ) : List Slip :=
  c.slipsBefore calls s ++ (c.slipsIn strategy calls s).flatten

/-- The sessions and the orders of a run, each accounted for once. -/
structure Accounts (strategy : Strategy σ) (calls : StrategyCalls σ) (s : σ) (p : Performance) :
    Prop where
  /-- There is a row for every session. -/
  rows : p.rows.map (·.session) = c.sessions
  /-- The blotter holds the orders in the order of their placing, numbered from one. -/
  orders : (c.lastBooks strategy s).blotter.orders.map asPlaced =
    numberedOrders (c.allSlips strategy calls s)
  /-- The metrics have recorded the reports of all sessions. -/
  recorded : (c.lastBooks strategy s).metrics =
    ((MetricsSet.ofKinds c.metrics).start c.capitalBase).recordAll
      ((c.records strategy s).map (·.report))
  /-- Every session reports its own orders, the first also those from before. -/
  counts : (c.records strategy s).map (·.report.ordersPlaced) =
    ((c.slipsIn strategy calls s).map List.length).modifyHead (· + (c.slipsBefore calls s).length)
  total : ((c.records strategy s).map (·.report.ordersPlaced)).sum = (c.allSlips strategy calls s).length
  totalOrders : .orders ∈ c.metrics →
    p.summary.get? "total_orders" = some (Float.ofNat (c.allSlips strategy calls s).length)
  tradingDays : .sessionCount ∈ c.metrics →
    p.summary.get? "trading_days" = some (Float.ofNat p.rows.length)

variable {c} {strategy : Strategy σ} {calls : StrategyCalls σ} {s : σ} {p : Performance}

/-- The parts of a run that succeeds. -/
theorem exists_of_run_ok (h : (c.run strategy s).1 = .ok p) :
    ∃ first rest carried b records, c.sessions = first :: rest ∧
      actInitially c.feeds strategy first (c.books s) = (.ok carried, b) ∧
      runSessions c.feeds strategy [] carried (first :: rest) b =
        (.ok records, c.lastBooks strategy s) ∧
      c.records strategy s = records ∧ p = performanceOf records (c.lastBooks strategy s) := by
  unfold run at h
  unfold lastBooks Scenario.records
  cases hsessions : c.sessions with
  | nil =>
    rw [hsessions] at h
    cases h
  | cons first rest =>
    have books : Books.new c.metrics c.policy c.capitalBase s = c.books s := rfl
    simp only [hsessions, runFrom, books] at h ⊢
    rcases hact : actInitially c.feeds strategy first (c.books s) with ⟨e | carried, b⟩
    · simp only [hact] at h
      cases h
    · simp only [hact] at h ⊢
      rcases hrun : runSessions c.feeds strategy [] carried (first :: rest) b with ⟨e | records, last⟩
      · simp only [hrun] at h
        cases h
      · simp only [hrun] at h
        refine ⟨first, rest, carried, b, records, rfl, hact, hrun,
          completed_of_runSessions (congrArg Prod.fst hrun), ?_⟩
        rcases ended : strategy.afterRun (performanceOf records last) last.strategy with ⟨e | _, s'⟩
        · simp only [ended] at h
          cases h
        · simp only [ended] at h
          cases h
          rfl

/-- What a strategy places before the run comes first in its log. -/
theorem actInitially_slips (through : strategy.CallsDesk calls) {first : Date} {carried : Nat}
    {b : Books σ} (h : actInitially c.feeds strategy first (c.books s) = (.ok carried, b)) :
    let o := (c.books s).outlook c.feeds [] first
    let slips := slipsOf first (calls.beforeRun o (.new (c.books s).blotter) s)
    Holds b.blotter slips ∧ carried = slips.length ∧ b.metrics = (c.books s).metrics := by
  intro o slips
  have acting := through.beforeRun o (.new (c.books s).blotter) s
  have start : Holds (Desk.new (c.books s).blotter).blotter [] := Holds.new c.policy
  have kept := start.performAll first (calls.beforeRun o (.new (c.books s).blotter) s)
  have state : (c.books s).strategy = s := rfl
  rw [actInitially, state] at h
  rcases before : strategy.beforeRun o (.new (c.books s).blotter) s with ⟨e | _, d, s'⟩
  · simp only [o, before] at h
    cases h
  · rw [before] at acting
    simp only [o, before] at h acting
    cases h
    have all : d = (Desk.new (c.books s).blotter).performAll first
        (calls.beforeRun o (.new (c.books s).blotter) s) := acting
    rw [← all] at kept
    exact ⟨kept.1, kept.2.trans (Nat.zero_add _), rfl⟩

/-- A run that succeeds accounts for its sessions and for its orders. -/
theorem accounts_of_run_ok (through : strategy.CallsDesk calls) (h : (c.run strategy s).1 = .ok p) :
    c.Accounts strategy calls s p := by
  obtain ⟨first, rest, carried, b, records, hsessions, hact, hrun, hrecords, rfl⟩ :=
    exists_of_run_ok h
  obtain ⟨start, count, metrics⟩ := actInitially_slips through hact
  obtain ⟨holds, counts, recorded⟩ := runSessions_accounts through start hrun
  have before : c.slipsBefore calls s =
      slipsOf first
        (calls.beforeRun ((c.books s).outlook c.feeds [] first) (.new (c.books s).blotter) s) := by
    simp only [slipsBefore, hsessions]
  have within : c.slipsIn strategy calls s =
      sessionSlips c.feeds strategy calls [] carried (first :: rest) b := by
    simp only [slipsIn, hsessions, hact]
  have rows : records.map (·.session) = c.sessions :=
    hsessions ▸ sessions_of_runSessions (congrArg Prod.fst hrun)
  have nonempty : c.slipsIn strategy calls s ≠ [] := by
    rw [within, ← List.length_pos_iff, length_sessionSlips hrun]
    exact Nat.succ_pos _
  rw [← before] at start count holds
  rw [← within] at holds counts
  have total : (records.map (·.report.ordersPlaced)).sum = (c.allSlips strategy calls s).length := by
    rw [counts, count, sum_modifyHead_length nonempty, allSlips]
  have summary : (performanceOf records (c.lastBooks strategy s)).summary =
      (((MetricsSet.ofKinds c.metrics).start c.capitalBase).recordAll
        (records.map (·.report))).summary := by
    rw [performanceOf, recorded, metrics]
    rfl
  refine
    { rows := ?rows, orders := holds.placed, recorded := ?recorded, counts := ?counts, total := ?total,
      totalOrders := fun here => ?totalOrders, tradingDays := fun here => ?tradingDays }
  case rows => rw [performanceOf, List.map_map, ← rows]; rfl
  case recorded => rw [hrecords, recorded, metrics]; rfl
  case counts => rw [hrecords, counts, count]
  case total => rw [hrecords, total]
  case totalOrders =>
    rw [summary, Metrics.summary_total_orders c.capitalBase here, List.map_map, ← total]
    rfl
  case tradingDays =>
    rw [summary, Metrics.summary_trading_days c.capitalBase here, List.length_map, performanceOf,
      List.length_map]

/-- No session and no order is lost or counted twice, whatever calendar tells the sessions, and whether a strategy
calls the desk from its phases or is the script of a text. -/
theorem accounts_of_every_run (c : Scenario) :
    (∀ (σ : Type) (strategy : Strategy σ) (calls : StrategyCalls σ) (s : σ) (p : Performance),
      strategy.CallsDesk calls → (c.run strategy s).1 = .ok p → c.Accounts strategy calls s p) ∧
    ∀ (filename : String) (lines : List ScriptLine) (seed : Bindings) (p : Performance),
      (c.run (.ofLines filename lines) seed).1 = .ok p →
        c.Accounts (.ofLines filename lines) (.ofLines filename lines) seed p :=
  ⟨fun _ _ _ _ _ through ran => accounts_of_run_ok through ran,
    fun filename lines _ _ ran => accounts_of_run_ok (Strategy.callsDesk_ofLines filename lines) ran⟩

/-- The phase that places one order. -/
def orderPhase : Phase Unit :=
  fun o d s => (.ok (), d.order "A" 1 o.session, s)

/-- The strategy that places an order before the run and in every session. -/
def orderAlways : Strategy Unit :=
  { Strategy.idle with beforeRun := orderPhase, onSession := orderPhase }

/-- The calls of that strategy. -/
def orderAlwaysCalls : StrategyCalls Unit :=
  ⟨fun _ _ _ => [.order "A" 1], fun _ _ _ => [], fun _ _ _ => [.order "A" 1]⟩

/-- From a Saturday to a Monday in a calendar of all days there are three sessions. Of four orders the one from
before the run is counted in the first of them; a script that orders daily places three. -/
theorem accounts_of_three_days :
    let c := { ofDays ⟨738009⟩ ⟨738011⟩ .never fun _ => some 1.0 with calendar := .everyDay }
    let lines := orderDaily "A" 1
    (∃ p, c.Accounts orderAlways orderAlwaysCalls () p ∧
      (c.records orderAlways ()).map (·.report.ordersPlaced) = [2, 1, 1]) ∧
    ∃ p, c.Accounts (.ofLines "strategy" lines) (.ofLines "strategy" lines) .empty p ∧
      (c.records (.ofLines "strategy" lines) .empty).map (·.report.ordersPlaced) = [1, 1, 1] := by
  intro c lines
  have through : orderAlways.CallsDesk orderAlwaysCalls :=
    ⟨fun _ _ _ => rfl, fun _ _ _ => rfl, fun _ _ _ => rfl⟩
  obtain ⟨p, ran⟩ : ∃ p, (c.run orderAlways ()).1 = .ok p := exists_of_isOk (by decide +kernel)
  obtain ⟨p', ran'⟩ : ∃ p, (c.run (.ofLines "strategy" lines) .empty).1 = .ok p :=
    exists_of_isOk (by decide +kernel)
  exact ⟨⟨p, (accounts_of_every_run c).1 _ _ _ _ _ through ran, by decide +kernel⟩,
    p', (accounts_of_every_run c).2 _ _ _ _ ran', by decide +kernel⟩

end Scenario

end Backtest.Simulation
