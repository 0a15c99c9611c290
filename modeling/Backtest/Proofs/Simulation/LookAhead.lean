import Backtest.Proofs.Simulation.History

/-!
# No look-ahead

Two runs whose data agree up to a day `d` cannot be told apart by what happens up to `d`. A strategy sees
the market only through an `Outlook`, and everything that an outlook answers is read from sessions of the
past and from adjustments that have taken effect. Hence the trading functions are the same functions in
both runs, and so are the strategy's acts and the closes of the sessions that they share.
-/

namespace Backtest.Market

open Backtest.Calendar (Date)

/-- Two bundles hold the same bars up to a day, and the same adjustments among those effective by then. -/
structure Bundle.AgreeUpTo (d : Date) (a b : Bundle) : Prop where
  bars : ∀ symbol field day, day ≤ d → a.daily.value symbol field day = b.daily.value symbol field day
  adjustments : ∀ symbol, (a.adjustments symbol).filter (fun x => decide (x.effective ≤ d)) =
    (b.adjustments symbol).filter (fun x => decide (x.effective ≤ d))

/-- What a day's value is adjusted by takes effect no later than the day that it is seen from. -/
theorem filter_between_of_le {d session asOf : Date} (h : asOf ≤ d) (adjustments : List Adjustment) :
    (adjustments.filter fun a => decide (a.effective ≤ d)).filter (·.between session asOf) =
      adjustments.filter (·.between session asOf) := by
  rw [List.filter_filter]
  apply List.filter_congr
  intro a _
  by_cases between : a.between session asOf
  · have effective : session < a.effective ∧ a.effective ≤ asOf := by
      simp only [Adjustment.between, Bool.and_eq_true, decide_eq_true_eq] at between
      exact between.1
    have seen : a.effective ≤ d := Int.le_trans effective.2 h
    rw [between, Bool.true_and, decide_eq_true seen]
  · rw [Bool.eq_false_iff.2 between, Bool.false_and]

/-- Prices up to a day are adjusted alike by adjustments that agree up to it. -/
theorem adjust_congr {d session asOf : Date} {as bs : List Adjustment} (h : asOf ≤ d)
    (agree : as.filter (fun x => decide (x.effective ≤ d)) =
      bs.filter (fun x => decide (x.effective ≤ d))) (raw : Float) (field : PriceField) :
    adjust raw field session asOf as = adjust raw field session asOf bs := by
  rw [adjust, adjust, ← filter_between_of_le h as, agree, filter_between_of_le h bs]

namespace Bundle.AgreeUpTo

variable {d : Date} {a b : Bundle} {sessions : List Date}

/-- Agreement up to a day goes both ways. -/
theorem symm (agree : AgreeUpTo d a b) : AgreeUpTo d b a :=
  ⟨fun symbol field day h => (agree.bars symbol field day h).symm,
    fun symbol => (agree.adjustments symbol).symm⟩

/-- Markets that agree up to a day have the same values up to it. -/
theorem current_eq (agree : AgreeUpTo d a b) {session : Date} (h : session ≤ d) (symbol : String)
    (field : PriceField) : a.current symbol field session = b.current symbol field session :=
  agree.bars symbol field session h

/-- The values of a symbol on days up to `d`, seen from the last of them. -/
theorem history_eq (agree : AgreeUpTo d a b) (h : ∀ session ∈ sessions, session ≤ d)
    (symbol : String) (field : PriceField) :
    a.history symbol field sessions = b.history symbol field sessions := by
  simp only [history]
  apply List.map_congr_left
  intro session mem
  rw [agree.bars symbol field session (h session mem)]
  cases b.daily.value symbol field session with
  | none => rfl
  | some raw =>
    cases hlast : sessions.getLast? with
    | none => rfl
    | some asOf =>
      have hasOf := h asOf (List.mem_of_getLast? hlast)
      exact congrArg some (adjust_congr hasOf (agree.adjustments symbol) raw field)

/-- They have the same rows of sessions up to it. -/
theorem rows_eq (agree : AgreeUpTo d a b) (h : ∀ session ∈ sessions, session ≤ d)
    (field : PriceField) (symbols : List String) :
    a.rows field sessions symbols = b.rows field sessions symbols := by
  simp only [rows]
  cases hlast : sessions.getLast? with
  | none => rfl
  | some asOf =>
    have hasOf := h asOf (List.mem_of_getLast? hlast)
    apply List.map_congr_left
    intro session mem
    apply List.map_congr_left
    intro symbol _
    rw [agree.bars symbol field session (h session mem)]
    congr 1
    funext raw
    exact adjust_congr hasOf (agree.adjustments symbol) raw field

/-- They load the same columns over sessions up to it. -/
theorem loadColumn_eq (agree : AgreeUpTo d a b) (h : ∀ session ∈ sessions, session ≤ d)
    (column : Column) (symbols : List String) :
    a.loadColumn column sessions symbols = b.loadColumn column sessions symbols := by
  simp only [loadColumn]
  cases column.field? with
  | none => rfl
  | some field => exact congrArg Except.ok (agree.rows_eq h field symbols)

end Bundle.AgreeUpTo

end Backtest.Market

namespace Backtest.Simulation

open Backtest.Calendar (Date)
open Backtest.Language (Bindings ScriptError ScriptLine Value)
open Backtest.Market (Bundle)
open Backtest.Run (RunError SimulationFault)

/-- Two runs read the same data of the days up to `d`. -/
structure Feeds.AgreeUpTo (d : Date) (f g : Feeds) : Prop where
  market : f.market.AgreeUpTo d g.market
  columns : f.columns.AgreeUpTo d g.columns
  benchmark : ∀ day, day ≤ d → f.benchmark.get? day = g.benchmark.get? day

/-- Agreement of feeds goes both ways. -/
theorem Feeds.AgreeUpTo.symm {d : Date} {f g : Feeds} (agree : AgreeUpTo d f g) : AgreeUpTo d g f :=
  ⟨agree.market.symm, agree.columns.symm, fun day h => (agree.benchmark day h).symm⟩

/-- Two outlooks that no trading function can tell apart. -/
structure Outlook.Alike (o p : Outlook) : Prop where
  session : o.session = p.session
  ledger : o.ledger = p.ledger
  price : o.price = p.price
  history : o.history = p.history
  pipelineValue : o.pipelineValue = p.pipelineValue

/-- An outlook looks back on sessions of the run so far. -/
theorem Outlook.mem_of_mem_window {o : Outlook} {count : Nat} {session : Date}
    (h : session ∈ o.window count) : session ∈ o.earlier ++ [o.session] :=
  List.mem_of_mem_drop h

/-- An outlook answers from the past: data that agree up to its session make it answer alike. -/
theorem Outlook.alike_of_agree {d : Date} {f g : Feeds} (agree : f.AgreeUpTo d g)
    {earlier : List Date} {session : Date} (h : ∀ s ∈ earlier ++ [session], s ≤ d)
    (ledger : Trading.Ledger) :
    Alike ⟨earlier, session, f.market, f.columns, ledger⟩
      ⟨earlier, session, g.market, g.columns, ledger⟩ where
  session := rfl
  ledger := rfl
  price := by
    funext symbol field
    exact agree.market.current_eq (h session (by simp)) symbol field
  history := by
    funext symbol field count
    exact agree.market.history_eq (fun s hs => h s (mem_of_mem_window hs)) symbol field
  pipelineValue := by
    funext column symbol count
    exact congrArg (Except.map _)
      (agree.columns.loadColumn_eq (fun s hs => h s (mem_of_mem_window hs)) column [symbol])

namespace Outlook.Alike

variable {o p : Outlook}

/-- Outlooks that are alike show the same. -/
theorem look_eq (alike : Alike o p) (f : TradingFunction) (args : List Value) :
    f.look o args = f.look p args := by
  unfold TradingFunction.look
  simp only [alike.session, alike.ledger, alike.price, alike.history]

/-- Trading functions do the same under outlooks that are alike. -/
theorem apply_eq (alike : Alike o p) (f : TradingFunction) (args : List Value) (s : TradingState) :
    f.apply o args s = f.apply p args s := by
  unfold TradingFunction.apply TradingFunction.runPipeline
  simp only [alike.session, alike.pipelineValue, alike.look_eq]

/-- Outlooks that are alike make the same host. -/
theorem tradingHost_eq (alike : Alike o p) : tradingHost o = tradingHost p := by
  simp only [tradingHost, alike.apply_eq]

/-- The lines of a script do the same under outlooks that are alike. -/
theorem ofLines_eq (alike : Alike o p) (describe : ScriptError → SimulationFault)
    (lines : List ScriptLine) :
    Phase.ofLines describe lines o = Phase.ofLines describe lines p := by
  funext d b
  simp only [Phase.ofLines, runTrading, alike.tradingHost_eq]

end Outlook.Alike

variable {d session : Date} {f g : Feeds} {earlier : List Date}

/-- In a session up to a day a script acts alike on feeds that agree up to it. -/
theorem actSession_congr (agree : f.AgreeUpTo d g) (h : ∀ s ∈ earlier ++ [session], s ≤ d)
    (filename : String) (lines : List ScriptLine) (b : Books Bindings) :
    actSession f (.ofLines filename lines) earlier session b =
      actSession g (.ofLines filename lines) earlier session b := by
  have alike := Outlook.alike_of_agree agree h b.ledger
  simp only [Strategy.ofLines_eq, actSession_ofPhase, Books.outlook, alike.ofLines_eq]

/-- Such a session closes alike. -/
theorem closeSession_congr {σ : Type} (agree : f.AgreeUpTo d g) (h : session ≤ d) (placed : Nat)
    (b : Books σ) : closeSession f session placed b = closeSession g session placed b := by
  have quotes : f.closes session = g.closes session := by
    funext symbol
    exact agree.market.current_eq h symbol .close
  simp only [closeSession, quotes, agree.benchmark session h]

/-- What two runs share of their sessions, up to a day to which their data agree, they do alike: they
record the same, and a failure in one is a failure in the other. -/
theorem runSessions_congr (agree : f.AgreeUpTo d g) (filename : String) (lines : List ScriptLine)
    (earlier shared rest rest' : List Date) (h : ∀ s ∈ earlier ++ shared, s ≤ d) (carried : Nat)
    (b : Books Bindings) :
    let strategy := Strategy.ofLines filename lines
    (completed f strategy earlier carried (shared ++ rest) b).take shared.length =
        (completed g strategy earlier carried (shared ++ rest') b).take shared.length ∧
      ∀ e, (runSessions f strategy earlier carried (shared ++ rest) b).1 = .error e →
        (completed f strategy earlier carried (shared ++ rest) b).length < shared.length →
        (runSessions g strategy earlier carried (shared ++ rest') b).1 = .error e ∧
          (completed g strategy earlier carried (shared ++ rest') b).length =
            (completed f strategy earlier carried (shared ++ rest) b).length := by
  intro strategy
  induction shared generalizing earlier carried b with
  | nil => simp
  | cons session shared ih =>
    have here : ∀ s ∈ earlier ++ [session], s ≤ d := by
      intro s hs
      apply h s
      rcases List.mem_append.1 hs with hs | hs
      · exact List.mem_append_left _ hs
      · exact List.mem_append_right _ (List.mem_singleton.1 hs ▸ List.mem_cons_self)
    have later : ∀ s ∈ earlier ++ [session] ++ shared, s ≤ d := by
      simpa using h
    have act : actSession f strategy earlier session b = actSession g strategy earlier session b :=
      actSession_congr agree here filename lines b
    simp only [List.cons_append, List.length_cons]
    rcases hact : actSession f strategy earlier session b with ⟨e | placed, b'⟩
    · rw [hact] at act
      rw [completed_cons_error hact, completed_cons_error act.symm, runSessions_cons_error hact,
        runSessions_cons_error act.symm]
      exact ⟨rfl, fun e' he _ => ⟨he, rfl⟩⟩
    · rw [hact] at act
      rw [completed_cons_ok hact, completed_cons_ok act.symm, runSessions_cons_ok hact,
        runSessions_cons_ok act.symm, ← closeSession_congr agree (here session (by simp))]
      obtain ⟨records, failure⟩ := ih (earlier ++ [session]) later 0
        (closeSession f session (placed + carried) b').2
      refine ⟨?_, fun e he hlength => ?_⟩
      · simp only [List.take_succ_cons, records]
      · generalize runSessions f strategy (earlier ++ [session]) 0 (shared ++ rest) _ = run
          at he failure
        rcases run with ⟨e' | _, _⟩
        · cases he
          obtain ⟨he', hlength'⟩ := failure e rfl (by simpa using hlength)
          simp only [he', Except.map, List.length_cons, hlength', and_self]
        · contradiction

namespace Scenario

/-- The sessions of a scenario up to one of them are no later than it. -/
theorem le_of_mem_take {c : Scenario} {k : Nat} (kth : c.sessions[k]? = some d) {s : Date}
    (h : s ∈ c.sessions.take (k + 1)) : s ≤ d := by
  obtain ⟨hk, rfl⟩ := List.getElem?_eq_some_iff.1 kth
  rw [List.take_succ_eq_append_getElem hk] at h
  rcases List.mem_append.1 h with h | h
  · obtain ⟨i, hi, rfl⟩ := List.getElem_of_mem h
    rw [List.length_take] at hi
    rw [List.getElem_take]
    have := List.pairwise_iff_getElem.1 c.sessions_pairwise i k (by omega) hk (by omega)
    exact Int.le_of_lt this
  · rw [List.mem_singleton.1 h]
    exact Int.le_refl _

/-- Two scenarios for the same strategy whose first `k + 1` sessions are the same, `d` being the last of
them, and whose data agree up to `d`. Their calendars and their later sessions may differ. -/
structure AgreeUpTo (k : Nat) (d : Date) (c c' : Scenario) : Prop where
  capitalBase : c.capitalBase = c'.capitalBase
  metrics : c.metrics = c'.metrics
  policy : c.policy = c'.policy
  sessions : c.sessions.take (k + 1) = c'.sessions.take (k + 1)
  last : c.sessions[k]? = some d
  feeds : c.feeds.AgreeUpTo d c'.feeds

/-- Agreement of scenarios goes both ways. -/
theorem AgreeUpTo.symm {k : Nat} {c c' : Scenario} (agree : AgreeUpTo k d c c') :
    AgreeUpTo k d c' c where
  capitalBase := agree.capitalBase.symm
  metrics := agree.metrics.symm
  policy := agree.policy.symm
  sessions := agree.sessions.symm
  last := by
    rw [← List.getElem?_take_of_lt (Nat.lt_succ_self k), ← agree.sessions,
      List.getElem?_take_of_lt (Nat.lt_succ_self k), agree.last]
  feeds := agree.feeds.symm

/-- A run fails with an error in one of its sessions, which are numbered from zero. -/
def FailsIn {σ : Type} (c : Scenario) (strategy : Strategy σ) (s : σ) (i : Nat) (e : RunError) : Prop :=
  (c.run strategy s).1 = .error e ∧ (c.records strategy s).length = i

variable {k : Nat} {c c' : Scenario}

/-- What scenarios that agree do in the sessions that they share. -/
theorem AgreeUpTo.runSessions_congr (agree : AgreeUpTo k d c c') (filename : String)
    (lines : List ScriptLine) (seed : Bindings) :
    let strategy := Strategy.ofLines filename lines
    (c.records strategy seed).take (k + 1) = (c'.records strategy seed).take (k + 1) ∧
      ∀ i e, i ≤ k → c.FailsIn strategy seed i e → c'.FailsIn strategy seed i e := by
  intro strategy
  have hk : k < c.sessions.length := (List.getElem?_eq_some_iff.1 agree.last).1
  have hk' : k < c'.sessions.length := (List.getElem?_eq_some_iff.1 agree.symm.last).1
  have books : c'.books seed = c.books seed := by
    simp only [Scenario.books, agree.capitalBase, agree.metrics, agree.policy]
  have length : (c.sessions.take (k + 1)).length = k + 1 := by
    rw [List.length_take]
    omega
  have cover : c.sessions.take (k + 1) ++ c.sessions.drop (k + 1) = c.sessions :=
    List.take_append_drop ..
  have cover' : c.sessions.take (k + 1) ++ c'.sessions.drop (k + 1) = c'.sessions := by
    rw [agree.sessions, List.take_append_drop]
  have early : ∀ s ∈ [] ++ c.sessions.take (k + 1), s ≤ d := by
    simpa using fun s hs => le_of_mem_take agree.last hs
  have congr := Simulation.runSessions_congr agree.feeds filename lines [] (c.sessions.take (k + 1))
    (c.sessions.drop (k + 1)) (c'.sessions.drop (k + 1)) early 0 (c.books seed)
  rw [cover, cover', length] at congr
  have nonempty : c.sessions ≠ [] := List.ne_nil_of_length_pos (by omega)
  have nonempty' : c'.sessions ≠ [] := List.ne_nil_of_length_pos (by omega)
  simp only [FailsIn, strategy, Strategy.ofLines_eq, records_ofPhase, books,
    run_eq_error_iff nonempty, run_eq_error_iff nonempty'] at congr ⊢
  refine ⟨congr.1, fun i e hi failed => ?_⟩
  obtain ⟨failed', length'⟩ := congr.2 e failed.1 (by omega)
  exact ⟨failed', length'.trans failed.2⟩

/-- No look-ahead. When two scenarios agree up to the session number `k`, then successful runs have the same
rows up to that session, and a run that fails by then makes the other fail in the same session with the
same error. -/
theorem run_agree_upTo (agree : c.AgreeUpTo k d c') (filename : String) (lines : List ScriptLine)
    (seed : Bindings) :
    let strategy := Strategy.ofLines filename lines
    (∀ p p', (c.run strategy seed).1 = .ok p → (c'.run strategy seed).1 = .ok p' →
      p.rows.take (k + 1) = p'.rows.take (k + 1)) ∧
    ∀ i e, i ≤ k → (c.FailsIn strategy seed i e ↔ c'.FailsIn strategy seed i e) := by
  intro strategy
  obtain ⟨records, failure⟩ := agree.runSessions_congr filename lines seed
  refine ⟨fun p p' ok ok' => ?_, fun i e hi => ⟨failure i e hi, ?_⟩⟩
  · rw [(rows_of_run ok).1, (rows_of_run ok').1, ← List.map_take, ← List.map_take]
    exact congrArg _ records
  · exact (agree.symm.runSessions_congr filename lines seed).2 i e hi

/-- A run to a later day, on closes that differ behind the second session, has the same first two rows. -/
theorem run_agree_upTo_second_session :
    let day : Date := ⟨738005⟩
    let c := ofDays ⟨738004⟩ ⟨738006⟩ .never fun d => some (if d ≤ day then 1.0 else 2.0)
    let c' := ofDays ⟨738004⟩ ⟨738007⟩ .never fun d => some (if d ≤ day then 1.0 else 3.0)
    let strategy := Strategy.ofLines "strategy" (orderDaily "A" 1)
    c.AgreeUpTo 1 day c' ∧
      ∃ p p', (c.run strategy .empty).1 = .ok p ∧ (c'.run strategy .empty).1 = .ok p' ∧
        p.rows.take 2 = p'.rows.take 2 ∧
        ∀ i e, i ≤ 1 → (c.FailsIn strategy .empty i e ↔ c'.FailsIn strategy .empty i e) := by
  intro day c c' strategy
  have bundles : c.feeds.market.AgreeUpTo day c'.feeds.market :=
    ⟨fun _ _ d hd => by simp [c, c', ofDays, hd], fun _ => rfl⟩
  have agree : c.AgreeUpTo 1 day c' :=
    { capitalBase := rfl
      metrics := rfl
      policy := rfl
      sessions := by decide
      last := by decide
      feeds := ⟨bundles, bundles, fun _ _ => rfl⟩ }
  obtain ⟨rows, failures⟩ := run_agree_upTo agree "strategy" (orderDaily "A" 1) .empty
  obtain ⟨p, ok⟩ : ∃ p, (c.run strategy .empty).1 = .ok p := exists_of_isOk (by decide +kernel)
  obtain ⟨p', ok'⟩ : ∃ p', (c'.run strategy .empty).1 = .ok p' := exists_of_isOk (by decide +kernel)
  exact ⟨agree, p, p', ok, ok', rows p p' ok ok', failures⟩

end Scenario

end Backtest.Simulation
