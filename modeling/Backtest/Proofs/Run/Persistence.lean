import Backtest.Proofs.Results.Document
import Backtest.Proofs.Run.Stages

/-!
# Results read back from their file

A run that writes its results to a file leaves a file from which they can be read back if all of its numbers
are finite, and only then: a number that is none, or an infinite one, is written as null, which is no number
to the reader.
-/

namespace Backtest.Files.Workspace

variable {w written : Workspace} {path text : String}

/-- Whether a path leads to the device that swallows what is written. -/
def leadsToSink (w : Workspace) (path : String) : Bool :=
  match w.target path with
  | .ok ⟨_, some .sink⟩ => true
  | _ => false

/-- What can be written nowhere in particular leads to a device that takes everything. -/
theorem leadsToSink_of_writable_none (h : w.writable path = .ok none) : w.leadsToSink path := by
  unfold writable at h
  obtain ⟨_, -, h⟩ := exists_of_bind_eq_ok h
  obtain ⟨_, -, h⟩ := exists_of_bind_eq_ok h
  obtain ⟨⟨place, entry⟩, led, h⟩ := exists_of_bind_eq_ok h
  match entry with
  | some .sink => rw [leadsToSink, led]
  | some (.file _) | some .directory | some .full | none => cases h

/-- What is written to a file leads to no such device. -/
theorem not_leadsToSink_of_writable_some {place : List String} {content : ByteArray}
    (h : w.writable path = .ok (some (place, content))) : w.leadsToSink path = false := by
  obtain ⟨⟨entry, led⟩, -, free⟩ := writable_eq_some h
  obtain ⟨-, route, -, found, -⟩ := target_eq_ok_iff.1 led
  have stands : entry = w.get? place := find_eq_ok found
  unfold leadsToSink
  rw [led, stands]
  rcases free with file | nothing
  · rw [file]
  · rw [nothing]

/-- Such a device is no directory and has nothing to read. -/
theorem readBytes_of_leadsToSink (h : w.leadsToSink path) :
    w.isDirectory path = false ∧ w.readBytes path = .ok .empty := by
  unfold leadsToSink at h
  split at h
  · rename_i led
    rw [isDirectory, readBytes, led]
    exact ⟨rfl, rfl⟩
  · cases h

/-- A text that has been written is in its file, unless a device has swallowed it. -/
theorem readBytes_of_writeText (h : w.writeText path text = .ok written) :
    written.isDirectory path = false ∧
      written.readBytes path = .ok (if w.leadsToSink path then .empty else text.toUTF8) := by
  unfold writeText at h
  obtain ⟨place?, writable, h⟩ := exists_of_bind_eq_ok h
  match place? with
  | none =>
    cases h
    have sink := leadsToSink_of_writable_none writable
    rw [if_pos sink]
    exact readBytes_of_leadsToSink sink
  | some (place, content) =>
    cases h
    rw [if_neg (by simp [not_leadsToSink_of_writable_some writable])]
    refine ⟨?_, readBytes_put writable _⟩
    rw [isDirectory, target_put writable]

end Backtest.Files.Workspace

namespace Backtest.Metrics

/-- No metric has a column with the name under which a row has its session. -/
theorem session_not_mem_keys_packet (s : MetricsSet) (r : SessionReport) :
    "session" ∉ (s.packet r).keys := by
  intro mem
  obtain ⟨e, he, name⟩ := List.mem_map.1 mem
  obtain ⟨m, -, column⟩ := List.mem_filterMap.1 (SortedMap.mem_of_mem_ofList he)
  cases m <;> simp only [Metric.column?, Option.some.injEq, reduceCtorEq] at column <;>
    (subst column; simp at name)

end Backtest.Metrics

namespace Backtest.Simulation

open Backtest.Calendar (Date)

variable {σ : Type}

/-- The columns of every session are what its metrics report. -/
theorem columns_of_completed (f : Feeds) (strategy : Strategy σ) (earlier : List Date) (carried : Nat)
    (rest : List Date) (b : Books σ) :
    ∀ r ∈ completed f strategy earlier carried rest b,
      ∃ (s : Metrics.MetricsSet) (report : Metrics.SessionReport), r.columns = s.packet report := by
  induction rest generalizing earlier carried b with
  | nil => exact fun _ h => by cases h
  | cons session rest ih =>
    rcases hact : actSession f strategy earlier session b with ⟨e | placed, b'⟩
    · rw [completed_cons_error hact]
      exact fun _ h => by cases h
    · rw [completed_cons_ok hact]
      intro r hr
      rcases List.mem_cons.1 hr with rfl | later
      · exact ⟨_, _, rfl⟩
      · exact ih _ _ _ r later

/-- The sessions of a scenario that begins in the calendar are dates of the calendar. -/
theorem Scenario.inCalendar_of_mem_sessions {c : Scenario} (first : c.first.InCalendar) {d : Date}
    (h : d ∈ c.sessions) : d.InCalendar := by
  obtain ⟨after, -, inside⟩ := c.calendar.schedule.within c.first c.last d h
  exact ⟨Int.le_trans first.1 after, inside⟩

end Backtest.Simulation

namespace Backtest.Run

open Backtest.Calendar (Date)
open Backtest.Component (Components)
open Backtest.Files (Workspace)
open Backtest.Results (DailyPerformance Performance)
open Backtest.Simulation (Scenario)

section Files

variable {w written : Workspace} {p : Performance} {path : String}

/-- A record that has been written is read back if its numbers are finite and no device has swallowed it. -/
theorem loadPersisted_of_persist (plain : ∀ row ∈ p.rows, row.Plain)
    (wrote : persist w path p = .ok written) :
    if p.allFinite && !w.leadsToSink path then
      ∃ q, loadPersisted written path = .ok q ∧ p.SameShape q
    else loadPersisted written path = .error (.persist path .malformed) := by
  have text : w.writeText path p.documentText = .ok written := by
    unfold persist at wrote
    split at wrote
    · rename_i done
      cases wrote
      exact done
    · cases wrote
  obtain ⟨file, bytes⟩ := Workspace.readBytes_of_writeText text
  unfold loadPersisted
  rw [file, bytes]
  simp only [Bool.false_eq_true, if_false]
  cases w.leadsToSink path with
  | true =>
    have nothing : Performance.ofBytes? .empty = none := by
      rw [← Option.isNone_iff_eq_none]
      decide +kernel
    simp only [if_true, nothing, Bool.not_true, Bool.and_false, Bool.false_eq_true, if_false]
  | false =>
    simp only [Bool.false_eq_true, if_false, Performance.ofBytes?_documentText, Bool.not_false,
      Bool.and_true]
    cases finite : p.allFinite with
    | true =>
      obtain ⟨q, read, same⟩ := Performance.exists_ofDocument?_document plain finite
      rw [if_pos rfl, read]
      exact ⟨q, rfl, same⟩
    | false =>
      rw [if_neg Bool.false_ne_true, Performance.ofDocument?_document_eq_none plain finite]

end Files

namespace Request

variable {σ : Type} {r : Request σ} {components : Components} {s : Sources} {w : Workspace}
  {p : Performance} {path : String}

/-- The rows of a script's run are written so that they can be told from their sessions. -/
theorem plain_rows_of_execute_ok (script : ∃ filename text, r.strategy = .script filename text)
    (first : r.first.InCalendar) (ran : (r.execute s components w).result = .ok p) :
    ∀ row ∈ p.rows, row.Plain := by
  obtain ⟨resolved, filename, lines, bindings, settled⟩ := exists_settled_of_execute_ok script ran
  obtain ⟨benchmark, bundle, -, runs⟩ := (settled.succeeds ran).runs
  rw [Simulation.Strategy.ofLines_eq] at runs
  obtain ⟨rows, sessions⟩ := Scenario.rows_of_run runs
  intro row mem
  rw [rows] at mem
  obtain ⟨record, recorded, rfl⟩ := List.mem_map.1 mem
  constructor
  · have : record.session ∈ (r.scenario resolved benchmark bundle).sessions :=
      sessions ▸ List.mem_map_of_mem recorded
    exact Scenario.inCalendar_of_mem_sessions first this
  · rw [Scenario.records_ofPhase] at recorded
    obtain ⟨metrics, report, columns⟩ :=
      Simulation.columns_of_completed _ _ _ _ _ _ record recorded
    simp only [columns]
    exact Metrics.session_not_mem_keys_packet metrics report

/-- A run that succeeds has persisted its results on the route to a file. -/
theorem persist_of_execute_ok (script : ∃ filename text, r.strategy = .script filename text)
    (route : r.output = .persist path) (ran : (r.execute s components w).result = .ok p) :
    persist w path p = .ok (r.execute s components w).workspace := by
  obtain ⟨resolved, filename, lines, bindings, settled⟩ := exists_settled_of_execute_ok script ran
  have sent := (settled.succeeds ran).sent
  rwa [route] at sent

/-- A script's run that writes its results leaves a file from which they can be read back, with the same
sessions, columns and names of the summary, if all numbers are finite and the path is no device that swallows
them; otherwise what is there is no record. -/
theorem loadPersisted_of_execute_ok (script : ∃ filename text, r.strategy = .script filename text)
    (first : r.first.InCalendar) (route : r.output = .persist path)
    (ran : (r.execute s components w).result = .ok p) :
    let written := (r.execute s components w).workspace
    if p.allFinite && !w.leadsToSink path then
      ∃ q, loadPersisted written path = .ok q ∧ p.SameShape q
    else loadPersisted written path = .error (.persist path .malformed) :=
  loadPersisted_of_persist (plain_rows_of_execute_ok script first ran)
    (persist_of_execute_ok script route ran)

/-- The request to keep a capital through a week and to write down every evening what there is of it. -/
def keepCapital (capitalBase : Float) : Request Empty where
  strategy := .ofText "# idle"
  first := ⟨738893⟩
  last := ⟨738897⟩
  capitalBase := capitalBase
  metrics := .given [.cash]
  output := .persist "results.json"

/-- A market without a day. -/
def noMarket : Sources :=
  ⟨fun _ => .ok .empty, fun _ _ _ => .ok (.ofBars .empty none [])⟩

/-- How the request ends in an empty workspace. -/
def keptCapital (capitalBase : Float) : Outcome Empty :=
  (keepCapital capitalBase).execute noMarket .standard .empty

/-- The day of the request is a date of the calendar. -/
theorem inCalendar_keepCapital (capitalBase : Float) : (keepCapital capitalBase).first.InCalendar :=
  ⟨(by decide : Date.ofParts Calendar.firstYear 1 1 ≤ ⟨738893⟩), (by decide : ⟨738893⟩ ≤ Date.last)⟩

/-- A result that passes a test. -/
theorem exists_of_any {result : Except RunError Performance} {test : Performance → Bool}
    (h : result.toOption.any test) : ∃ p, result = .ok p ∧ test p := by
  cases result with
  | ok p => exact ⟨p, rfl, h⟩
  | error e => cases h

/-- A capital of a hundred is read back on all five evenings. -/
theorem loadPersisted_of_finite_capital :
    let outcome := keptCapital 100.0
    ∃ p, outcome.result = .ok p ∧ p.rows.length = 5 ∧
      ∃ q, loadPersisted outcome.workspace "results.json" = .ok q ∧ p.SameShape q := by
  intro outcome
  obtain ⟨p, ran, holds⟩ : ∃ p, outcome.result = .ok p ∧
      p.allFinite && !Workspace.empty.leadsToSink "results.json" && p.rows.length == 5 :=
    exists_of_any (by decide +kernel)
  rw [Bool.and_eq_true] at holds
  have route : (keepCapital 100.0).output = .persist "results.json" := rfl
  have loaded := loadPersisted_of_execute_ok ⟨_, _, rfl⟩ (inCalendar_keepCapital 100.0) route ran
  rw [if_pos holds.1] at loaded
  exact ⟨p, ran, by simpa using holds.2, loaded⟩

/-- A run can succeed and write its results though they cannot be read back: an infinite capital is written
as null. -/
theorem not_all_persisted_loaded :
    ¬∀ (r : Request Empty) (components : Components) (s : Sources) (w : Workspace) (p : Performance)
        (path : String), (∃ filename text, r.strategy = .script filename text) →
      r.first.InCalendar → r.output = .persist path → (r.execute s components w).result = .ok p →
      ∃ q, loadPersisted (r.execute s components w).workspace path = .ok q ∧ p.SameShape q := by
  intro always
  let capital : Float := 1.0 / 0.0
  obtain ⟨p, ran, infinite⟩ : ∃ p, (keptCapital capital).result = .ok p ∧ !p.allFinite :=
    exists_of_any (by decide +kernel)
  have script : ∃ filename text, (keepCapital capital).strategy = .script filename text :=
    ⟨_, _, rfl⟩
  have first := inCalendar_keepCapital capital
  obtain ⟨q, loaded, -⟩ := always _ _ _ _ p "results.json" script first rfl ran
  have unloaded := loadPersisted_of_persist (plain_rows_of_execute_ok script first ran)
    (persist_of_execute_ok script rfl ran)
  rw [Bool.not_eq_true'] at infinite
  rw [infinite, Bool.false_and, if_neg Bool.false_ne_true] at unloaded
  have impossible := unloaded.symm.trans loaded
  cases impossible

end Request

end Backtest.Run
