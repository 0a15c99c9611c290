import Backtest.Proofs.Component.Calls

/-!
# Reports of loads

A load accounts for its whole queue: each extension, as often as it stands there, is loaded, skipped or
failed, and what is reported as loaded is what the host has gained. As long as nothing is reloaded, no
extension is loaded twice, in one call or in many. A failure takes nothing away from the host: an extension
that counts as loaded goes on doing so when a reload of it fails, and the next load skips it.
-/

namespace Backtest.Component

open Backtest.Files (Environment Workspace)

/-- A report that is answered is the one of the visits. -/
theorem LoadMode.eq_ofVisits_of_answer {mode : LoadMode} {visits : List Visit} {report : LoadReport}
    (h : mode.answer visits = .ok report) : report = .ofVisits visits := by
  unfold answer at h
  split at h
  · cases h
  · exact (Except.ok.inj h).symm

/-- The report lists an extension as loaded if and only if a visit has loaded it. -/
theorem LoadReport.mem_loaded_ofVisits {visits : List Visit} {x : String} :
    x ∈ (ofVisits visits).loaded ↔ ∃ v ∈ visits, v.outcome = .loaded ∧ v.extension = x := by
  simp [ofVisits, and_assoc]

namespace ExtensionHost

variable {s : Surroundings} {mode : LoadMode} {h : ExtensionHost}

/-- An extension is skipped if it counted as loaded before the load or was loaded earlier in its queue. -/
theorem skipped_iff {queue : List String} {earlier later : List Visit} {v : Visit}
    (split : h.visits s mode queue = earlier ++ v :: later) :
    v.outcome = .skipped ↔ mode.reload = false ∧ (h.isLoaded v.extension = true ∨
      ∃ u ∈ earlier, u.outcome = .loaded ∧ u.extension = v.extension) := by
  obtain ⟨-, front, visited⟩ := visits_split split
  have known := isLoaded_afterVisits s mode (queue.take earlier.length) h v.extension
  rw [front] at known
  rw [← known, ← visit_skipped_iff (s := s), ← visited]

/-- Without reload, a queue loads each extension at most once, and none that counted as loaded: what the rest of
the queue loads is new to the host that the first visit leaves, so it is new to the first host as well and differs
from what the visit has loaded. -/
theorem loaded_visits_new (unreloaded : mode.reload = false) (queue : List String) (h : ExtensionHost) :
    (LoadReport.ofVisits (h.visits s mode queue)).loaded.Nodup ∧
      ∀ x ∈ (LoadReport.ofVisits (h.visits s mode queue)).loaded, h.isLoaded x = false := by
  induction queue generalizing h with
  | nil => simp [visits, LoadReport.ofVisits]
  | cons x rest ih =>
    let v := h.visit s mode.reload x
    obtain ⟨tail, visited, nodup, new⟩ : ∃ tail, h.visits s mode (x :: rest) = v :: tail ∧
        (LoadReport.ofVisits tail).loaded.Nodup ∧
        ∀ y ∈ (LoadReport.ofVisits tail).loaded, v.after.isLoaded y = false := by
      simp only [visits]
      split
      · exact ⟨[], rfl, .nil, by simp [LoadReport.ofVisits]⟩
      · exact ⟨_, rfl, ih v.after⟩
    have before : ∀ y ∈ (LoadReport.ofVisits tail).loaded,
        h.isLoaded y = false ∧ ¬(v.outcome = .loaded ∧ x = y) := by
      intro y hy
      have later := new y hy
      rw [← Bool.not_eq_true, visit_isLoaded, not_or] at later
      exact ⟨Bool.eq_false_iff.2 later.1, later.2⟩
    rw [visited, LoadReport.ofVisits_cons, LoadReport.consVisit]
    split
    · exact ⟨nodup, fun y hy => (before y hy).1⟩
    · rename_i outcome
      have unknown : h.isLoaded x = false := by
        have unskipped : ¬(mode.reload = false ∧ h.isLoaded x = true) :=
          fun skips => by simp [visit_skipped_iff.2 skips, v] at outcome
        simpa [unreloaded] using unskipped
      have own : v.extension = x := visit_extension ..
      refine ⟨List.nodup_cons.2 ⟨fun hx => (before _ hx).2 ⟨outcome, own.symm⟩, nodup⟩, ?_⟩
      exact List.forall_mem_cons.2 ⟨own ▸ unknown, fun y hy => (before y hy).1⟩
    · exact ⟨nodup, fun y hy => (before y hy).1⟩

/-- A load that has a report has that of its visits. -/
theorem exists_visits_of_report {environment : Environment} {o : LoadOptions} {w : Workspace}
    {report : LoadReport} (answered : (h.load environment o w).1 = .ok report) :
    ∃ s queue, report = .ofVisits (h.visits s o.mode queue) ∧
      (h.load environment o w).2.1 = h.afterVisits (h.visits s o.mode queue) := by
  rcases hready : o.prepare environment w with ⟨fault | _, made⟩
  · rw [load_of_unready hready] at answered
    cases answered
  · rw [load_of_ready hready] at answered ⊢
    cases hanswer : o.mode.answer (h.visits (.of environment made) o.mode (o.queue environment)) with
    | error failure =>
      rw [hanswer] at answered
      cases answered
    | ok found =>
      rw [hanswer] at answered
      cases answered
      exact ⟨_, _, LoadMode.eq_ofVisits_of_answer hanswer, rfl⟩

/-- What a load reports as loaded is what the host gains. -/
theorem isLoaded_of_report {environment : Environment} {o : LoadOptions} {w : Workspace}
    {report : LoadReport} (answered : (h.load environment o w).1 = .ok report) (x : String) :
    (h.load environment o w).2.1.isLoaded x = true ↔ h.isLoaded x = true ∨ x ∈ report.loaded := by
  obtain ⟨s, queue, rfl, last⟩ := exists_visits_of_report answered
  rw [last, isLoaded_afterVisits, LoadReport.mem_loaded_ofVisits]

/-- Without reload, a call loads each extension at most once, and only what did not count as loaded. -/
theorem loaded_report_new {call : HostCall} {report : LoadReport} (unreloaded : call.reloads = false)
    (reported : h.report? call = some report) :
    report.loaded.Nodup ∧
      ∀ x ∈ report.loaded, h.isLoaded x = false ∧ (h.perform call).isLoaded x = true := by
  cases call with
  | addModule name initializer => cases reported
  | load environment o w =>
    have answered : (h.load environment o w).1 = .ok report := by
      rw [report?] at reported
      cases hanswer : (h.load environment o w).1 with
      | error e => simp [hanswer, Except.toOption] at reported
      | ok found => simpa [hanswer, Except.toOption] using reported
    obtain ⟨s, queue, rfl, -⟩ := exists_visits_of_report answered
    obtain ⟨nodup, new⟩ := loaded_visits_new unreloaded queue h
    exact ⟨nodup, fun x hx => ⟨new x hx, (isLoaded_of_report answered x).2 (.inr hx)⟩⟩

/-- Without reload, calls load each extension at most once together, and none that counted as loaded, as no call
makes what is loaded new again. -/
theorem loaded_reports_new {calls : List HostCall} (unreloaded : ∀ c ∈ calls, c.reloads = false)
    (h : ExtensionHost) :
    ((h.reports calls).flatMap (·.loaded)).Nodup ∧
      ∀ x ∈ (h.reports calls).flatMap (·.loaded), h.isLoaded x = false := by
  induction calls generalizing h with
  | nil => simp [reports]
  | cons call rest ih =>
    obtain ⟨first, others⟩ := List.forall_mem_cons.1 unreloaded
    obtain ⟨nodup, new⟩ := ih others (h.perform call)
    have before : ∀ x ∈ ((h.perform call).reports rest).flatMap (·.loaded), h.isLoaded x = false := by
      intro x hx
      cases known : h.isLoaded x with
      | false => rfl
      | true => exact absurd (isLoaded_performAll [call] known) (by simp [performAll, new x hx])
    rw [reports, List.flatMap_append]
    cases reported : h.report? call with
    | none => exact ⟨by simpa using nodup, by simpa using before⟩
    | some report =>
      obtain ⟨own_nodup, own⟩ := loaded_report_new first reported
      have apart : ∀ x ∈ report.loaded, ∀ y ∈ ((h.perform call).reports rest).flatMap (·.loaded),
          x ≠ y := by
        rintro x hx _ hy rfl
        simpa [(own x hx).2] using new x hy
      rw [Option.toList_some, List.flatMap_singleton]
      refine ⟨List.nodup_append.2 ⟨own_nodup, nodup, apart⟩, fun x hx => ?_⟩
      exact (List.mem_append.1 hx).elim (fun hx => (own x hx).1) (before x)

/-- A load that fails has visited its queue up to the extension that failed, which is the first to fail in a lenient
load of the same queue, and the rest of the queue has no say. -/
theorem visits_of_failure {queue : List String} {failure : LoadFailure}
    (answered : mode.answer (h.visits s mode queue) = .error failure) :
    ∃ earlier v, h.visits s mode queue = earlier ++ [v] ∧ (∀ u ∈ earlier, u.failure? = none) ∧
      v.failure? = some (failure.extension, failure.fault) ∧
      ∀ rest, h.visits s mode (queue.take (earlier.length + 1) ++ rest) = earlier ++ [v] := by
  obtain ⟨strict, reload⟩ := mode
  cases strict with
  | false => cases (LoadMode.answer_of_complete (.inl rfl)).symm.trans answered
  | true =>
    cases first : (h.visits s ⟨false, reload⟩ queue).findSome? (·.failure?) with
    | none =>
      have unfailed := List.findSome?_eq_none_iff.1 first
      rw [visits_strict_of_unfailed unfailed] at answered
      cases (LoadMode.answer_of_complete (.inr unfailed)).symm.trans answered
    | some found =>
      obtain ⟨earlier, v, later, split, failed, unfailed⟩ := List.findSome?_eq_some_iff.1 first
      have front : earlier ++ [v] <+: h.visits s ⟨false, reload⟩ queue := ⟨later, by simp [split]⟩
      have stopped := visits_strict_of_failed front unfailed (by simp [failed])
      rw [stopped, LoadMode.answer_of_failure earlier rfl unfailed failed] at answered
      cases answered
      refine ⟨earlier, v, stopped, unfailed, failed, fun rest => ?_⟩
      refine visits_strict_of_failed ?_ unfailed (by simp [failed])
      have visited := visits_take rfl front
      rw [List.length_append, List.length_singleton] at visited
      rw [visits_append rfl, visited]
      exact List.prefix_append _ _

/-- A load accounts for its queue. The visits are of the extensions in their positions, each at the host that
a load of the positions before leaves. If the load is not strict, every position is visited, and the report
lists the positions by what becomes of them. If it fails, the last visit is the one that failed, and what comes
after its position does not matter. As long as nothing is reloaded, calls load no extension twice. -/
theorem load_accounts_for_queue (h : ExtensionHost) :
    (∀ environment (o : LoadOptions) w made, o.prepare environment w = (.ok (), made) →
      let queue := o.queue environment
      let s := Surroundings.of environment made
      let visits := h.visits s o.mode queue
      let answer := (h.load environment o w).1
      let last := (h.load environment o w).2.1
      (∀ earlier v later, visits = earlier ++ v :: later →
        queue[earlier.length]? = some v.extension ∧
        v = (h.loadQueue s o.mode (queue.take earlier.length)).2.visit s o.mode.reload v.extension ∧
        (v.outcome = .skipped ↔ o.mode.reload = false ∧ (h.isLoaded v.extension = true ∨
          ∃ u ∈ earlier, u.outcome = .loaded ∧ u.extension = v.extension))) ∧
      (o.mode.strict = false → ∃ report, answer = .ok report ∧
        visits.map (·.extension) = queue ∧
        report.loaded = (visits.filter (·.outcome = .loaded)).map (·.extension) ∧
        report.skipped = (visits.filter (·.outcome = .skipped)).map (·.extension) ∧
        report.failed = visits.filterMap (·.failure?) ∧
        ∀ x, last.isLoaded x = true ↔ h.isLoaded x = true ∨ x ∈ report.loaded) ∧
      ∀ failure, answer = .error (.extension failure) →
        ∃ earlier v, visits = earlier ++ [v] ∧ (∀ u ∈ earlier, u.failure? = none) ∧
          v.failure? = some (failure.extension, failure.fault) ∧
          (∀ x, last.isLoaded x = true ↔
            h.isLoaded x = true ∨ ∃ u ∈ earlier, u.outcome = .loaded ∧ u.extension = x) ∧
          ∀ rest, h.loadQueue s o.mode (queue.take (earlier.length + 1) ++ rest) =
            (.error failure, last)) ∧
    ∀ calls : List HostCall, (∀ c ∈ calls, c.reloads = false) →
      ((h.reports calls).flatMap (·.loaded)).Nodup := by
  refine ⟨fun environment o w made ready => ?_, fun calls unreloaded =>
    (loaded_reports_new unreloaded h).1⟩
  intro queue s visits answer last
  have loaded : h.load environment o w =
      ((o.mode.answer visits).mapError .extension, h.afterVisits visits, made) := load_of_ready ready
  refine ⟨fun earlier v later split => ?_, fun lenient => ?_, fun failure failed => ?_⟩
  · obtain ⟨position, front, visited⟩ := visits_split split
    refine ⟨position, ?_, skipped_iff split⟩
    rw [loadQueue_eq, front]
    exact visited
  · have answered : answer = .ok (.ofVisits visits) := by
      simp only [answer, loaded, LoadMode.answer_of_complete (.inl lenient)]
      rfl
    exact ⟨_, answered, extensions_visits lenient queue h, rfl, rfl, rfl, isLoaded_of_report answered⟩
  · have answered : o.mode.answer visits = .error failure := by
      simp only [answer, loaded] at failed
      cases found : o.mode.answer visits <;> rw [found] at failed <;> cases failed
      rfl
    have after : last = h.afterVisits visits := congrArg (·.2.1) loaded
    obtain ⟨earlier, v, split, unfailed, failure_eq, rest⟩ := visits_of_failure answered
    refine ⟨earlier, v, split, unfailed, failure_eq, fun x => ?_, fun others => ?_⟩
    · have outcome : v.outcome ≠ .loaded := by simp [(Visit.failure?_eq_some.1 failure_eq).2]
      rw [after, isLoaded_afterVisits]
      simp [split, outcome, or_and_right, exists_or]
    · rw [loadQueue_eq, rest, ← split, after]
      exact Prod.ext answered rfl

/-- A module that is asked for twice, another that is missing, and an empty script. -/
theorem load_accounts_for_mixed_queue :
    let h := (new .standard).addModule "m" fun _ components => (.ok (), components)
    let w := Workspace.empty.put ["s.algo"] (.file .empty)
    let o : LoadOptions := ⟨false, ["m", "x", "m", "s.algo"], ⟨false, false⟩⟩
    (∃ report, (h.load .empty o w).1 = .ok report ∧ report.loaded = ["m", "s.algo"] ∧
      report.skipped = ["m"] ∧ report.failed = [("x", .moduleNotFound "x")]) ∧
    ((h.reports [.load .empty o w, .load .empty o w]).flatMap (·.loaded)).Nodup := by
  intro h w o
  obtain ⟨accounts, once⟩ := load_accounts_for_queue h
  obtain ⟨-, lenient, -⟩ := accounts .empty o w w rfl
  obtain ⟨report, answered, -, loaded, skipped, failed, -⟩ := lenient rfl
  refine ⟨⟨report, answered, ?_, ?_, ?_⟩, once _ (by decide)⟩
  · rw [loaded]; decide +kernel
  · rw [skipped]; decide +kernel
  · rw [failed]; decide +kernel

/-- What a load reports as failed, and not as loaded as well, counts as loaded afterwards if and only if the
load was a reload of what counted as loaded before. Only then does the next load pass over it, where it first
comes in the queue. -/
theorem failed_stays_loaded_iff {environment : Environment} {o : LoadOptions} {w : Workspace}
    {report : LoadReport} {x : String} {fault : ExtensionFault}
    (answered : (h.load environment o w).1 = .ok report) (failed : (x, fault) ∈ report.failed)
    (unloaded : x ∉ report.loaded) :
    let last := (h.load environment o w).2.1
    (last.isLoaded x = true ↔ o.mode.reload = true ∧ h.isLoaded x = true) ∧
      ∀ s strict queue earlier v later,
        last.visits s ⟨strict, false⟩ queue = earlier ++ v :: later → v.extension = x →
        (∀ u ∈ earlier, u.extension ≠ x) →
        (v.outcome = .skipped ↔ o.mode.reload = true ∧ h.isLoaded x = true) := by
  intro last
  have kept : last.isLoaded x = true ↔ o.mode.reload = true ∧ h.isLoaded x = true := by
    rw [isLoaded_of_report answered, or_iff_left unloaded]
    refine iff_and_self.2 fun known => ?_
    obtain ⟨s, queue, rfl, -⟩ := exists_visits_of_report answered
    obtain ⟨v, visited, failure⟩ := List.mem_filterMap.1 failed
    obtain ⟨rfl, outcome⟩ := Visit.failure?_eq_some.1 failure
    obtain ⟨earlier, later, split⟩ := List.append_of_mem visited
    have unskipped : v.outcome ≠ .skipped := by simp [outcome]
    rw [Ne, skipped_iff split] at unskipped
    simpa [known] using unskipped
  refine ⟨kept, fun s strict queue earlier v later split own first => ?_⟩
  have not_before : ¬∃ u ∈ earlier, u.outcome = .loaded ∧ u.extension = x :=
    fun ⟨u, before, _, same⟩ => first u before same
  rw [skipped_iff split, own, or_iff_left not_before, kept]
  exact and_iff_right rfl

/-- A script that was loaded is removed and then reloaded. -/
theorem reload_of_removed_script :
    let first := HostCall.load .empty ⟨false, ["s.algo"], ⟨false, false⟩⟩
      (Workspace.empty.put ["s.algo"] (.file .empty))
    let h := (new .standard).performAll [first]
    h.isLoaded "s.algo" = true ∧
      ∃ report, (h.load .empty ⟨false, ["s.algo"], ⟨false, true⟩⟩ .empty).1 = .ok report ∧
        ("s.algo", .unreadable "s.algo" .notFound) ∈ report.failed ∧ "s.algo" ∉ report.loaded := by
  intro first h
  refine ⟨by decide +kernel, _, congrArg (·.1) (load_lenient ..), ?_, ?_⟩
  · decide +kernel
  · decide +kernel

/-- The script that could not be reloaded counts as loaded, and is passed over. -/
theorem failed_stays_loaded_of_removed_script :
    let first := HostCall.load .empty ⟨false, ["s.algo"], ⟨false, false⟩⟩
      (Workspace.empty.put ["s.algo"] (.file .empty))
    let h := (new .standard).performAll [first]
    let last := (h.load .empty ⟨false, ["s.algo"], ⟨false, true⟩⟩ .empty).2.1
    last.isLoaded "s.algo" = true ∧
      (last.visits (.of .empty .empty) ⟨false, false⟩ ["s.algo"]).map (·.outcome) = [.skipped] := by
  intro first h last
  obtain ⟨known, report, answered, failed, unloaded⟩ := reload_of_removed_script
  obtain ⟨kept, passed⟩ := failed_stays_loaded_iff answered failed unloaded
  have skipped := (passed (.of .empty .empty) false ["s.algo"] [] _ [] rfl (visit_extension ..)
    (by simp)).2 ⟨rfl, known⟩
  exact ⟨kept.2 ⟨rfl, known⟩, congrArg (fun outcome => [outcome]) skipped⟩

/-- So it is not the case that a failure always leaves an extension out of those that count as loaded. -/
theorem not_all_failed_unloaded :
    ¬∀ (calls : List HostCall) (environment : Environment) (o : LoadOptions) (w : Workspace)
      (report : LoadReport) (x : String) (fault : ExtensionFault),
      let h := (new .standard).performAll calls
      o.mode.strict = false → (h.load environment o w).1 = .ok report → (x, fault) ∈ report.failed →
        x ∉ report.loaded → (h.load environment o w).2.1.isLoaded x = false := by
  intro unloads
  obtain ⟨-, report, answered, failed, unloaded⟩ := reload_of_removed_script
  have gone := unloads _ _ _ _ report "s.algo" _ rfl answered failed unloaded
  exact absurd gone (by decide +kernel)

end ExtensionHost

end Backtest.Component
