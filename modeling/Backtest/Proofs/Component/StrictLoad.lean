import Backtest.Proofs.Component.Calls

/-!
# Strict loads

Loading is sequential: a queue that is not strict can be cut anywhere and loaded in two calls. A strict load
does what a load of the same queue that is not strict does, up to the first extension that fails; it answers
with that failure and leaves the host as it then is, with what the failed extension has registered.
-/

namespace Backtest.Component

open Backtest.Files (Environment Workspace)

/-- Two runs of visits are reported one behind the other, list by list. -/
theorem LoadReport.ofVisits_append (us vs : List Visit) :
    ofVisits (us ++ vs) =
      ⟨(ofVisits us).loaded ++ (ofVisits vs).loaded, (ofVisits us).skipped ++ (ofVisits vs).skipped,
        (ofVisits us).failed ++ (ofVisits vs).failed⟩ := by
  simp [ofVisits]

namespace ExtensionHost

variable {h : ExtensionHost} {environment : Environment} {reload : Bool} {w : Workspace}

/-- If nothing fails, a strict load does what one that is not strict does. -/
theorem load_strict_of_unfailed {queue : List String}
    (unfailed : ∀ v ∈ h.visits (.of environment w) ⟨false, reload⟩ queue, v.failure? = none) :
    h.load environment ⟨false, queue, ⟨true, reload⟩⟩ w =
      h.load environment ⟨false, queue, ⟨false, reload⟩⟩ w := by
  rw [load_queue, load_lenient, visits_strict_of_unfailed unfailed,
    LoadMode.answer_of_complete (.inr unfailed)]
  rfl

/-- The first failure ends a strict load. -/
theorem load_strict_of_failed {queue : List String} {earlier : List Visit} {v : Visit}
    {fault : ExtensionFault}
    (front : earlier ++ [v] <+: h.visits (.of environment w) ⟨false, reload⟩ queue)
    (unfailed : ∀ u ∈ earlier, u.failure? = none) (failed : v.outcome = .failed fault) :
    h.load environment ⟨false, queue, ⟨true, reload⟩⟩ w =
      (.error (.extension ⟨v.extension, fault⟩),
        (h.load environment ⟨false, queue.take (earlier.length + 1), ⟨false, reload⟩⟩ w).2) := by
  have failure : v.failure? = some (v.extension, fault) := Visit.failure?_eq_some.2 ⟨rfl, failed⟩
  have visited := visits_take rfl front
  rw [List.length_append, List.length_singleton] at visited
  rw [load_queue, load_lenient, visits_strict_of_failed front unfailed (by simp [failure]), visited,
    LoadMode.answer_of_failure earlier rfl unfailed failure]
  rfl

/-- A strict load follows the load of the same queue that is not strict up to the first failure, and loading
is sequential. -/
theorem strict_load_follows_lenient (h : ExtensionHost) (environment : Environment) (reload : Bool)
    (w : Workspace) :
    let load (strict : Bool) (queue : List String) (h : ExtensionHost) :=
      h.load environment ⟨false, queue, ⟨strict, reload⟩⟩ w
    (∀ queue report, (load false queue h).1 = .ok report → report.failed = [] →
      load true queue h = load false queue h) ∧
    (∀ queue earlier v later fault,
      h.visits (.of environment w) ⟨false, reload⟩ queue = earlier ++ v :: later →
      (∀ u ∈ earlier, u.failure? = none) → v.outcome = .failed fault →
      queue[earlier.length]? = some v.extension ∧
      (∃ report, (load false queue h).1 = .ok report ∧
        report.failed.head? = some (v.extension, fault)) ∧
      load true queue h = (.error (.extension ⟨v.extension, fault⟩),
        (load false (queue.take (earlier.length + 1)) h).2)) ∧
    ∀ first second, ∃ r₁ r₂,
      (load false first h).1 = .ok r₁ ∧
      (load false second (load false first h).2.1).1 = .ok r₂ ∧
      load false (first ++ second) h =
        (.ok ⟨r₁.loaded ++ r₂.loaded, r₁.skipped ++ r₂.skipped, r₁.failed ++ r₂.failed⟩,
          (load false second (load false first h).2.1).2) := by
  intro load
  refine ⟨fun queue report answered none_failed => ?_, fun queue earlier v later fault split unfailed
    failed => ?_, fun first second => ?_⟩
  · simp only [load, load_lenient] at answered
    cases answered
    exact load_strict_of_unfailed (List.filterMap_eq_nil_iff.1 none_failed)
  · have failure : v.failure? = some (v.extension, fault) := Visit.failure?_eq_some.2 ⟨rfl, failed⟩
    refine ⟨(visits_split split).1, ⟨_, congrArg (·.1) (load_lenient ..), ?_⟩, ?_⟩
    · simp only [LoadReport.ofVisits, split, List.filterMap_append,
        List.filterMap_eq_nil_iff.2 unfailed, List.nil_append, List.filterMap_cons, failure, List.head?_cons]
    · exact load_strict_of_failed ⟨later, by simp [split]⟩ unfailed failed
  · simp only [load, load_lenient]
    refine ⟨_, _, rfl, rfl, ?_⟩
    rw [visits_append rfl, LoadReport.ofVisits_append, afterVisits_append]

/-- A module that fails after it has registered a blotter ends a strict load; the blotter stays. -/
theorem strict_load_follows_lenient_to_failure :
    let h := ((new .standard).addModule "done" fun _ components => (.ok (), components)).addModule "half"
      fun _ components =>
        (.error (.moduleFailed "half" "stopped"),
          { components with
            blotters.entries := components.blotters.entries.insert "b" .endOfDay })
    let load (strict : Bool) (queue : List String) :=
      h.load .empty ⟨false, queue, ⟨strict, false⟩⟩ .empty
    load true ["done", "half", "late"] =
        (.error (.extension ⟨"half", .moduleFailed "half" "stopped"⟩), (load false ["done", "half"]).2) ∧
      (load true ["done", "half", "late"]).2.1.isLoaded "done" = true ∧
      (load true ["done", "half", "late"]).2.1.components.blotters.names = ["b", "default"] := by
  intro h load
  obtain ⟨-, stops, -⟩ := strict_load_follows_lenient h .empty false .empty
  have stopped := (stops ["done", "half", "late"] [h.visit (.of .empty .empty) false "done"] _ _ _ rfl
    (by decide +kernel) rfl).2.2
  refine ⟨stopped, ?_, ?_⟩
  · decide +kernel
  · decide +kernel

end ExtensionHost

end Backtest.Component
