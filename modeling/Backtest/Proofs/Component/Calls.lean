import Backtest.Proofs.Component.Visits

/-!
# Calls of a host

What is asked of a host, call by call: to load extensions, each time from files and with variables of their
own, or to put a module into the catalog. A load makes the file of the default extension if that is wanted,
and then the visits of its queue (`load_of_ready`); `history_invariant` is the induction over all visits and
new modules of a history.
-/

namespace Backtest.Component

open Backtest.Files (Environment IoFault Workspace)

namespace LoadOptions

/-- The extensions of a load in their order. -/
def queue (o : LoadOptions) (environment : Environment) : List String :=
  if o.loadDefault then environment.defaultExtension :: o.extensions else o.extensions

/-- Makes the file of the default extension if that is to be loaded. -/
def prepare (o : LoadOptions) (environment : Environment) (w : Workspace) :
    Except IoFault Unit × Workspace :=
  if o.loadDefault then w.ensureFile environment.defaultExtension else (.ok (), w)

end LoadOptions

/-- What can be asked of a host. -/
inductive HostCall where
  | load (environment : Environment) (options : LoadOptions) (files : Workspace)
  | addModule (name : String) (initializer : Initializer)

/-- Whether a call loads again what is loaded already. -/
def HostCall.reloads : HostCall → Bool
  | load _ o _ => o.mode.reload
  | addModule _ _ => false

namespace ExtensionHost

/-- The visits of a call. -/
def visitsOf (h : ExtensionHost) : HostCall → List Visit
  | .load environment o w =>
    match o.prepare environment w with
    | (.error _, _) => []
    | (.ok (), made) => h.visits (.of environment made) o.mode (o.queue environment)
  | .addModule _ _ => []

/-- The host after a call. -/
def perform (h : ExtensionHost) : HostCall → ExtensionHost
  | .load environment o w => (h.load environment o w).2.1
  | .addModule name initializer => h.addModule name initializer

/-- The report of a call, if it has one. -/
def report? (h : ExtensionHost) : HostCall → Option LoadReport
  | .load environment o w => (h.load environment o w).1.toOption
  | .addModule _ _ => none

/-- The host after some calls. -/
def performAll (h : ExtensionHost) (calls : List HostCall) : ExtensionHost :=
  calls.foldl perform h

/-- The visits of some calls. -/
def visitsOfAll (h : ExtensionHost) : List HostCall → List Visit
  | [] => []
  | call :: rest => h.visitsOf call ++ (h.perform call).visitsOfAll rest

/-- The reports of some calls. -/
def reports (h : ExtensionHost) : List HostCall → List LoadReport
  | [] => []
  | call :: rest => (h.report? call).toList ++ (h.perform call).reports rest

variable {h : ExtensionHost} {environment : Environment} {o : LoadOptions} {w made : Workspace}

/-- A load whose default extension has no file leaves the host as it is. -/
theorem load_of_unready {fault : IoFault} (unready : o.prepare environment w = (.error fault, made)) :
    h.load environment o w = (.error (.io fault), h, made) := by
  unfold LoadOptions.prepare at unready
  unfold load
  split
  · rename_i default
    rw [if_pos default] at unready
    simp only [unready]
  · rename_i default
    rw [if_neg default] at unready
    cases unready

/-- Loading a queue from a workspace answers and leaves what its visits do. -/
theorem loadFrom_eq (h : ExtensionHost) (environment : Environment) (mode : LoadMode)
    (queue : List String) (w : Workspace) :
    h.loadFrom environment mode queue w =
      ((mode.answer (h.visits (.of environment w) mode queue)).mapError .extension,
        h.afterVisits (h.visits (.of environment w) mode queue)) := by
  rw [loadFrom, loadQueue_eq]
  cases mode.answer _ <;> rfl

/-- Any other load makes the visits of its queue. -/
theorem load_of_ready (ready : o.prepare environment w = (.ok (), made)) :
    let visits := h.visits (.of environment made) o.mode (o.queue environment)
    h.load environment o w =
      ((o.mode.answer visits).mapError .extension, h.afterVisits visits, made) := by
  intro visits
  unfold LoadOptions.prepare at ready
  unfold load
  split
  · rename_i default
    rw [if_pos default] at ready
    simp only [ready, loadFrom_eq, visits, LoadOptions.queue, if_pos default]
  · rename_i default
    rw [if_neg default] at ready
    cases ready
    simp only [loadFrom_eq, visits, LoadOptions.queue, if_neg default]

/-- A load without the default extension makes the visits of the extensions that it is given. -/
theorem load_queue (h : ExtensionHost) (environment : Environment) (mode : LoadMode) (queue : List String)
    (w : Workspace) :
    h.load environment ⟨false, queue, mode⟩ w =
      ((mode.answer (h.visits (.of environment w) mode queue)).mapError .extension,
        h.afterVisits (h.visits (.of environment w) mode queue), w) :=
  load_of_ready rfl

/-- Without being strict it always has a report. -/
theorem load_lenient (h : ExtensionHost) (environment : Environment) (reload : Bool) (queue : List String)
    (w : Workspace) :
    h.load environment ⟨false, queue, ⟨false, reload⟩⟩ w =
      (.ok (.ofVisits (h.visits (.of environment w) ⟨false, reload⟩ queue)),
        h.afterVisits (h.visits (.of environment w) ⟨false, reload⟩ queue), w) := by
  rw [load_queue, LoadMode.answer_of_complete (.inl rfl)]
  rfl

/-- The host after a load is the one that its visits leave. -/
theorem perform_load (h : ExtensionHost) (environment : Environment) (o : LoadOptions) (w : Workspace) :
    h.perform (.load environment o w) = h.afterVisits (h.visitsOf (.load environment o w)) := by
  rcases hready : o.prepare environment w with ⟨fault | _, made⟩
  · simp only [perform, visitsOf, hready, load_of_unready hready, afterVisits]
  · simp only [perform, visitsOf, hready, load_of_ready hready]

/-- What one visit keeps, the visits of a queue keep. -/
theorem visits_invariant {P : ExtensionHost → List Visit → Prop}
    (visit : ∀ h s reload x done, P h done →
      P (h.visit s reload x).after (done ++ [h.visit s reload x]))
    (s : Surroundings) (mode : LoadMode) (queue : List String) (h : ExtensionHost) (done : List Visit)
    (start : P h done) :
    P (h.afterVisits (h.visits s mode queue)) (done ++ h.visits s mode queue) := by
  induction queue generalizing h done with
  | nil => simpa [visits, afterVisits] using start
  | cons x rest ih =>
    have first := visit h s mode.reload x done start
    simp only [visits]
    split
    · exact first
    · simpa [List.append_assoc, afterVisits] using ih _ _ first

/-- What one visit and a new module keep, a history keeps. -/
theorem history_invariant {P : ExtensionHost → List Visit → Prop}
    (visit : ∀ h s reload x done, P h done →
      P (h.visit s reload x).after (done ++ [h.visit s reload x]))
    (add : ∀ h name initializer done, P h done → P (h.addModule name initializer) done)
    (calls : List HostCall) (h : ExtensionHost) (done : List Visit) (start : P h done) :
    P (h.performAll calls) (done ++ h.visitsOfAll calls) := by
  induction calls generalizing h done with
  | nil => simpa [performAll, visitsOfAll] using start
  | cons call rest ih =>
    have first : P (h.perform call) (done ++ h.visitsOf call) := by
      cases call with
      | load environment o w =>
        rw [perform_load, visitsOf]
        split
        · simpa [afterVisits] using start
        · exact visits_invariant visit _ _ _ _ _ start
      | addModule name initializer => simpa [visitsOf, perform] using add h name initializer done start
    simpa [performAll, visitsOfAll, List.append_assoc] using ih _ _ first

/-- Visits add what they load to what counts as loaded. -/
theorem isLoaded_afterVisits (s : Surroundings) (mode : LoadMode) (queue : List String)
    (h : ExtensionHost) (x : String) :
    (h.afterVisits (h.visits s mode queue)).isLoaded x = true ↔
      h.isLoaded x = true ∨ ∃ v ∈ h.visits s mode queue, v.outcome = .loaded ∧ v.extension = x := by
  have held := visits_invariant
    (P := fun last done => last.isLoaded x = true ↔
      h.isLoaded x = true ∨ ∃ v ∈ done, v.outcome = .loaded ∧ v.extension = x)
    ?visit s mode queue h [] (by simp)
  case visit =>
    intro last s reload y done held
    rw [visit_isLoaded, held]
    simp only [List.mem_append, List.mem_singleton, or_and_right, exists_or, exists_eq_left,
      visit_extension, or_assoc]
  simpa using held

/-- No call takes an extension from those that count as loaded. -/
theorem isLoaded_performAll (calls : List HostCall) {x : String} (known : h.isLoaded x = true) :
    (h.performAll calls).isLoaded x = true :=
  history_invariant (P := fun last _ => last.isLoaded x = true)
    (fun _ _ _ _ _ held => visit_isLoaded.2 (.inl held)) (fun _ _ _ _ held => held) calls h [] known

end ExtensionHost

end Backtest.Component
