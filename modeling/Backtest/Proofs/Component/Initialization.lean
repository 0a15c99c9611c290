import Backtest.Proofs.Component.Calls

/-!
# Initializations of modules

The runs of the initializers of modules in a history. That a visit makes one is read off the count that the
catalog keeps of them, and its result is what the initializer says to the registries that it finds. No run is
missing from the log: the visit of a module without one leaves the registries as they are, and the others leave
them as the initializer does (`Visit.Logs`). What the catalog holds as imported, what the host counts as loaded
and what has succeeded in the log stay together through every history (`Coherent`), so once an initializer has
succeeded under a name, none is run under that name again.
-/

namespace Backtest.Component

open Backtest.Files (Environment Workspace)

/-- A run of the initializer of a module. -/
structure Initialization where
  name : String
  result : Except ExtensionFault Unit

/-- Whether a run under some name succeeded. -/
def Initialization.succeeds (name : String) (i : Initialization) : Bool :=
  i.name == name && i.result.isOk

/-- A run succeeds under a name if it is a run of that name without a fault. -/
theorem Initialization.succeeds_iff {name : String} {i : Initialization} :
    i.succeeds name = true ↔ i.name = name ∧ i.result = .ok () := by
  cases hi : i.result <;> simp [succeeds, hi, Except.isOk, Except.toBool]

namespace ModuleCatalog

/-- How often the initializer of a module has been run. -/
def runs (c : ModuleCatalog) (name : String) : Nat :=
  ((c.modules.get? name).map (·.runs)).getD 0

/-- The catalog after a run of the initializer of a module. -/
def ran (c : ModuleCatalog) (name : String) (m : Module) (result : Except ExtensionFault Unit) :
    ModuleCatalog where
  modules := c.modules.insert name { m with runs := m.runs + 1 }
  imported := if result.isOk then c.imported.insert name () else c.imported

/-- All that an import can do. -/
theorem importModule_cases (c : ModuleCatalog) (name : String) (components : Components) :
    (c.imported.contains name = true ∧ c.importModule name components = (.ok (), c, components)) ∨
    (c.imported.contains name = false ∧ ∃ fault,
      c.importModule name components = (.error fault, c, components)) ∨
    (c.imported.contains name = false ∧ ∃ m, c.modules.get? name = some m ∧
      let run := m.initializer m.runs components
      c.importModule name components = (run.1, c.ran name m run.1, run.2)) := by
  unfold importModule
  cases known : c.imported.contains name with
  | true => exact .inl ⟨rfl, rfl⟩
  | false =>
    refine .inr ?_
    cases found : c.modules.get? name with
    | none => exact .inl ⟨rfl, _, rfl⟩
    | some m =>
      refine .inr ⟨rfl, m, rfl, ?_⟩
      rcases run : m.initializer m.runs components with ⟨fault | _, next⟩ <;> simp only [run] <;> rfl

/-- A run is one more run of the module, and of no other. -/
theorem runs_ran {c : ModuleCatalog} {name : String} {m : Module} (found : c.modules.get? name = some m)
    (result : Except ExtensionFault Unit) (y : String) :
    (c.ran name m result).runs y = c.runs y + if name = y then 1 else 0 := by
  by_cases own : name = y
  · subst own
    simp [runs, ran, SortedMap.get?_insert, found]
  · have apart : compare y name ≠ .eq := fun same => own (Std.LawfulEqCmp.eq_of_compare same).symm
    simp [runs, ran, SortedMap.get?_insert, apart, own]

/-- A run that succeeds imports the module. -/
theorem contains_ran (c : ModuleCatalog) (name : String) (m : Module) (result : Except ExtensionFault Unit)
    (y : String) :
    (c.ran name m result).imported.contains y = true ↔
      c.imported.contains y = true ∨ result = .ok () ∧ name = y := by
  cases result with
  | error fault => simp [ran, Except.isOk, Except.toBool]
  | ok _ =>
    simp only [ran, Except.isOk, Except.toBool, if_true, SortedMap.contains_insert, true_and]
    exact or_comm.trans (or_congr_right eq_comm)

/-- A run that succeeds makes one more name that has been imported. -/
theorem successes_ran {c : ModuleCatalog} {name : String} (unknown : c.imported.contains name = false)
    (m : Module) (result : Except ExtensionFault Unit) (y : String) :
    (if (c.ran name m result).imported.contains y then 1 else 0) =
      (if c.imported.contains y then 1 else 0) +
        if (Initialization.mk name result).succeeds y then 1 else 0 := by
  by_cases own : name = y
  · subst own
    cases result <;>
      simp [ran, Initialization.succeeds, Except.isOk, Except.toBool, SortedMap.contains_insert, unknown]
  · cases result <;>
      simp [ran, Initialization.succeeds, Except.isOk, Except.toBool, SortedMap.contains_insert, own,
        Ne.symm own]

end ModuleCatalog

/-- The run of an initializer in a visit, if the catalog counts one. -/
def Visit.initialization? (v : Visit) : Option Initialization :=
  if v.before.catalog.runs v.extension < v.after.catalog.runs v.extension then
    (v.before.catalog.modules.get? v.extension).map fun m =>
      ⟨v.extension, (m.initializer m.runs v.before.components).1⟩
  else none

/-- The log of a visit tells all that it does with modules. The catalog counts the runs that are logged, a logged
run is made on the registries that the visit finds and leaves them as they are after it, and the visit of a module
without a run leaves the registries alone. -/
structure Visit.Logs (v : Visit) : Prop where
  counted : ∀ name, v.after.catalog.runs name =
    v.before.catalog.runs name + v.initialization?.toList.countP (·.name == name)
  made : ∀ i, v.initialization? = some i → i.name = v.extension ∧
    ∃ m, v.before.catalog.modules.get? v.extension = some m ∧
      m.initializer m.runs v.before.components = (i.result, v.after.components)
  silent : isScript v.extension = false → v.initialization? = none →
    v.after.components = v.before.components

namespace ExtensionHost

variable {s : Surroundings} {reload : Bool} {h : ExtensionHost} {log : List Initialization}

/-- The runs of initializers in some calls. -/
def initializations (h : ExtensionHost) (calls : List HostCall) : List Initialization :=
  (h.visitsOfAll calls).flatMap (·.initialization?.toList)

/-- Running a script leaves the catalog as it is. -/
theorem loadOne_catalog_of_script {x : String} (script : isScript x = true) :
    (h.loadOne s x).2.catalog = h.catalog := by
  unfold loadOne runExtensionScript
  rw [if_pos script]
  split
  · rfl
  · split <;> rfl

/-- Running a module imports it. -/
theorem loadOne_of_module {x : String} (module : isScript x = false) :
    let imported := h.catalog.importModule x h.components
    (h.loadOne s x).1 = imported.1 ∧ (h.loadOne s x).2.catalog = imported.2.1 ∧
      (h.loadOne s x).2.components = imported.2.2 := by
  simp [loadOne, runImport, module]

/-- A visit that does not skip leaves the catalog and the registries that running the extension leaves. -/
theorem visit_catalog_of_run {x : String} (runs : ¬(reload = false ∧ h.isLoaded x = true)) :
    let v := h.visit s reload x
    v.after.catalog = (h.loadOne s x).2.catalog ∧ v.after.components = (h.loadOne s x).2.components ∧
      (v.outcome = .loaded ↔ (h.loadOne s x).1 = .ok ()) := by
  intro v
  rcases visit_cases s reload h x with ⟨kept, known, -⟩ | ⟨-, next, load, hv⟩ | ⟨-, fault, next, load, hv⟩
  · exact absurd ⟨kept, known⟩ runs
  · simp [v, hv, load, markLoaded]
  · simp [v, hv, load]

/-- A visit leaves the catalog as it is, and the registries if it is that of a module, or it runs the initializer
of a module that has not been imported. -/
theorem visit_catalog_cases (s : Surroundings) (reload : Bool) (h : ExtensionHost) (x : String) :
    let v := h.visit s reload x
    (v.after.catalog = h.catalog ∧ (isScript x = false → v.after.components = h.components) ∧
      (v.outcome = .loaded → isScript x = true ∨ h.catalog.imported.contains x = true)) ∨
    (isScript x = false ∧ h.catalog.imported.contains x = false ∧
      ∃ m, h.catalog.modules.get? x = some m ∧
        let run := m.initializer m.runs h.components
        v.after.catalog = h.catalog.ran x m run.1 ∧ v.after.components = run.2 ∧
          (v.outcome = .loaded ↔ run.1 = .ok ())) := by
  intro v
  by_cases skips : reload = false ∧ h.isLoaded x = true
  · have hv : v = ⟨h, x, .skipped, h⟩ := by simp [v, visit, skips]
    exact .inl (by simp [hv])
  · obtain ⟨catalog, components, outcome⟩ := visit_catalog_of_run (s := s) skips
    cases script : isScript x with
    | true =>
      exact .inl ⟨catalog.trans (loadOne_catalog_of_script script), by simp, fun _ => .inl rfl⟩
    | false =>
      obtain ⟨result, left, kept⟩ := loadOne_of_module (s := s) (h := h) script
      rw [left] at catalog
      rw [kept] at components
      rw [result] at outcome
      rcases h.catalog.importModule_cases x h.components with
        ⟨known, run⟩ | ⟨-, fault, run⟩ | ⟨unknown, m, found, run⟩ <;>
        rw [run] at catalog components outcome
      · exact .inl ⟨catalog, fun _ => components, fun _ => .inr known⟩
      · exact .inl ⟨catalog, fun _ => components, fun loaded => by simpa using outcome.1 loaded⟩
      · exact .inr ⟨rfl, unknown, m, found, catalog, components, outcome⟩

/-- A visit that leaves the catalog as it is logs nothing. -/
theorem visit_initialization?_of_kept {x : String} (kept : (h.visit s reload x).after.catalog = h.catalog) :
    (h.visit s reload x).initialization? = none := by
  simp [Visit.initialization?, kept]

/-- Any other visit logs the run. -/
theorem visit_initialization?_of_ran {x : String} {m : Module} {result : Except ExtensionFault Unit}
    (found : h.catalog.modules.get? x = some m)
    (ran : (h.visit s reload x).after.catalog = h.catalog.ran x m result) :
    (h.visit s reload x).initialization? = some ⟨x, (m.initializer m.runs h.components).1⟩ := by
  simp [Visit.initialization?, ran, ModuleCatalog.runs_ran found, found]

/-- The log of every visit is complete. -/
theorem visit_logs (s : Surroundings) (reload : Bool) (h : ExtensionHost) (x : String) :
    (h.visit s reload x).Logs := by
  rcases visit_catalog_cases s reload h x with ⟨kept, alone, -⟩ | ⟨-, -, m, found, ran, components, -⟩
  · have none := visit_initialization?_of_kept kept
    constructor
    · intro name
      rw [kept, none, visit_before]
      rfl
    · simp [none]
    · intro module _
      rw [visit_before]
      exact alone (visit_extension s reload h x ▸ module)
  · have logged := visit_initialization?_of_ran found ran
    constructor
    · intro name
      rw [ran, ModuleCatalog.runs_ran found, logged, visit_before]
      simp
    · intro i hi
      obtain rfl := Option.some.inj (logged.symm.trans hi)
      rw [visit_extension, visit_before, components]
      exact ⟨rfl, m, found, rfl⟩
    · intro _ unlogged
      rw [logged] at unlogged
      cases unlogged

/-- What the catalog and the host hold, and what the log says, agree. -/
structure Coherent (h : ExtensionHost) (log : List Initialization) : Prop where
  imported : ∀ name, h.catalog.imported.contains name = true ↔
    h.isLoaded name = true ∧ isScript name = false
  successes : ∀ name,
    log.countP (·.succeeds name) = if h.catalog.imported.contains name then 1 else 0
  settled : log.Pairwise fun i later => i.result = .ok () → later.name ≠ i.name

/-- In a new host nothing is imported, loaded or logged. -/
theorem coherent_new (components : Components) : (new components).Coherent [] := by
  constructor
  · intro name
    simp [new, ModuleCatalog.empty, isLoaded, SortedMap.contains]
  · intro name
    simp [new, ModuleCatalog.empty, SortedMap.contains]
  · exact .nil

/-- An initializer runs again only as long as it has not succeeded. -/
theorem Coherent.unsucceeded (coherent : h.Coherent log) {name : String}
    (unknown : h.catalog.imported.contains name = false) {i : Initialization} (logged : i ∈ log)
    (success : i.result = .ok ()) : name ≠ i.name := by
  rintro rfl
  have none_succeeds := coherent.successes i.name
  rw [unknown, if_neg Bool.false_ne_true, List.countP_eq_zero] at none_succeeds
  exact none_succeeds i logged (Initialization.succeeds_iff.2 ⟨rfl, success⟩)

/-- A visit keeps the catalog, the host and the log together. A module that is loaded without a run has been
imported, so it counted as loaded before; one that is run had not been, so no run of it in the log succeeded. -/
theorem Coherent.visit (coherent : h.Coherent log) (s : Surroundings) (reload : Bool) (x : String) :
    (h.visit s reload x).after.Coherent (log ++ (h.visit s reload x).initialization?.toList) := by
  rcases visit_catalog_cases s reload h x with
    ⟨kept, -, known⟩ | ⟨module, unknown, m, found, ran, -, outcome⟩
  · rw [visit_initialization?_of_kept kept, Option.toList_none, List.append_nil]
    refine ⟨fun name => ?_, fun name => kept ▸ coherent.successes name, coherent.settled⟩
    rw [kept, coherent.imported, visit_isLoaded]
    refine and_congr_left fun module => (or_iff_left_of_imp ?_).symm
    rintro ⟨loaded, rfl⟩
    refine ((coherent.imported x).1 ((known loaded).resolve_left ?_)).1
    simp [module]
  · rw [visit_initialization?_of_ran found ran, Option.toList_some]
    generalize (m.initializer m.runs h.components).1 = result at ran outcome
    refine ⟨fun name => ?_, fun name => ?_, ?_⟩
    · rw [ran, ModuleCatalog.contains_ran, coherent.imported, visit_isLoaded, outcome, or_and_right]
      refine or_congr_right (iff_self_and.2 ?_)
      rintro ⟨-, rfl⟩
      exact module
    · rw [List.countP_append, List.countP_singleton, coherent.successes, ran,
        ModuleCatalog.successes_ran unknown]
    · refine List.pairwise_append.2 ⟨coherent.settled, List.pairwise_singleton .., ?_⟩
      intro i logged j new success
      rw [List.mem_singleton.1 new]
      exact coherent.unsucceeded unknown logged success

/-- So does every history. -/
theorem coherent_history (components : Components) (calls : List HostCall) :
    ((new components).performAll calls).Coherent ((new components).initializations calls) := by
  have held := history_invariant
    (P := fun last done => last.Coherent (done.flatMap (·.initialization?.toList)))
    (fun h s reload x done coherent => by simpa using coherent.visit s reload x)
    (fun h name initializer done coherent => ?add)
    calls (new components) [] (coherent_new components)
  case add => exact ⟨coherent.imported, coherent.successes, coherent.settled⟩
  simpa [initializations] using held

/-- The log of a history leaves out nothing of any visit. -/
theorem logs_of_mem_visitsOfAll (h : ExtensionHost) (calls : List HostCall) :
    ∀ v ∈ h.visitsOfAll calls, v.Logs := by
  have held := history_invariant (P := fun _ done => ∀ v ∈ done, v.Logs)
    (fun h s reload x done logged => ?visit) (fun _ _ _ _ logged => logged) calls h [] (by simp)
  case visit =>
    rw [List.forall_mem_append, List.forall_mem_singleton]
    exact ⟨logged, visit_logs s reload h x⟩
  simpa using held

/-- The catalog counts the runs that a load logs. -/
theorem runs_after_load (h : ExtensionHost) (environment : Environment) (o : LoadOptions) (w : Workspace)
    (name : String) :
    let call := HostCall.load environment o w
    (h.perform call).catalog.runs name =
      h.catalog.runs name + (h.initializations [call]).countP (·.name == name) := by
  intro call
  have log_eq : h.initializations [call] = (h.visitsOf call).flatMap (·.initialization?.toList) := by
    simp [initializations, visitsOfAll]
  rw [log_eq, perform_load]
  rcases hready : o.prepare environment w with ⟨fault | _, made⟩
  · simp [call, visitsOf, hready, afterVisits]
  · have held := visits_invariant
      (P := fun last done => last.catalog.runs name =
        h.catalog.runs name + (done.flatMap (·.initialization?.toList)).countP (·.name == name))
      (fun last s reload x done held => by
        have counted := (visit_logs s reload last x).counted name
        rw [visit_before, held] at counted
        simp [counted, Nat.add_assoc])
      (.of environment made) o.mode (o.queue environment) h [] (by simp)
    simpa only [call, visitsOf, hready, List.nil_append] using held

/-- The initializer of a module succeeds at most once in the life of a host, whatever is loaded, reloaded or
put in its place: once it has, it is not run again. The catalog has imported the modules that the host counts
as loaded, and these become no fewer. The log misses no run: every visit of the history and every load after it
is counted, and what a visit logs is all that it does with modules. -/
theorem module_initialized_once (components : Components) (calls : List HostCall) :
    let h := (new components).performAll calls
    let log := (new components).initializations calls
    (∀ name, h.catalog.imported.contains name = true ↔
      h.isLoaded name = true ∧ isScript name = false) ∧
    (∀ more x, h.isLoaded x = true → (h.performAll more).isLoaded x = true) ∧
    (∀ name, isScript name = false →
      log.countP (·.succeeds name) = (if h.isLoaded name then 1 else 0) ∧
      ∀ earlier i later, log = earlier ++ i :: later → i.succeeds name = true →
        ∀ j ∈ later, j.name ≠ name) ∧
    (∀ v ∈ (new components).visitsOfAll calls, v.Logs) ∧
    ∀ environment o w name,
      let call := HostCall.load environment o w
      (h.perform call).catalog.runs name =
        h.catalog.runs name + (h.initializations [call]).countP (·.name == name) := by
  intro h log
  obtain ⟨imported, successes, settled⟩ := coherent_history components calls
  refine ⟨imported, fun more x known => isLoaded_performAll more known, fun name module =>
    ⟨?_, fun earlier i later split success j logged => ?_⟩, logs_of_mem_visitsOfAll _ calls,
    h.runs_after_load⟩
  · have same : h.catalog.imported.contains name = h.isLoaded name :=
      Bool.eq_iff_iff.2 ((imported name).trans (and_iff_left module))
    rw [successes, same]
  · obtain ⟨rfl, ok⟩ := Initialization.succeeds_iff.1 success
    rw [show (new components).initializations calls = _ from split] at settled
    exact List.rel_of_pairwise_cons (List.pairwise_append.1 settled).2.1 logged ok

/-- A module that fails the first time it is run and is asked for twice is run twice; after its success
neither a reload nor another module in its place is run. -/
theorem module_initialized_once_after_failure :
    let flaky : Initializer := fun runs components =>
      (if runs = 0 then .error (.moduleFailed "m" "not yet") else .ok (), components)
    let other : Initializer := fun _ components => (.ok (), components)
    let load (reload : Bool) := HostCall.load .empty ⟨false, ["m", "m"], ⟨false, reload⟩⟩ .empty
    let calls := [.addModule "m" flaky, load false, .addModule "m" other, load true]
    let log := (new .standard).initializations calls
    log.map (fun i => (i.name, i.result.isOk)) = [("m", false), ("m", true)] ∧
      log.countP (·.succeeds "m") = 1 ∧
      ((new .standard).performAll calls).catalog.imported.contains "m" = true := by
  intro flaky other load calls log
  have module : isScript "m" = false := by decide +kernel
  have loaded : ((new .standard).performAll calls).isLoaded "m" = true := by decide +kernel
  obtain ⟨imported, -, successes, -⟩ := module_initialized_once .standard calls
  have once := (successes "m" module).1
  rw [if_pos loaded] at once
  exact ⟨by decide +kernel, once, (imported "m").2 ⟨loaded, module⟩⟩

end ExtensionHost

end Backtest.Component
