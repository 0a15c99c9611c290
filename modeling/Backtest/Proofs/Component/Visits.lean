import Backtest.Component.Extension

/-!
# Visits

A load takes the extensions of its queue in turn. A visit is what it does with one of them: the host that it
finds, what becomes of the extension, and the host that it leaves. The visits of a queue say all that a load
answers and leaves (`loadQueue_eq`), so that what holds of a load is shown of one visit and carried along
the visits by induction on the queue.
-/

namespace Backtest.Component

/-- What becomes of an extension whose turn it is. -/
inductive Outcome where
  | skipped
  | loaded
  | failed (fault : ExtensionFault)
  deriving DecidableEq, Repr

/-- Why an extension failed, if it did. -/
def Outcome.fault? : Outcome → Option ExtensionFault
  | failed fault => some fault
  | _ => none

/-- An extension of a queue in its turn. -/
structure Visit where
  before : ExtensionHost
  extension : String
  outcome : Outcome
  after : ExtensionHost

/-- An extension that failed, with its fault. -/
def Visit.failure? (v : Visit) : Option (String × ExtensionFault) :=
  v.outcome.fault?.map (v.extension, ·)

/-- A visit has a failure if it is of that extension and its outcome is that fault. -/
theorem Visit.failure?_eq_some {v : Visit} {x : String} {fault : ExtensionFault} :
    v.failure? = some (x, fault) ↔ v.extension = x ∧ v.outcome = .failed fault := by
  cases hv : v.outcome <;> simp [failure?, Outcome.fault?, hv]

namespace ExtensionHost

/-- What a load does with one extension. -/
def visit (s : Surroundings) (reload : Bool) (h : ExtensionHost) (extension : String) : Visit :=
  if !reload && h.isLoaded extension then ⟨h, extension, .skipped, h⟩
  else
    match h.loadOne s extension with
    | (.ok (), next) => ⟨h, extension, .loaded, next.markLoaded extension⟩
    | (.error fault, next) => ⟨h, extension, .failed fault, next⟩

/-- The visits that a load makes. A strict one makes none after a failure. -/
def visits (s : Surroundings) (mode : LoadMode) : List String → ExtensionHost → List Visit
  | [], _ => []
  | extension :: rest, h =>
    let v := h.visit s mode.reload extension
    v :: if mode.strict && v.failure?.isSome then [] else visits s mode rest v.after

/-- The host that visits leave. -/
def afterVisits (h : ExtensionHost) : List Visit → ExtensionHost
  | [] => h
  | v :: rest => afterVisits v.after rest

end ExtensionHost

/-- The report of visits, each list in their order. -/
def LoadReport.ofVisits (visits : List Visit) : LoadReport where
  loaded := (visits.filter (·.outcome = .loaded)).map (·.extension)
  skipped := (visits.filter (·.outcome = .skipped)).map (·.extension)
  failed := visits.filterMap (·.failure?)

/-- What a load answers after its visits. -/
def LoadMode.answer (mode : LoadMode) (visits : List Visit) : Except LoadFailure LoadReport :=
  match if mode.strict then visits.findSome? (·.failure?) else none with
  | some (extension, fault) => .error ⟨extension, fault⟩
  | none => .ok (.ofVisits visits)

/-- A report with a visit in front. -/
def LoadReport.consVisit (v : Visit) (r : LoadReport) : LoadReport :=
  match v.outcome with
  | .skipped => r.consSkipped v.extension
  | .loaded => r.consLoaded v.extension
  | .failed fault => r.consFailed v.extension fault

/-- A visit comes in front of the report of the others. -/
theorem LoadReport.ofVisits_cons (v : Visit) (rest : List Visit) :
    ofVisits (v :: rest) = (ofVisits rest).consVisit v := by
  cases hv : v.outcome <;>
    simp [ofVisits, consVisit, consSkipped, consLoaded, consFailed, Visit.failure?, Outcome.fault?, hv]

/-- A load that is not strict answers with a report, and so does any load in which nothing fails. -/
theorem LoadMode.answer_of_complete {mode : LoadMode} {visits : List Visit}
    (complete : mode.strict = false ∨ ∀ v ∈ visits, v.failure? = none) :
    mode.answer visits = .ok (.ofVisits visits) := by
  rcases complete with lenient | unfailed
  · simp [answer, lenient]
  · rw [answer, List.findSome?_eq_none_iff.2 unfailed, ite_self]

/-- A strict load answers with the failure in the end of its visits. -/
theorem LoadMode.answer_of_failure {mode : LoadMode} (earlier : List Visit) {v : Visit} {x : String}
    {fault : ExtensionFault} (strict : mode.strict = true)
    (unfailed : ∀ u ∈ earlier, u.failure? = none) (failure : v.failure? = some (x, fault)) :
    mode.answer (earlier ++ [v]) = .error ⟨x, fault⟩ := by
  have none_earlier : earlier.findSome? (·.failure?) = none := List.findSome?_eq_none_iff.2 unfailed
  simp [answer, strict, List.findSome?_append, none_earlier, failure]

/-- Unless a visit ends the load, it goes in front of what is answered after the others. -/
theorem LoadMode.answer_cons {mode : LoadMode} {v : Visit} {rest : List Visit}
    (continues : mode.strict = false ∨ v.failure? = none) :
    mode.answer (v :: rest) = (mode.answer rest).map (LoadReport.consVisit v) := by
  have first : (if mode.strict then (v :: rest).findSome? (·.failure?) else none) =
      if mode.strict then rest.findSome? (·.failure?) else none := by
    rcases continues with lenient | unfailed
    · simp [lenient]
    · simp [unfailed]
  rw [answer, answer, first, LoadReport.ofVisits_cons]
  cases if mode.strict then rest.findSome? (·.failure?) else none <;> rfl

namespace ExtensionHost

variable {s : Surroundings} {mode : LoadMode} {reload : Bool} {h : ExtensionHost}

/-- All that a visit can do. -/
theorem visit_cases (s : Surroundings) (reload : Bool) (h : ExtensionHost) (x : String) :
    (reload = false ∧ h.isLoaded x = true ∧ h.visit s reload x = ⟨h, x, .skipped, h⟩) ∨
    (¬(reload = false ∧ h.isLoaded x = true) ∧ ∃ next, h.loadOne s x = (.ok (), next) ∧
      h.visit s reload x = ⟨h, x, .loaded, next.markLoaded x⟩) ∨
    (¬(reload = false ∧ h.isLoaded x = true) ∧ ∃ fault next, h.loadOne s x = (.error fault, next) ∧
      h.visit s reload x = ⟨h, x, .failed fault, next⟩) := by
  by_cases skips : reload = false ∧ h.isLoaded x = true
  · exact .inl ⟨skips.1, skips.2, by simp [visit, skips.1, skips.2]⟩
  · have runs : (!reload && h.isLoaded x) = false := by simpa using skips
    refine .inr ?_
    rcases hload : h.loadOne s x with ⟨fault | _, next⟩
    · exact .inr ⟨skips, fault, next, rfl, by simp [visit, runs, hload]⟩
    · exact .inl ⟨skips, next, rfl, by simp [visit, runs, hload]⟩

/-- Running an extension does not count it as loaded. -/
theorem loadOne_loaded (s : Surroundings) (h : ExtensionHost) (x : String) :
    (h.loadOne s x).2.loaded = h.loaded := by
  unfold loadOne runExtensionScript runImport
  split
  · split
    · rfl
    · split <;> rfl
  · rfl

/-- Counting an extension as loaded adds it to those that count as loaded. -/
theorem isLoaded_markLoaded (h : ExtensionHost) (x y : String) :
    (h.markLoaded x).isLoaded y = true ↔ h.isLoaded y = true ∨ x = y := by
  simp only [isLoaded, markLoaded, SortedMap.contains_insert]
  exact or_comm.trans (or_congr_right eq_comm)

/-- A visit is of the extension that it is made for. -/
@[simp] theorem visit_extension (s : Surroundings) (reload : Bool) (h : ExtensionHost) (x : String) :
    (h.visit s reload x).extension = x := by
  rcases visit_cases s reload h x with ⟨-, -, hv⟩ | ⟨-, _, -, hv⟩ | ⟨-, _, _, -, hv⟩ <;> rw [hv]

/-- A visit begins at the host that it is made at. -/
@[simp] theorem visit_before (s : Surroundings) (reload : Bool) (h : ExtensionHost) (x : String) :
    (h.visit s reload x).before = h := by
  rcases visit_cases s reload h x with ⟨-, -, hv⟩ | ⟨-, _, -, hv⟩ | ⟨-, _, _, -, hv⟩ <;> rw [hv]

/-- An extension is skipped if it counts as loaded and is not to be reloaded. -/
theorem visit_skipped_iff {x : String} :
    (h.visit s reload x).outcome = .skipped ↔ reload = false ∧ h.isLoaded x = true := by
  rcases visit_cases s reload h x with ⟨kept, known, hv⟩ | ⟨runs, _, -, hv⟩ | ⟨runs, _, _, -, hv⟩
  · rw [hv]
    exact iff_of_true rfl ⟨kept, known⟩
  · rw [hv]
    exact iff_of_false (by simp) runs
  · rw [hv]
    exact iff_of_false (by simp) runs

/-- A visit adds the extension to those that count as loaded if it loads it, and takes none away. -/
theorem visit_isLoaded {x y : String} :
    (h.visit s reload x).after.isLoaded y = true ↔
      h.isLoaded y = true ∨ (h.visit s reload x).outcome = .loaded ∧ x = y := by
  have kept := loadOne_loaded s h x
  rcases visit_cases s reload h x with ⟨-, -, hv⟩ | ⟨-, next, hload, hv⟩ | ⟨-, fault, next, hload, hv⟩
  · simp [hv]
  · rw [hload] at kept
    rw [hv, isLoaded_markLoaded, isLoaded, kept]
    simp [isLoaded]
  · rw [hload] at kept
    rw [hv, isLoaded, kept]
    simp [isLoaded]

/-- After a visit that ends a strict load, the rest of the queue has no say. -/
theorem loadQueue_cons_of_stop {x : String} {rest : List String} {fault : ExtensionFault}
    (strict : mode.strict = true) (failed : (h.visit s mode.reload x).outcome = .failed fault) :
    h.loadQueue s mode (x :: rest) = (.error ⟨x, fault⟩, (h.visit s mode.reload x).after) := by
  rcases visit_cases s mode.reload h x with ⟨-, -, hv⟩ | ⟨-, _, -, hv⟩ | ⟨runs, _, _, hload, hv⟩ <;>
    rw [hv] at failed ⊢ <;> cases failed
  have runs : ¬(!mode.reload && h.isLoaded x) = true := by simpa using runs
  rw [loadQueue, if_neg runs]
  simp only [hload, strict, if_true]

/-- Any other visit goes in front of what the rest of the queue comes to. -/
theorem loadQueue_cons_of_continue {x : String} {rest : List String}
    (continues : mode.strict = false ∨ (h.visit s mode.reload x).failure? = none) :
    h.loadQueue s mode (x :: rest) =
      (((h.visit s mode.reload x).after.loadQueue s mode rest).1.map
          (LoadReport.consVisit (h.visit s mode.reload x)),
        ((h.visit s mode.reload x).after.loadQueue s mode rest).2) := by
  rcases visit_cases s mode.reload h x with
    ⟨kept, known, hv⟩ | ⟨runs, _, hload, hv⟩ | ⟨runs, fault, _, hload, hv⟩ <;>
    rw [hv] at continues ⊢
  · rw [loadQueue, if_pos (by simp [kept, known])]
    rfl
  · have runs : ¬(!mode.reload && h.isLoaded x) = true := by simpa using runs
    rw [loadQueue, if_neg runs]
    simp only [hload]
    rfl
  · have runs : ¬(!mode.reload && h.isLoaded x) = true := by simpa using runs
    have lenient : mode.strict = false := by
      simpa [Visit.failure?, Outcome.fault?] using continues
    rw [loadQueue, if_neg runs]
    simp only [hload, lenient, Bool.false_eq_true, if_false]
    rfl

/-- A strict load makes no visit after one that fails. -/
theorem visits_cons_of_stop {x : String} {rest : List String} (strict : mode.strict = true)
    (failed : (h.visit s mode.reload x).failure? ≠ none) :
    h.visits s mode (x :: rest) = [h.visit s mode.reload x] := by
  simp [visits, strict, Option.isSome_iff_ne_none.2 failed]

/-- After any other visit the rest of the queue is visited. -/
theorem visits_cons_of_continue {x : String} {rest : List String}
    (continues : mode.strict = false ∨ (h.visit s mode.reload x).failure? = none) :
    h.visits s mode (x :: rest) =
      h.visit s mode.reload x :: (h.visit s mode.reload x).after.visits s mode rest := by
  rcases continues with lenient | unfailed
  · simp [visits, lenient]
  · simp [visits, unfailed]

/-- What a load answers, and the host that it leaves, are those of its visits. -/
theorem loadQueue_eq (s : Surroundings) (mode : LoadMode) (queue : List String) (h : ExtensionHost) :
    h.loadQueue s mode queue =
      (mode.answer (h.visits s mode queue), h.afterVisits (h.visits s mode queue)) := by
  induction queue generalizing h with
  | nil => simp [loadQueue, visits, afterVisits, LoadMode.answer, LoadReport.ofVisits, LoadReport.empty]
  | cons x rest ih =>
    by_cases continues : mode.strict = false ∨ (h.visit s mode.reload x).failure? = none
    · rw [loadQueue_cons_of_continue continues, visits_cons_of_continue continues,
        LoadMode.answer_cons continues, ih, afterVisits]
    · obtain ⟨strict, failed⟩ := not_or.1 continues
      have strict : mode.strict = true := by simpa using strict
      obtain ⟨⟨y, fault⟩, failure⟩ := Option.ne_none_iff_exists'.1 failed
      obtain ⟨own, outcome⟩ := Visit.failure?_eq_some.1 failure
      rw [visit_extension] at own
      subst own
      rw [loadQueue_cons_of_stop strict outcome, visits_cons_of_stop strict failed]
      exact Prod.ext (LoadMode.answer_of_failure [] strict (by simp) failure).symm rfl

/-- Every extension of a queue gets its visit, unless a strict load ends before. -/
theorem extensions_visits (lenient : mode.strict = false) (queue : List String) (h : ExtensionHost) :
    (h.visits s mode queue).map (·.extension) = queue := by
  induction queue generalizing h with
  | nil => rfl
  | cons x rest ih => rw [visits_cons_of_continue (.inl lenient), List.map_cons, visit_extension, ih]

/-- The host after two runs of visits is the one after the second, begun after the first. -/
theorem afterVisits_append (h : ExtensionHost) (us vs : List Visit) :
    h.afterVisits (us ++ vs) = (h.afterVisits us).afterVisits vs := by
  induction us generalizing h with
  | nil => rfl
  | cons u us ih => exact ih u.after

/-- A queue is visited in two parts as it is in one. -/
theorem visits_append (lenient : mode.strict = false) (first second : List String) (h : ExtensionHost) :
    h.visits s mode (first ++ second) =
      h.visits s mode first ++ (h.afterVisits (h.visits s mode first)).visits s mode second := by
  induction first generalizing h with
  | nil => rfl
  | cons x rest ih =>
    rw [List.cons_append, visits_cons_of_continue (.inl lenient), visits_cons_of_continue (.inl lenient),
      ih, List.cons_append, afterVisits]

/-- The front of a queue has the first of its visits. -/
theorem visits_take (lenient : mode.strict = false) {queue : List String} {front : List Visit}
    (first : front <+: h.visits s mode queue) : h.visits s mode (queue.take front.length) = front := by
  induction queue generalizing h front with
  | nil => rw [List.prefix_nil.1 first, List.take_nil, visits]
  | cons x rest ih =>
    cases front with
    | nil => rfl
    | cons v front =>
      rw [visits_cons_of_continue (.inl lenient)] at first
      obtain ⟨rfl, others⟩ := List.cons_prefix_cons.1 first
      rw [List.length_cons, List.take_succ_cons, visits_cons_of_continue (.inl lenient), ih others]

/-- A visit is of the extension in its position, at the host that the visits before it leave. -/
theorem visits_split {queue : List String} {earlier later : List Visit} {v : Visit}
    (split : h.visits s mode queue = earlier ++ v :: later) :
    queue[earlier.length]? = some v.extension ∧
      h.visits s mode (queue.take earlier.length) = earlier ∧
      v = (h.afterVisits earlier).visit s mode.reload v.extension := by
  induction queue generalizing h earlier with
  | nil => simp [visits] at split
  | cons x rest ih =>
    cases earlier with
    | nil =>
      obtain ⟨rfl, -⟩ := List.cons.inj split
      simp [visits, afterVisits]
    | cons u earlier =>
      obtain ⟨rfl, others⟩ := List.cons.inj split
      split at others
      · simp at others
      · rename_i continues
        obtain ⟨position, front, visited⟩ := ih others
        exact ⟨by simpa using position, by simp [visits, continues, front], visited⟩

/-- If nothing fails, a strict load makes the visits of a lenient one. -/
theorem visits_strict_of_unfailed {queue : List String}
    (unfailed : ∀ v ∈ h.visits s ⟨false, reload⟩ queue, v.failure? = none) :
    h.visits s ⟨true, reload⟩ queue = h.visits s ⟨false, reload⟩ queue := by
  induction queue generalizing h with
  | nil => rfl
  | cons x rest ih =>
    have split : h.visits s ⟨false, reload⟩ (x :: rest) = _ := visits_cons_of_continue (.inl rfl)
    rw [split] at unfailed ⊢
    obtain ⟨first, others⟩ := List.forall_mem_cons.1 unfailed
    rw [← ih others]
    exact visits_cons_of_continue (.inr first)

/-- A strict load makes the visits of a lenient one up to the first that fails. -/
theorem visits_strict_of_failed {queue : List String} {earlier : List Visit} {v : Visit}
    (front : earlier ++ [v] <+: h.visits s ⟨false, reload⟩ queue)
    (unfailed : ∀ u ∈ earlier, u.failure? = none) (failed : v.failure? ≠ none) :
    h.visits s ⟨true, reload⟩ queue = earlier ++ [v] := by
  induction queue generalizing h earlier with
  | nil => simp [visits] at front
  | cons x rest ih =>
    rw [visits_cons_of_continue (.inl rfl)] at front
    cases earlier with
    | nil =>
      obtain ⟨first, -⟩ := List.cons_prefix_cons.1 front
      rw [first] at failed ⊢
      exact visits_cons_of_stop rfl failed
    | cons u earlier =>
      obtain ⟨first, others⟩ := List.cons_prefix_cons.1 front
      obtain ⟨first_unfailed, unfailed⟩ := List.forall_mem_cons.1 unfailed
      rw [first] at first_unfailed ⊢
      rw [List.cons_append, ← ih others unfailed]
      exact visits_cons_of_continue (.inr first_unfailed)

end ExtensionHost

end Backtest.Component
