import Backtest.Proofs.Language.ScriptRuns

/-!
# Failures of a host

No construct of the language goes on after a call of the host that has failed. Such a call is the last one
that an expression makes, and its error is that of the expression; of a script it is the last one as well,
and its error is that of the script, at the line of the call. So what a host puts aside when it fails a call
is what the script has failed of.
-/

namespace Backtest.Language

variable {σ α β : Type}

/-- The error with which a call ends. A host without the function fails it, too. -/
def HostCall.failure? (c : HostCall) : Option EvalError :=
  match c.answer with
  | none => some (.unknownFunction c.function)
  | some (.error e) => some e
  | some (.ok _) => none

/-- A recording host answers as the host does and puts the call with its answer behind the record. -/
theorem Host.recording_call (host : Host σ) (name : String) (args : List Value) (s : σ × List HostCall) :
    host.recording.call name args s =
      ((host.call name args s.1).1, (host.call name args s.1).2,
        s.2 ++ [⟨name, args, (host.call name args s.1).1⟩]) :=
  rfl

section Surface

/-- A call that fails is the last one, and its error is the result. -/
def Surfaces (calls : List HostCall) (result : Except EvalError α) : Prop :=
  ∀ before c after e, calls = before ++ c :: after → c.failure? = some e → after = [] ∧ result = .error e

namespace Surfaces

variable {calls later : List HostCall} {result : Except EvalError α}

/-- Without calls nothing has failed. -/
theorem nil (result : Except EvalError α) : Surfaces [] result := by
  intro before c after e split
  simp at split

/-- One call is the last one, and its error is the result if it has one. -/
theorem singleton {c : HostCall} (error : ∀ e, c.failure? = some e → result = .error e) :
    Surfaces [c] result := by
  intro before c' after e split failed
  obtain ⟨rfl, rfl, rfl⟩ : before = [] ∧ c = c' ∧ after = [] := by
    cases before <;> simp_all
  exact ⟨rfl, error e failed⟩

/-- An error is the error of a result of any other kind. -/
theorem of_error {e : EvalError} (surfaces : Surfaces calls (.error e : Except EvalError α)) :
    Surfaces calls (.error e : Except EvalError β) := by
  intro before c after e' split failed
  obtain ⟨last, ⟨⟩⟩ := surfaces before c after e' split failed
  exact ⟨last, rfl⟩

/-- Calls that end in a value have not failed, so a failed call is among those behind them. -/
theorem exists_behind {a : α} (surfaces : Surfaces calls (.ok a)) {before after : List HostCall} {c : HostCall}
    {e : EvalError} (split : calls ++ later = before ++ c :: after) (failed : c.failure? = some e) :
    ∃ between, before = calls ++ between ∧ later = between ++ c :: after := by
  rcases List.append_eq_append_iff.1 split with ⟨between, rfl, behind⟩ | ⟨between, inside, behind⟩
  · exact ⟨between, rfl, behind⟩
  · cases between with
    | nil => exact ⟨[], by simpa using inside.symm, behind.symm⟩
    | cons first between =>
      obtain ⟨rfl, -⟩ := List.cons_eq_cons.1 behind
      exact nomatch (surfaces before c between e inside failed).2

/-- Calls behind others that did not fail are the last ones if they are the last of their own. -/
theorem append {a : α} {result : Except EvalError β} (first : Surfaces calls (.ok a))
    (next : Surfaces later result) : Surfaces (calls ++ later) result := by
  intro before c after e split failed
  obtain ⟨between, -, behind⟩ := first.exists_behind split failed
  exact next between c after e behind failed

end Surfaces

/-- What fails of the calls of a computation surfaces, whatever is on the record before. -/
def EvalM.Surfaces (x : EvalM (σ × List HostCall) α) : Prop :=
  ∀ s record, ∃ calls, (x (s, record)).2.2 = record ++ calls ∧ Language.Surfaces calls (x (s, record)).1

namespace EvalM.Surfaces

/-- A result without calls surfaces. -/
theorem ofExcept (result : Except EvalError α) :
    EvalM.Surfaces (EvalM.ofExcept result : EvalM (σ × List HostCall) α) :=
  fun _ record => ⟨[], (List.append_nil record).symm, .nil result⟩

/-- Two steps surface if each does. -/
theorem bind {x : EvalM (σ × List HostCall) α} {f : α → EvalM (σ × List HostCall) β}
    (first : x.Surfaces) (next : ∀ a, (f a).Surfaces) : (x >>= f).Surfaces := by
  intro s record
  obtain ⟨calls, appended, surfaces⟩ := first s record
  rw [EvalM.bind_apply]
  generalize x (s, record) = done at appended surfaces ⊢
  obtain ⟨e | a, t, _⟩ := done
  · exact ⟨calls, appended, surfaces.of_error⟩
  · obtain rfl := appended
    obtain ⟨later, appended, surfacesLater⟩ := next a t (record ++ calls)
    exact ⟨calls ++ later, by rw [appended, List.append_assoc], surfaces.append surfacesLater⟩

end EvalM.Surfaces

/-- Surfacing is kept by all that evaluation is made of. -/
theorem EvalM.congruence_surfaces :
    EvalM.Congruence fun {α} (x : EvalM (σ × List HostCall) α) (_ : EvalM (σ × List HostCall) α) => x.Surfaces :=
  ⟨.ofExcept, .bind⟩

/-- The call of a function surfaces. -/
theorem callFunction_surfaces (host : Host σ) (name : String) (args : List Value) :
    (callFunction host.recording name args).Surfaces := by
  unfold callFunction
  cases builtin? name with
  | some function => exact .ofExcept _
  | none =>
    intro s record
    simp only [Host.recording_call]
    generalize (host.call name args s).1 = answer
    refine ⟨[⟨name, args, answer⟩], ?_, .singleton fun e failed => ?_⟩
    · cases answer <;> rfl
    · rcases answer with _ | _ | v
      · cases failed
        rfl
      · cases failed
        rfl
      · cases failed

/-- A call that fails is the last one that an expression makes, and its error is that of the expression. -/
theorem evaluate_surfaces (host : Host σ) (b : Bindings) (e : Expr) (s : σ) :
    Surfaces (evaluationCalls host b e s) (evaluate host b e s).1 := by
  have all : (evaluate host.recording b e).Surfaces :=
    @evaluate_congruent _ _ _ EvalM.congruence_surfaces host.recording host.recording b b e (fun _ _ => rfl)
      fun name _ => callFunction_surfaces host name
  obtain ⟨calls, appended, surfaces⟩ := all s []
  rw [evaluate_recording] at appended surfaces
  obtain rfl : evaluationCalls host b e s = calls := by simpa using appended
  exact surfaces

end Surface

section Lines

variable {host : Host σ} {lines : List ScriptLine} {state : ScriptState σ}

/-- The calls that the lines of a script make. -/
def lineCalls (host : Host σ) (lines : List ScriptLine) (state : ScriptState σ) : List HostCall :=
  (runLines host.recording lines (state.recording [])).2.host.2

/-- With a recording host lines run as with the host itself, and their calls are recorded. -/
theorem runLines_recording (host : Host σ) (lines : List ScriptLine) (state : ScriptState σ)
    (record : List HostCall) :
    runLines host.recording lines (state.recording record) =
      ((runLines host lines state).1,
        (runLines host lines state).2.recording (record ++ lineCalls host lines state)) := by
  obtain ⟨b, s⟩ := state
  have replayed : s = (s, ([] : List HostCall)).1 ∧ s = replay host [] s := ⟨rfl, rfl⟩
  have plain := runLines_related (host.related_recording s) lines b replayed
  have onto : (s, record).1 = (s, ([] : List HostCall)).1 ∧ record = record ++ [] := ⟨rfl, by simp⟩
  have appended := runLines_related (host.related_record record) lines b onto
  refine Prod.ext (appended.result.trans plain.result.symm) ?_
  have bindings := appended.bindings.trans plain.bindings.symm
  have states := appended.host.1.trans plain.host.1.symm
  have calls : (runLines host.recording lines ⟨b, s, record⟩).2.host.2 = record ++ lineCalls host lines ⟨b, s⟩ :=
    appended.host.2
  simp only [ScriptState.recording]
  rw [← bindings, ← states, ← calls]

/-- A line is run before the rest, which is run if the line has a value. -/
theorem runLines_cons (host : Host σ) (l : ScriptLine) (rest : List ScriptLine) (state : ScriptState σ) :
    runLines host (l :: rest) state =
      match evaluate host state.bindings l.statement.expression state.host with
      | (.ok v, next) => runLines host rest ⟨l.statement.bind state.bindings v, next⟩
      | (.error e, next) => (.error ⟨l.line, e⟩, ⟨state.bindings, next⟩) := by
  rw [runLines, Statement.run_eq]
  rcases evaluate host state.bindings l.statement.expression state.host with ⟨_ | _, next⟩ <;> rfl

/-- The calls of a line come before those of the rest, which are made if the line has a value. -/
theorem lineCalls_cons (host : Host σ) (l : ScriptLine) (rest : List ScriptLine) (state : ScriptState σ) :
    lineCalls host (l :: rest) state =
      evaluationCalls host state.bindings l.statement.expression state.host ++
        match evaluate host state.bindings l.statement.expression state.host with
        | (.ok v, next) => lineCalls host rest ⟨l.statement.bind state.bindings v, next⟩
        | (.error _, _) => [] := by
  rw [lineCalls, runLines_cons]
  simp only [ScriptState.recording, evaluate_recording, List.nil_append]
  rcases evaluate host state.bindings l.statement.expression state.host with ⟨_ | v, next⟩
  · simp
  · exact congrArg (·.2.host.2) (runLines_recording host rest ⟨l.statement.bind state.bindings v, next⟩ _)

/-- A run that ends in a call. The lines before that of the call have run; the call is the last of its line
and of all; its error is that of the line's expression and, with the number of the line, that of the run. -/
def EndsInCall (host : Host σ) (lines : List ScriptLine) (state : ScriptState σ) (c : HostCall)
    (e : EvalError) : Prop :=
  ∃ first l rest mid own next, lines = first ++ l :: rest ∧ runLines host first state = (.ok (), mid) ∧
    evaluate host mid.bindings l.statement.expression mid.host = (.error e, next) ∧
    evaluationCalls host mid.bindings l.statement.expression mid.host = own ++ [c] ∧
    lineCalls host lines state = lineCalls host first state ++ own ++ [c] ∧
    runLines host lines state = (.error ⟨l.line, e⟩, ⟨mid.bindings, next⟩)

/-- A call that fails is the last one of a run, and the run ends in it. -/
theorem runLines_surfaces {before after : List HostCall} {c : HostCall} {e : EvalError}
    (calls : lineCalls host lines state = before ++ c :: after) (failed : c.failure? = some e) :
    after = [] ∧ EndsInCall host lines state c e := by
  induction lines generalizing state before with
  | nil =>
    rw [lineCalls, runLines] at calls
    simp [ScriptState.recording] at calls
  | cons l rest ih =>
    have surfaces := evaluate_surfaces host state.bindings l.statement.expression state.host
    rw [EndsInCall, lineCalls_cons, runLines_cons]
    rw [lineCalls_cons] at calls
    rcases value : evaluate host state.bindings l.statement.expression state.host with ⟨f | v, next⟩
    · simp only [value, List.append_nil] at calls surfaces ⊢
      obtain ⟨rfl, same⟩ := surfaces before c after e calls failed
      cases same
      exact ⟨rfl, [], l, rest, state, before, next, rfl, rfl, value, calls, calls, rfl⟩
    · simp only [value] at calls surfaces ⊢
      obtain ⟨between, -, behind⟩ := surfaces.exists_behind calls failed
      obtain ⟨last, first, l', rest', mid, own, next', rfl, run, error, ownCalls, all, result⟩ := ih behind
      refine ⟨last, l :: first, l', rest', mid, own, next', rfl, ?_, error, ownCalls, ?_, result⟩
      · rw [runLines_cons, value]
        exact run
      · rw [all, lineCalls_cons, value]
        simp only [List.append_assoc]

/-- Lines that end in a call make it last. -/
theorem EndsInCall.lineCalls_eq {c : HostCall} {e : EvalError} (ends : EndsInCall host lines state c e) :
    ∃ before, lineCalls host lines state = before ++ [c] := by
  obtain ⟨_, _, _, _, _, _, -, -, -, -, calls, -⟩ := ends
  exact ⟨_, calls⟩

/-- Lines that end in a call have its error under a line number. -/
theorem EndsInCall.runLines_eq {c : HostCall} {e : EvalError} (ends : EndsInCall host lines state c e) :
    ∃ line, (runLines host lines state).1 = .error ⟨line, e⟩ := by
  obtain ⟨_, l, _, _, _, _, -, -, -, -, -, run⟩ := ends
  exact ⟨l.line, by rw [run]⟩

end Lines

section Aside

variable {ε : Type} {host : Host σ} {kept : σ → Option ε} {fault? : HostCall → Option ε} {error : ε → EvalError}

/-- A host that puts the fault of a call aside, if it has one, and fails the call with an error that stands
for the fault. -/
structure Host.PutsAside (host : Host σ) (kept : σ → Option ε) (fault? : HostCall → Option ε)
    (error : ε → EvalError) : Prop where
  fails : ∀ name args s f, fault? ⟨name, args, (host.call name args s).1⟩ = some f →
    (host.call name args s).1 = some (.error (error f))
  keeps : ∀ name args s,
    kept (host.call name args s).2 = (fault? ⟨name, args, (host.call name args s).1⟩).or (kept s)

/-- What is kept aside is the fault of a call, and a call with a fault has failed and left one aside. -/
structure Accounts (kept : σ → Option ε) (fault? : HostCall → Option ε) (error : ε → EvalError)
    (s : σ × List HostCall) : Prop where
  origin : ∀ f, kept s.1 = some f → ∃ c ∈ s.2, fault? c = some f
  faults : ∀ c ∈ s.2, ∀ f, fault? c = some f → c.failure? = some (error f) ∧ ∃ g, kept s.1 = some g

/-- What a host puts aside accounts for its failures, call by call. -/
theorem Host.PutsAside.accounts (aside : host.PutsAside kept fault? error) (name : String) (args : List Value)
    {s : σ × List HostCall} (h : Accounts kept fault? error s) :
    Accounts kept fault? error (host.recording.call name args s).2 := by
  have keeps := aside.keeps name args s.1
  have fails := aside.fails name args s.1
  rw [Host.recording_call]
  generalize (host.call name args s.1).1 = answer at keeps fails ⊢
  constructor
  · intro f hf
    rw [keeps, Option.or_eq_some_iff] at hf
    rcases hf with own | ⟨-, before⟩
    · exact ⟨_, List.mem_concat_self, own⟩
    · obtain ⟨c, mem, fault⟩ := h.origin f before
      exact ⟨c, List.mem_append_left _ mem, fault⟩
  · intro c mem f fault
    dsimp only
    rw [keeps]
    rcases List.mem_append.1 mem with earlier | own
    · obtain ⟨failed, g, before⟩ := h.faults c earlier f fault
      refine ⟨failed, ?_⟩
      rw [before]
      cases fault? ⟨name, args, answer⟩ with
      | none => exact ⟨g, rfl⟩
      | some g => exact ⟨g, rfl⟩
    · obtain rfl := List.mem_singleton.1 own
      exact ⟨by rw [HostCall.failure?, fails f fault], f, by rw [fault]; rfl⟩

/-- When lines have run, a fault is kept aside if and only if the run ends in a call that has it. -/
theorem Host.PutsAside.kept_runLines (aside : host.PutsAside kept fault? error) (lines : List ScriptLine)
    {state : ScriptState σ} (nothing : kept state.host = none) (f : ε) :
    kept (runLines host lines state).2.host = some f ↔
      ∃ c, fault? c = some f ∧ EndsInCall host lines state c (error f) := by
  have start : Accounts kept fault? error (state.host, []) := ⟨by simp [nothing], by simp⟩
  have accounts := runLines_invariant host.recording (fun name args _ => aside.accounts name args) lines
    state.bindings start
  have recorded := runLines_recording host lines state []
  rw [ScriptState.recording] at recorded
  rw [recorded, List.nil_append] at accounts
  have ends : ∀ g, kept (runLines host lines state).2.host = some g →
      ∃ c, fault? c = some g ∧ EndsInCall host lines state c (error g) := by
    intro g hg
    obtain ⟨c, mem, fault⟩ := accounts.origin g hg
    obtain ⟨failed, -⟩ := accounts.faults c mem g fault
    obtain ⟨before, after, split⟩ := List.append_of_mem mem
    exact ⟨c, fault, (runLines_surfaces split failed).2⟩
  refine ⟨ends f, ?_⟩
  rintro ⟨c, fault, last⟩
  obtain ⟨before, split⟩ := last.lineCalls_eq
  have mem : c ∈ lineCalls host lines state := split ▸ List.mem_concat_self
  obtain ⟨-, g, hg⟩ := accounts.faults c mem f fault
  obtain ⟨c', fault', last'⟩ := ends g hg
  obtain ⟨before', split'⟩ := last'.lineCalls_eq
  obtain ⟨-, rfl⟩ := List.append_inj' (split.symm.trans split') rfl |>.imp_right List.singleton_inj.1
  exact hg.trans (fault'.symm.trans fault)

end Aside

end Backtest.Language
