import Backtest.Language.Script
import Backtest.Proofs.Language.Mentions

/-!
# Hosts that a script cannot tell apart

The interpreter reaches a host only by calling it, and it calls it only for functions that are not built in.
If two hosts give the same answers on related states and leave related states behind, then expressions and
scripts answer the same with either of them and leave related states behind; for an expression it is enough
that they do so for the functions that it calls. An invariant of a host's state is the case of one host
related to itself, and a host that keeps a log of its calls is related to the host without the log.
-/

namespace Backtest.Language

variable {σ τ α β : Type} {R : σ → τ → Prop}

/-- Computations that answer the same on related states and keep them related. -/
def EvalM.Related (R : σ → τ → Prop) (x : EvalM σ α) (y : EvalM τ α) : Prop :=
  ∀ s t, R s t → (x s).1 = (y t).1 ∧ R (x s).2 (y t).2

/-- Hosts that answer every call the same on related states and keep them related. -/
def Host.Related (R : σ → τ → Prop) (host : Host σ) (other : Host τ) : Prop :=
  ∀ name args s t, R s t →
    (host.call name args s).1 = (other.call name args t).1 ∧
      R (host.call name args s).2 (other.call name args t).2

/-- A second step is made after a first that succeeds, and else the error remains. -/
theorem EvalM.bind_apply (x : EvalM σ α) (f : α → EvalM σ β) (s : σ) :
    (x >>= f) s =
      match x s with
      | (.ok a, next) => f a next
      | (.error e, next) => (.error e, next) := by
  change ExceptT.bindCont f (x s).1 (x s).2 = _
  rcases x s with ⟨e | a, next⟩
  · rfl
  · rfl

namespace EvalM.Related

/-- A result without an effect is related to itself. -/
theorem ofExcept (result : Except EvalError α) :
    EvalM.Related R (EvalM.ofExcept result) (EvalM.ofExcept result) :=
  fun _ _ h => ⟨rfl, h⟩

/-- Two steps are related if each is. -/
theorem bind {x : EvalM σ α} {y : EvalM τ α} {f : α → EvalM σ β} {g : α → EvalM τ β}
    (first : EvalM.Related R x y) (next : ∀ a, EvalM.Related R (f a) (g a)) :
    EvalM.Related R (x >>= f) (y >>= g) := by
  intro s t h
  rw [EvalM.bind_apply, EvalM.bind_apply]
  have hxy := first s t h
  generalize x s = p at hxy ⊢
  generalize y t = q at hxy ⊢
  obtain ⟨e | a, s'⟩ := p <;> obtain ⟨_, t'⟩ := q <;> obtain ⟨rfl, states⟩ := hxy
  · exact ⟨rfl, states⟩
  · exact next a s' t' states

end EvalM.Related

variable {host : Host σ} {other : Host τ}

/-! ### Functions -/

/-- Hosts that answer the calls of some functions the same. Built-in functions do not count, since no call of
one reaches a host. -/
def Host.RelatedOn (R : σ → τ → Prop) (functions : List String) (host : Host σ) (other : Host τ) : Prop :=
  ∀ name ∈ functions, builtin? name = none → ∀ args s t, R s t →
    (host.call name args s).1 = (other.call name args t).1 ∧
      R (host.call name args s).2 (other.call name args t).2

/-- Hosts that are related in all functions are related in some. -/
theorem Host.Related.on (hosts : host.Related R other) (functions : List String) :
    host.RelatedOn R functions other :=
  fun name _ _ => hosts name

/-- Calls of a function in which hosts are related are related. -/
theorem callFunction_related {name : String} (hosts : host.RelatedOn R [name] other) (args : List Value) :
    EvalM.Related R (callFunction host name args) (callFunction other name args) := by
  unfold callFunction
  cases found : builtin? name with
  | some function => exact .ofExcept _
  | none =>
    intro s t h
    have called := hosts name (List.mem_singleton_self name) found args s t h
    dsimp only
    generalize host.call name args s = p at called ⊢
    generalize other.call name args t = q at called ⊢
    obtain ⟨_ | result, s'⟩ := p <;> obtain ⟨_, t'⟩ := q <;> obtain ⟨rfl, states⟩ := called
    · exact ⟨rfl, states⟩
    · exact ⟨rfl, states⟩

/-- Relatedness is kept by all that evaluation is made of. -/
theorem EvalM.congruence_related : EvalM.Congruence fun {α} (x : EvalM σ α) (y : EvalM τ α) => x.Related R y :=
  ⟨.ofExcept, .bind⟩

/-- An expression has the same value with hosts that answer the functions that it calls the same. -/
theorem evaluate_relatedOn (bindings : Bindings) (e : Expr) (hosts : host.RelatedOn R e.functions other) :
    EvalM.Related R (evaluate host bindings e) (evaluate other bindings e) :=
  evaluate_congruent EvalM.congruence_related e (fun _ _ => rfl) fun name called =>
    callFunction_related (List.forall_mem_singleton.2 (hosts name called))

/-- An expression has the same value with related hosts. -/
theorem evaluate_related (hosts : host.Related R other) (bindings : Bindings) (e : Expr) :
    EvalM.Related R (evaluate host bindings e) (evaluate other bindings e) :=
  evaluate_relatedOn bindings e (hosts.on e.functions)

/-- What the calls of a host that are for functions of an expression keep holds when it has been evaluated. -/
theorem evaluate_invariant {P : σ → Prop} {bindings : Bindings} {e : Expr}
    (step : ∀ name ∈ e.functions, builtin? name = none → ∀ args s, P s → P (host.call name args s).2)
    {s : σ} (h : P s) : P (evaluate host bindings e s).2 := by
  have hosts : host.RelatedOn (fun s t => s = t ∧ P s) e.functions host := by
    rintro name called reaches args s _ ⟨rfl, h⟩
    exact ⟨rfl, rfl, step name called reaches args s h⟩
  exact (evaluate_relatedOn bindings e hosts s s ⟨rfl, h⟩).2.2

/-! ### Scripts -/

/-- What a run of a script answers with related hosts: the same result and the same bindings, and related
host states. -/
structure RunsRelated {ε : Type} (R : σ → τ → Prop) (x : Except ε Unit × ScriptState σ)
    (y : Except ε Unit × ScriptState τ) : Prop where
  result : x.1 = y.1
  bindings : x.2.bindings = y.2.bindings
  host : R x.2.host y.2.host

/-- A statement runs alike with related hosts. -/
theorem Statement.run_related (hosts : host.Related R other) (statement : Statement) (b : Bindings)
    {s : σ} {t : τ} (h : R s t) :
    RunsRelated R (statement.run host ⟨b, s⟩) (statement.run other ⟨b, t⟩) := by
  cases statement with
  | assign name e =>
    have evaluated := evaluate_related hosts b e s t h
    rw [Statement.run, Statement.run]
    generalize evaluate host b e s = x at evaluated ⊢
    generalize evaluate other b e t = y at evaluated ⊢
    obtain ⟨_ | v, s'⟩ := x <;> obtain ⟨_, t'⟩ := y <;> obtain ⟨rfl, states⟩ := evaluated
    · exact ⟨rfl, rfl, states⟩
    · exact ⟨rfl, rfl, states⟩
  | expr e =>
    have evaluated := evaluate_related hosts b e s t h
    rw [Statement.run, Statement.run]
    generalize evaluate host b e s = x at evaluated ⊢
    generalize evaluate other b e t = y at evaluated ⊢
    obtain ⟨_ | v, s'⟩ := x <;> obtain ⟨_, t'⟩ := y <;> obtain ⟨rfl, states⟩ := evaluated
    · exact ⟨rfl, rfl, states⟩
    · exact ⟨rfl, rfl, states⟩

/-- The lines of a script do the same with related hosts. -/
theorem runLines_related (hosts : host.Related R other) (lines : List ScriptLine) (b : Bindings)
    {s : σ} {t : τ} (h : R s t) :
    RunsRelated R (runLines host lines ⟨b, s⟩) (runLines other lines ⟨b, t⟩) := by
  induction lines generalizing b s t with
  | nil => exact ⟨rfl, rfl, h⟩
  | cons l rest ih =>
    have first := l.statement.run_related hosts b h
    rw [runLines, runLines]
    generalize l.statement.run host ⟨b, s⟩ = x at first ⊢
    generalize l.statement.run other ⟨b, t⟩ = y at first ⊢
    obtain ⟨e | _, b', s'⟩ := x <;> obtain ⟨_, c', t'⟩ := y <;> obtain ⟨rfl, rfl, states⟩ := first
    · exact ⟨rfl, rfl, states⟩
    · exact ih b' states

/-- What every call of a host keeps holds when a script ends, in success or failure. -/
theorem runLines_invariant (host : Host σ) {P : σ → Prop}
    (step : ∀ name args s, P s → P (host.call name args s).2) (lines : List ScriptLine) (b : Bindings)
    {s : σ} (h : P s) : P (runLines host lines ⟨b, s⟩).2.host := by
  have hosts : host.Related (fun s t => s = t ∧ P s) host := by
    rintro name args s _ ⟨rfl, h⟩
    exact ⟨rfl, rfl, step name args s h⟩
  exact (runLines_related hosts lines b ⟨rfl, h⟩).host.2

end Backtest.Language
