import Backtest.Proofs.Language.Mentions
import Backtest.Proofs.Language.ScriptRuns

/-!
# What an expression reaches

Evaluation looks up the names that occur in an expression as values, and it calls the functions that occur in
it. It asks the host for those only that are not built in, so a host has no say in what a built-in function is,
whether it answers or refuses its arguments.
-/

namespace Backtest.Language

/-- The names of the functions that are built in. -/
def builtinNames : List String :=
  ["abs", "min", "max", "len", "int", "float", "str", "bool", "round", "sum"]

/-- A name is that of a builtin if and only if it is listed. -/
theorem isSome_builtin?_iff {name : String} : (builtin? name).isSome ↔ name ∈ builtinNames := by
  unfold builtin?
  split <;> simp_all [builtinNames]

/-- A name that is not listed is that of no builtin. -/
theorem not_mem_builtinNames_iff {name : String} : name ∉ builtinNames ↔ builtin? name = none := by
  rw [← isSome_builtin?_iff, Option.not_isSome_iff_eq_none]

variable {σ τ : Type} {b c : Bindings} {e : Expr}

/-- Hosts do not differ on built-in functions. -/
theorem Host.relatedOn_of_builtin (R : σ → τ → Prop) {functions : List String}
    (builtin : ∀ name ∈ functions, name ∈ builtinNames) (host : Host σ) (other : Host τ) :
    host.RelatedOn R functions other :=
  fun name called reaches => absurd (builtin name called) (not_mem_builtinNames_iff.2 reaches)

/-- A call that an expression with the given functions may make of a host: one of these functions is called,
and it is not built in. -/
def HostCall.IsFor (functions : List String) (call : HostCall) : Prop :=
  call.function ∈ functions ∧ call.function ∉ builtinNames

/-- Evaluation calls nothing but the functions that the expression mentions. -/
theorem isFor_of_mem_evaluationCalls (host : Host σ) (s : σ) :
    ∀ call ∈ evaluationCalls host b e s, call.IsFor e.functions := by
  refine evaluate_invariant (P := fun state : σ × List HostCall => ∀ call ∈ state.2, call.IsFor e.functions)
    ?_ nofun
  intro name called reaches args state before
  have last : HostCall.IsFor e.functions ⟨name, args, (host.call name args state.1).1⟩ :=
    ⟨called, not_mem_builtinNames_iff.2 reaches⟩
  exact List.forall_mem_append.2 ⟨before, List.forall_mem_singleton.2 last⟩

/-- An evaluation depends on the bindings of the names that occur in its expression and on the host's answers
for the functions that occur in it and are not built in. If there are no such functions, then the host is not
called, and its place can be taken by any other. -/
theorem evaluate_sees_mentioned (agree : b.AgreeOn e.names c) :
    (∀ (σ : Type) (host : Host σ) (s : σ),
      evaluate host b e s = evaluate host c e s ∧
      evaluationCalls host b e s = evaluationCalls host c e s ∧
      ∀ call ∈ evaluationCalls host b e s, call.IsFor e.functions) ∧
    ((∀ name ∈ e.functions, name ∈ builtinNames) →
      ∀ (σ τ : Type) (host : Host σ) (other : Host τ) (s : σ) (t : τ),
        (evaluate host b e s).1 = (evaluate other c e t).1 ∧
        (evaluate host b e s).2 = s ∧
        evaluationCalls host b e s = []) := by
  constructor
  · intro σ host s
    refine ⟨by rw [evaluate_congr host e agree], ?_, isFor_of_mem_evaluationCalls host s⟩
    rw [evaluationCalls, evaluationCalls, evaluate_congr host.recording e agree]
  · intro builtin σ τ host other s t
    have hosts := Host.relatedOn_of_builtin (fun s' _ => s' = s) builtin host other
    obtain ⟨result, kept⟩ := evaluate_relatedOn c e hosts s t rfl
    rw [evaluate_congr host e agree]
    refine ⟨result, kept, List.eq_nil_iff_forall_not_mem.2 fun call made => ?_⟩
    obtain ⟨called, reaches⟩ := isFor_of_mem_evaluationCalls host s call made
    exact reaches (builtin _ called)

/-- A host that has an answer of its own for every function is not asked for the absolute value of `x`. -/
theorem evaluate_sees_mentioned_of_absolute :
    let host : Host Nat := ⟨fun _ _ calls => (some (.ok .nothing), calls + 1)⟩
    let e : Expr := .call "abs" [.name "x"]
    let b := (Bindings.empty.insert "x" (.int (-1))).insert "y" .nothing
    let c := Bindings.empty.insert "x" (.int (-1))
    evaluate host b e 0 = evaluate host c e 0 ∧ (evaluate host b e 0).1 = .ok (.int 1) ∧
      (evaluate host b e 0).2 = 0 ∧ evaluationCalls host b e 0 = [] := by
  intro host e b c
  have agree : b.AgreeOn e.names c := List.forall_mem_singleton.2 rfl
  have builtin : ∀ name ∈ e.functions, name ∈ builtinNames := by decide
  obtain ⟨namespaces, hosts⟩ := evaluate_sees_mentioned agree
  obtain ⟨result, kept, calls⟩ := hosts builtin Nat Unit host Host.core 0 ()
  exact ⟨(namespaces Nat host 0).1, result.trans rfl, kept, calls⟩

end Backtest.Language
