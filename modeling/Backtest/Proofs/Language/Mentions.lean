import Backtest.Language.Definition
import Mathlib.Data.List.Nodup

/-!
# What an expression mentions

An expression sees of the bindings only the values of the names that occur in it. Bindings that agree on
these give it the same value with the same effects on the host, whatever else is bound and in whatever order
the names are listed.
-/

namespace Backtest.Language

mutual

/-- The names that occur in an expression as values. The functions that it calls are not among them, since
no binding changes what a call means. -/
def Expr.names : Expr → List String
  | .literal _ => []
  | .name n => [n]
  | .list items => namesOf items
  | .unary _ operand => operand.names
  | .binary _ left right => left.names ++ right.names
  | .call _ args => namesOf args

/-- The names that occur in expressions. -/
def namesOf : List Expr → List String
  | [] => []
  | e :: rest => e.names ++ namesOf rest

end

mutual

/-- The functions that an expression calls. -/
def Expr.functions : Expr → List String
  | .literal _ => []
  | .name _ => []
  | .list items => functionsOf items
  | .unary _ operand => operand.functions
  | .binary _ left right => left.functions ++ right.functions
  | .call function args => function :: functionsOf args

/-- The functions that expressions call. -/
def functionsOf : List Expr → List String
  | [] => []
  | e :: rest => e.functions ++ functionsOf rest

end

/-- Bindings under which the given names have the same values, or none. -/
def Bindings.AgreeOn (names : List String) (b c : Bindings) : Prop :=
  ∀ n ∈ names, b.get? n = c.get? n

/-- Bindings under which every name has the same value, or none. They may list the names in another order. -/
def Bindings.Alike (b c : Bindings) : Prop :=
  ∀ n, b.get? n = c.get? n

namespace Bindings

variable {b c : Bindings} {names more : List String}

/-- Bindings agree on two lists of names if they agree on each. -/
theorem agreeOn_append : AgreeOn (names ++ more) b c ↔ AgreeOn names b c ∧ AgreeOn more b c :=
  List.forall_mem_append

/-- Bindings that are alike agree on all names. -/
theorem Alike.agreeOn (alike : Alike b c) (names : List String) : AgreeOn names b c :=
  fun n _ => alike n

/-- A name that is not among the given ones may be bound. -/
theorem agreeOn_insert {name : String} (fresh : name ∉ names) (b : Bindings) (v : Value) :
    AgreeOn names (b.insert name v) b := by
  intro n hn
  rw [get?_insert, if_neg]
  rintro rfl
  exact fresh hn

/-- Bindings that are alike remain so with one more binding. -/
theorem Alike.insert (alike : Alike b c) (name : String) (v : Value) :
    Alike (b.insert name v) (c.insert name v) := by
  intro n
  rw [get?_insert, get?_insert, alike n]

/-- Two names may be bound in either order. -/
theorem Alike.insert_comm {name other : String} (different : name ≠ other) (alike : Alike b c)
    (v w : Value) :
    Alike ((b.insert name v).insert other w) ((c.insert other w).insert name v) := by
  intro n
  simp only [get?_insert, alike n]
  by_cases h : n = name
  · subst h
    simp [different]
  · simp [h]

/-- The entries of bindings are the names that they bind. -/
theorem mem_entries_iff {name : String} {v : Value} :
    (name, v) ∈ b.entries ↔ b.get? name = some v := by
  obtain ⟨entries, distinct⟩ := b
  rw [get?]
  induction entries with
  | nil => simp
  | cons e rest ih =>
    obtain ⟨n, w⟩ := e
    rw [List.map_cons, List.nodup_cons] at distinct
    have ih := ih distinct.2
    rw [List.mem_cons, ih, List.lookup_cons]
    by_cases h : name = n
    · subst h
      have absent : rest.lookup name ≠ some v := by
        intro found
        exact distinct.1 (List.mem_map.2 ⟨_, ih.2 found, rfl⟩)
      simp [absent, eq_comm]
    · have other : (name == n) = false := beq_eq_false_iff_ne.2 h
      simp [other, h]

/-- Bindings that are alike have the same entries but for their order. -/
theorem Alike.perm (alike : Alike b c) : b.entries.Perm c.entries := by
  have distinct : ∀ d : Bindings, d.entries.Nodup := fun d => List.Nodup.of_map _ d.distinct
  refine (List.perm_ext_iff_of_nodup (distinct b) (distinct c)).2 ?_
  rintro ⟨name, v⟩
  rw [mem_entries_iff, mem_entries_iff, alike name]

end Bindings

section Evaluation

variable {σ τ : Type} {R : ∀ {α : Type}, EvalM σ α → EvalM τ α → Prop}

/-- A relation between computations in which every result without an effect stands to itself, and which
binding keeps. -/
structure EvalM.Congruence (R : ∀ {α : Type}, EvalM σ α → EvalM τ α → Prop) : Prop where
  ofExcept {α : Type} (result : Except EvalError α) : R (EvalM.ofExcept result) (EvalM.ofExcept result)
  bind {α β : Type} {x : EvalM σ α} {y : EvalM τ α} {f : α → EvalM σ β} {g : α → EvalM τ β}
    (first : R x y) (next : ∀ a, R (f a) (g a)) : R (x >>= f) (y >>= g)

variable (congruence : EvalM.Congruence @R) {host : Host σ} {other : Host τ} {b c : Bindings}

include congruence

mutual

/-- What results without an effect have, what binding keeps, and what holds of the calls of its functions
holds of the evaluation of an expression, under any bindings that agree on its names. -/
theorem evaluate_congruent (e : Expr) (agree : b.AgreeOn e.names c)
    (calls : ∀ name ∈ e.functions, ∀ args, R (callFunction host name args) (callFunction other name args)) :
    R (evaluate host b e) (evaluate other c e) := by
  cases e with
  | literal v => exact congruence.ofExcept (.ok v)
  | name n =>
    rw [evaluate, evaluate, agree n (List.mem_singleton_self n)]
    split
    · exact congruence.ofExcept (.ok _)
    · exact congruence.ofExcept (.error _)
  | list items =>
    exact congruence.bind (evaluateAll_congruent items agree calls) fun values =>
      congruence.ofExcept (.ok (Value.list values))
  | unary op operand =>
    have ih := evaluate_congruent operand agree calls
    cases op with
    | neg => exact congruence.bind ih fun v => congruence.ofExcept (applyNegation v)
    | not => exact congruence.bind ih fun v => congruence.ofExcept (.ok (Value.bool !v.truthy))
  | binary op left right =>
    have agree := Bindings.agreeOn_append.1 agree
    have calls := List.forall_mem_append.1 calls
    have ihl := evaluate_congruent left agree.1 calls.1
    have ihr := evaluate_congruent right agree.2 calls.2
    cases op with
    | arithmetic op =>
      exact congruence.bind ihl fun l => congruence.bind ihr fun r =>
        congruence.ofExcept (applyArithmetic op l r)
    | equality op =>
      exact congruence.bind ihl fun l => congruence.bind ihr fun r =>
        congruence.ofExcept (.ok (applyEquality op l r))
    | order op =>
      exact congruence.bind ihl fun l => congruence.bind ihr fun r =>
        congruence.ofExcept (applyOrder op l r)
    | logic op =>
      refine congruence.bind ihl fun l => ?_
      split
      · exact congruence.ofExcept (.ok l)
      · exact ihr
  | call function args =>
    have calls := List.forall_mem_cons.1 calls
    exact congruence.bind (evaluateAll_congruent args agree calls.2) calls.1

/-- Lists of expressions are evaluated alike under bindings that agree on what they mention. -/
theorem evaluateAll_congruent (es : List Expr) (agree : b.AgreeOn (namesOf es) c)
    (calls : ∀ name ∈ functionsOf es, ∀ args,
      R (callFunction host name args) (callFunction other name args)) :
    R (evaluateAll host b es) (evaluateAll other c es) := by
  cases es with
  | nil => exact congruence.ofExcept (.ok [])
  | cons e rest =>
    have agree := Bindings.agreeOn_append.1 agree
    have calls := List.forall_mem_append.1 calls
    exact congruence.bind (evaluate_congruent e agree.1 calls.1) fun v =>
      congruence.bind (evaluateAll_congruent rest agree.2 calls.2) fun vs =>
        congruence.ofExcept (.ok (v :: vs))

end

end Evaluation

section Bindings

variable {σ : Type} (host : Host σ) {b c : Bindings}

/-- An expression has the same value and the same effects under bindings that agree on its names. -/
theorem evaluate_congr (e : Expr) (agree : b.AgreeOn e.names c) :
    evaluate host b e = evaluate host c e := by
  have equality : EvalM.Congruence fun {α} (x y : EvalM σ α) => x = y :=
    ⟨fun _ => rfl, fun first next => by rw [first, funext next]⟩
  exact evaluate_congruent equality e agree fun _ _ _ => rfl

/-- So has the text of one. -/
theorem evalText_congr {text : String} (agree : ∀ e, parse text = .ok e → b.AgreeOn e.names c) :
    evalText b text = evalText c text := by
  rw [evalText, evalText]
  cases read : parse text with
  | error fault => rfl
  | ok e =>
    dsimp only
    rw [evaluate_congr Host.core e (agree e read)]

end Bindings

end Backtest.Language
