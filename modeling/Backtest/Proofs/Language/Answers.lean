import Backtest.Proofs.Language.HostRelation

/-!
# What operators and built-in functions answer

The answer of an operator depends on the values of its operands, and that of a built-in function on the values
of its arguments, and on nothing else: not on the expressions that have these values, nor on what is bound or
which host is there. An answer is therefore stated here for all expressions with the given values.
-/

namespace Backtest.Language

/-- An operator between any two expressions that evaluate to the given values answers so. -/
def Answers (op : BinaryOp) (a b : Value) (answer : Except EvalError Value) : Prop :=
  ∀ (σ : Type) (host : Host σ) (bindings : Bindings) (l r : Expr) (s s₁ s₂ : σ),
    evaluate host bindings l s = (.ok a, s₁) → evaluate host bindings r s₁ = (.ok b, s₂) →
      (evaluate host bindings (.binary op l r) s).1 = answer

/-- A call with any expressions as arguments that evaluate to the given values answers so. -/
def CallAnswers (function : String) (args : List Value) (answer : Except EvalError Value) : Prop :=
  ∀ (σ : Type) (host : Host σ) (bindings : Bindings) (es : List Expr) (s s₁ : σ),
    evaluateAll host bindings es s = (.ok args, s₁) →
      (evaluate host bindings (.call function es) s).1 = answer

section Evaluation

variable {σ : Type} {host : Host σ} {bindings : Bindings} {l r : Expr} {s s₁ s₂ : σ} {v w : Value}

/-- A binary expression has what its operator makes of the values of its operands. -/
theorem evaluate_binary (op : BinaryOp) (left : evaluate host bindings l s = (.ok v, s₁))
    (right : evaluate host bindings r s₁ = (.ok w, s₂)) :
    (evaluate host bindings (.binary op l r) s).1 = match op with
      | .arithmetic op => applyArithmetic op v w
      | .equality op => .ok (applyEquality op v w)
      | .order op => applyOrder op v w
      | .logic op => .ok (if op.decided v then v else w) := by
  cases op with
  | arithmetic | equality | order =>
    rw [evaluate, EvalM.bind_apply, left]
    dsimp only
    rw [EvalM.bind_apply, right]
    rfl
  | logic op =>
    rw [evaluate, EvalM.bind_apply, left]
    dsimp only
    cases op.decided v
    · simp only [Bool.false_eq_true, if_false]
      rw [right]
    · rfl

/-- Literals have their own values, and nobody is called for them. -/
theorem evaluateAll_literals (host : Host σ) (bindings : Bindings) (values : List Value) (s : σ) :
    evaluateAll host bindings (values.map .literal) s = (.ok values, s) := by
  induction values with
  | nil => rfl
  | cons v rest ih =>
    rw [List.map_cons, evaluateAll, evaluate, EvalM.bind_apply]
    change (evaluateAll host bindings (rest.map .literal) >>= fun vs => pure (v :: vs)) s = _
    rw [EvalM.bind_apply, ih]
    rfl

end Evaluation

variable {op : BinaryOp} {a b : Value} {x y : Except EvalError Value} {name : String} {args : List Value}

/-- An operator has one answer for two values. -/
theorem Answers.unique (first : Answers op a b x) (second : Answers op a b y) : x = y :=
  (first Unit Host.core .empty (.literal a) (.literal b) () () () rfl rfl).symm.trans
    (second Unit Host.core .empty (.literal a) (.literal b) () () () rfl rfl)

/-- An order of two values is answered as it is applied. -/
theorem answers_order (op : OrderOp) (a b : Value) : Answers (.order op) a b (applyOrder op a b) :=
  fun _ _ _ _ _ _ _ _ left right => evaluate_binary (.order op) left right

/-- So is an equality. -/
theorem answers_equality (op : EqualityOp) (a b : Value) :
    Answers (.equality op) a b (.ok (applyEquality op a b)) :=
  fun _ _ _ _ _ _ _ _ left right => evaluate_binary (.equality op) left right

/-- A call has one answer for the values of its arguments. -/
theorem CallAnswers.unique (first : CallAnswers name args x) (second : CallAnswers name args y) : x = y :=
  have values := evaluateAll_literals Host.core .empty args ()
  (first Unit Host.core .empty _ () () values).symm.trans (second Unit Host.core .empty _ () () values)

/-- Built-in functions answer calls of their names. -/
theorem callAnswers_builtin {function : List Value → Except EvalError Value}
    (found : builtin? name = some function) (args : List Value) : CallAnswers name args (function args) := by
  intro σ host bindings es s s₁ values
  rw [evaluate, EvalM.bind_apply, values]
  simp only [callFunction, found]
  rfl

end Backtest.Language
