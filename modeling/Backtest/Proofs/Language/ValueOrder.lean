import Backtest.Proofs.Language.Answers
import Backtest.Proofs.Number.Order

/-!
# The order of values

Values of different kinds and numbers that are none have no order, and so have lists that differ first in such
items. Where values have an order, it is one: the other way round it is reversed, it can be chained, and the
chain is then defined as well. Equality, which is always defined, is the same as equal order there.
-/

namespace Backtest.Language

/-! ### Doubles and texts -/

/-- Doubles are ordered as their models are. -/
theorem floatOrder?_eq_compare (x y : Float) :
    floatOrder? x y = x.toModel.unpack.compare y.toModel.unpack := by
  have less := Number.lt_iff_compare x y
  have equal := Number.beq_iff_compare x y
  have greater := Number.lt_iff_compare y x
  rw [← Number.coherent_compare.swap x.toModel.unpack] at greater
  generalize x.toModel.unpack.compare y.toModel.unpack = order at less equal greater ⊢
  unfold floatOrder?
  rcases order with _ | _ | _ | _ <;> simp [less, equal, greater]

/-- The order of doubles is coherent. -/
theorem coherent_floatOrder? : Coherent floatOrder? where
  swap x y := by
    rw [floatOrder?_eq_compare, floatOrder?_eq_compare]
    exact Number.coherent_compare.swap _ _
  chain := by
    intro x y z first second
    rw [floatOrder?_eq_compare, floatOrder?_eq_compare, floatOrder?_eq_compare]
    exact Number.coherent_compare.chain

/-- Doubles are equal if they have an equal order, and no others are. -/
theorem beq_eq_decide_floatOrder? (x y : Float) : (x == y) = decide (floatOrder? x y = some .eq) := by
  rw [Bool.eq_iff_iff, decide_eq_true_iff, floatOrder?_eq_compare]
  exact Number.beq_iff_compare x y

/-- So is that of texts. -/
theorem coherent_compare_text : Coherent fun s t : String => some (compare s t) :=
  .of_rank compare some

/-! ### Values by kind -/

section Kinds

variable {a b : Value} {o : Ordering}

/-- A number has an order with numbers only, which is that of their doubles. -/
theorem order?_number {x : Float} (number : a.toFloat? = some x) :
    a.order? b = b.toFloat?.bind (floatOrder? x) := by
  cases a with
  | bool | int | float =>
    cases number
    cases b <;> rfl
  | _ => cases number

/-- A number equals numbers only, and those with the same double. -/
theorem equal_number {x : Float} (number : a.toFloat? = some x) :
    a.equal b = (b.toFloat?.map (x == ·)).getD false := by
  cases a with
  | bool | int | float =>
    cases number
    cases b <;> rfl
  | _ => cases number

/-- A text has an order with texts only. -/
theorem order?_str_eq_some {s : String} :
    (Value.str s).order? b = some o ↔ ∃ t, b = .str t ∧ compare s t = o := by
  cases b <;> simp [Value.order?, Value.toFloat?]

/-- A list has an order with lists only, which is that of their items. -/
theorem order?_list_eq_some {items : List Value} :
    (Value.list items).order? b = some o ↔ ∃ others, b = .list others ∧ orderItems? items others = some o := by
  cases b <;> simp [Value.order?, Value.toFloat?]

/-- Nothing has no order with anything. -/
theorem order?_nothing : Value.nothing.order? b = none := by
  cases b <;> rfl

/-- Lists are ordered by their first items, or by the others if these are equal. -/
theorem orderItems?_cons_eq_some {as bs : List Value} : orderItems? (a :: as) (b :: bs) = some o ↔
    a.order? b = some .eq ∧ orderItems? as bs = some o ∨ a.order? b = some o ∧ o ≠ .eq := by
  rw [orderItems?]
  rcases a.order? b with _ | _ | _ | _ <;> cases o <;> simp

end Kinds

/-- Where a list ends, the lengths decide. -/
theorem chain_of_nil {as bs cs : List Value} {first second : Ordering} (ended : as = [] ∨ bs = [] ∨ cs = [])
    (hab : orderItems? as bs = some first) (hbc : orderItems? bs cs = some second)
    (concordant : Concordant first second) : orderItems? as cs = some (first.then second) := by
  rcases ended with rfl | rfl | rfl
  · cases bs with
    | nil =>
      cases hab
      exact hbc
    | cons b bs =>
      cases hab
      cases cs with
      | nil =>
        cases hbc
        exact absurd concordant (by decide)
      | cons c cs => rfl
  · cases cs with
    | nil =>
      cases hbc
      rwa [Ordering.then_eq]
    | cons c cs =>
      cases hbc
      rw [concordant.then_of_ne (by decide)]
      cases as with
      | nil => rfl
      | cons a as =>
        cases hab
        exact absurd concordant (by decide)
  · cases bs with
    | nil =>
      cases hbc
      rwa [Ordering.then_eq]
    | cons b bs =>
      cases hbc
      rw [concordant.then_of_ne (by decide)]
      cases as with
      | nil =>
        cases hab
        exact absurd concordant (by decide)
      | cons a as => rfl

/-! ### The order of values -/

mutual

/-- Swapping two values swaps their order. -/
theorem Value.swap_order? (a b : Value) : (a.order? b).map Ordering.swap = b.order? a := by
  cases a with
  | nothing =>
    rw [order?_nothing]
    cases b <;> rfl
  | str s =>
    cases b with
    | str t => exact coherent_compare_text.swap s t
    | _ => rfl
  | list items =>
    cases b with
    | list others => exact swap_orderItems? items others
    | _ => rfl
  | bool | int | float =>
    cases b with
    | bool | int | float => exact coherent_floatOrder?.swap _ _
    | _ => rfl

/-- Swapping two lists swaps their order. -/
theorem swap_orderItems? (as bs : List Value) :
    (orderItems? as bs).map Ordering.swap = orderItems? bs as := by
  cases as with
  | nil => cases bs <;> rfl
  | cons a as =>
    cases bs with
    | nil => rfl
    | cons b bs =>
      rw [orderItems?, orderItems?, ← Value.swap_order? a b]
      rcases a.order? b with _ | _ | _ | _
      · rfl
      · rfl
      · exact swap_orderItems? as bs
      · rfl

end

mutual

/-- Values chain their orders. -/
theorem Value.chain_order? (a b c : Value) {first second : Ordering} (hab : a.order? b = some first)
    (hbc : b.order? c = some second) (concordant : Concordant first second) :
    a.order? c = some (first.then second) := by
  cases a with
  | nothing =>
    rw [order?_nothing] at hab
    cases hab
  | str s =>
    obtain ⟨t, rfl, hst⟩ := order?_str_eq_some.1 hab
    obtain ⟨u, rfl, htu⟩ := order?_str_eq_some.1 hbc
    exact coherent_compare_text.chain (congrArg some hst) (congrArg some htu) concordant
  | list as =>
    obtain ⟨bs, rfl, hab⟩ := order?_list_eq_some.1 hab
    obtain ⟨cs, rfl, hbc⟩ := order?_list_eq_some.1 hbc
    exact chain_orderItems? as bs cs hab hbc concordant
  | bool | int | float =>
    rw [order?_number rfl] at hab ⊢
    obtain ⟨y, hy, hab⟩ := Option.bind_eq_some_iff.1 hab
    rw [order?_number hy] at hbc
    obtain ⟨z, hz, hbc⟩ := Option.bind_eq_some_iff.1 hbc
    rw [hz]
    exact coherent_floatOrder?.chain hab hbc concordant

/-- Lists chain their orders as their items do: the first of the two differences decides. -/
theorem chain_orderItems? (as bs cs : List Value) {first second : Ordering}
    (hab : orderItems? as bs = some first) (hbc : orderItems? bs cs = some second)
    (concordant : Concordant first second) : orderItems? as cs = some (first.then second) := by
  cases as with
  | nil => exact chain_of_nil (.inl rfl) hab hbc concordant
  | cons a as =>
    cases bs with
    | nil => exact chain_of_nil (.inr (.inl rfl)) hab hbc concordant
    | cons b bs =>
      cases cs with
      | nil => exact chain_of_nil (.inr (.inr rfl)) hab hbc concordant
      | cons c cs =>
        rw [orderItems?_cons_eq_some] at hab hbc ⊢
        rcases hab with ⟨hab, hab'⟩ | ⟨hab, unequal⟩ <;> rcases hbc with ⟨hbc, hbc'⟩ | ⟨hbc, unequal'⟩
        · exact .inl ⟨Value.chain_order? a b c hab hbc (.inl rfl),
            chain_orderItems? as bs cs hab' hbc' concordant⟩
        · rw [concordant.then_of_ne unequal']
          exact .inr ⟨Value.chain_order? a b c hab hbc (.inl rfl), unequal'⟩
        · have heads := Value.chain_order? a b c hab hbc (.inr (.inl rfl))
          rw [then_of_ne unequal] at heads ⊢
          exact .inr ⟨heads, unequal⟩
        · refine .inr ⟨Value.chain_order? a b c hab hbc concordant, ?_⟩
          rwa [then_of_ne unequal]

end

/-- The order of values is coherent. -/
theorem coherent_order? : Coherent Value.order? :=
  ⟨Value.swap_order?, Value.chain_order? _ _ _⟩

mutual

/-- Values that have an order are equal if it is that of equals. -/
theorem Value.equal_of_order? (a b : Value) {o : Ordering} (order : a.order? b = some o) :
    a.equal b = decide (o = .eq) := by
  cases a with
  | nothing =>
    rw [order?_nothing] at order
    cases order
  | str s =>
    obtain ⟨t, rfl, rfl⟩ := order?_str_eq_some.1 order
    rw [Bool.eq_iff_iff, decide_eq_true_iff, Std.LawfulEqCmp.compare_eq_iff_eq]
    exact beq_iff_eq
  | list as =>
    obtain ⟨bs, rfl, order⟩ := order?_list_eq_some.1 order
    exact equalItems_of_orderItems? as bs order
  | bool | int | float =>
    rw [order?_number rfl] at order
    obtain ⟨y, hy, order⟩ := Option.bind_eq_some_iff.1 order
    rw [equal_number rfl, hy, Option.map_some, Option.getD_some, beq_eq_decide_floatOrder?, order]
    simp

/-- Lists with an order are equal if and only if the order says so. -/
theorem equalItems_of_orderItems? (as bs : List Value) {o : Ordering} (order : orderItems? as bs = some o) :
    equalItems as bs = decide (o = .eq) := by
  cases as with
  | nil =>
    cases bs with
    | nil | cons =>
      cases order
      rfl
  | cons a as =>
    cases bs with
    | nil =>
      cases order
      rfl
    | cons b bs =>
      rw [equalItems]
      rcases orderItems?_cons_eq_some.1 order with ⟨heads, tails⟩ | ⟨heads, unequal⟩
      · rw [Value.equal_of_order? a b heads, equalItems_of_orderItems? as bs tails]
        rfl
      · rw [Value.equal_of_order? a b heads, decide_eq_false unequal]
        rfl

end

/-! ### Tests -/

/-- An operator between any two expressions with the given values evaluates to `True`. -/
def Holds (op : BinaryOp) (a b : Value) : Prop :=
  Answers op a b (.ok (.bool true))

/-- The answer of a test that is true under a condition. -/
def truth (p : Prop) [Decidable p] : Except EvalError Value :=
  .ok (.bool (decide p))

/-- The tests between two values go by one ordering: of `<`, `==` and `>` the one that it stands for is true
and the others are false, and `!=`, `<=` and `>=` are true with those that they join. -/
structure ComparesAs (a b : Value) (o : Ordering) : Prop where
  less : Answers (.order .lt) a b (truth (o = .lt))
  equal : Answers (.equality .eq) a b (truth (o = .eq))
  greater : Answers (.order .gt) a b (truth (o = .gt))
  unequal : Answers (.equality .ne) a b (truth (o = .lt ∨ o = .gt))
  atMost : Answers (.order .le) a b (truth (o = .lt ∨ o = .eq))
  atLeast : Answers (.order .ge) a b (truth (o = .gt ∨ o = .eq))

section Tests

variable {a b c : Value} {o : Ordering}

/-- Values with an order pass the tests of that order. -/
theorem comparesAs_of_order? (order : a.order? b = some o) : ComparesAs a b o := by
  have tested (op : OrderOp) {p : Prop} [Decidable p] (accepts : op.accepts o = decide p) :
      Answers (.order op) a b (truth p) := by
    have answers := answers_order op a b
    simp only [applyOrder, order, accepts] at answers
    exact answers
  have equality (op : EqualityOp) {p : Prop} [Decidable p]
      (same : applyEquality op a b = .bool (decide p)) : Answers (.equality op) a b (truth p) := by
    have answers := answers_equality op a b
    rwa [same] at answers
  have equal := Value.equal_of_order? a b order
  exact {
    less := tested .lt (by cases o <;> rfl)
    equal := equality .eq (by rw [applyEquality, equal])
    greater := tested .gt (by cases o <;> rfl)
    unequal := equality .ne (by rw [applyEquality, equal]; cases o <;> rfl)
    atMost := tested .le (by cases o <;> rfl)
    atLeast := tested .ge (by cases o <;> rfl) }

/-- One value is less than another if and only if their order says so. -/
theorem holds_less_iff : Holds (.order .lt) a b ↔ a.order? b = some .lt := by
  constructor
  · intro holds
    have answer := (answers_order .lt a b).unique holds
    rw [applyOrder] at answer
    split at answer
    next o order =>
      cases o with
      | lt => exact order
      | eq | gt => cases answer
    next => cases answer
  · intro order
    exact (comparesAs_of_order? order).less

/-- One value equals another if and only if they are found equal. -/
theorem holds_equal_iff : Holds (.equality .eq) a b ↔ a.equal b := by
  constructor
  · intro holds
    have answer := (answers_equality .eq a b).unique holds
    simpa [applyEquality] using answer
  · intro equal
    have answers := answers_equality .eq a b
    rwa [applyEquality, equal] at answers

/-- Values that are equal and have an order have that of equals. -/
theorem order?_of_holds_equal (equal : Holds (.equality .eq) a b) (ordered : (a.order? b).isSome) :
    a.order? b = some .eq := by
  obtain ⟨o, order⟩ := Option.isSome_iff_exists.1 ordered
  have same := (Value.equal_of_order? a b order).symm.trans (holds_equal_iff.1 equal)
  rw [order, of_decide_eq_true same]

end Tests

/-- Tests of order and of equality fit together. Values that have an order compare by it, and the other way
round by its reverse; and what is less than a value is less than all that this value is less than or equal to,
as long as they have an order, and so is what is equal to a value and has an order with it. -/
theorem tests_coherent (a b c : Value) :
    (∀ o, a.order? b = some o → b.order? a = some o.swap ∧ ComparesAs a b o) ∧
    (Holds (.order .lt) a b ∧ Holds (.order .lt) b c ∨
      Holds (.order .lt) a b ∧ Holds (.equality .eq) b c ∧ (b.order? c).isSome ∨
      Holds (.equality .eq) a b ∧ (a.order? b).isSome ∧ Holds (.order .lt) b c →
        a.order? c = some .lt ∧ Holds (.order .lt) a c) := by
  constructor
  · intro o order
    refine ⟨?_, comparesAs_of_order? order⟩
    rw [← Value.swap_order?, order]
    rfl
  · intro chained
    have less : a.order? c = some .lt := by
      rcases chained with ⟨hab, hbc⟩ | ⟨hab, hbc, ordered⟩ | ⟨hab, ordered, hbc⟩
      · exact Value.chain_order? a b c (holds_less_iff.1 hab) (holds_less_iff.1 hbc) (by decide)
      · exact Value.chain_order? a b c (holds_less_iff.1 hab) (order?_of_holds_equal hbc ordered) (by decide)
      · exact Value.chain_order? a b c (order?_of_holds_equal hab ordered) (holds_less_iff.1 hbc) (by decide)
    exact ⟨less, holds_less_iff.2 less⟩

/-- Lists of three kinds of numbers and of lists, the last of which has no counterpart for its last item. -/
theorem tests_coherent_of_nested :
    let a : Value := .list [.bool true, .list [.str "a"]]
    let b : Value := .list [.int 1, .list [.str "b"]]
    let c : Value := .list [.float 1.0, .list [.str "b", .nothing]]
    a.order? b = some .lt ∧ Holds (.order .lt) a b ∧ Holds (.order .lt) b c ∧
      (b.order? a = some .gt ∧ ComparesAs a b .lt) ∧ a.order? c = some .lt ∧ Holds (.order .lt) a c := by
  intro a b c
  have first : a.order? b = some .lt := by decide +kernel
  have second : b.order? c = some .lt := by decide +kernel
  exact ⟨first, holds_less_iff.2 first, holds_less_iff.2 second, (tests_coherent a b c).1 .lt first,
    (tests_coherent a b c).2 (.inl ⟨holds_less_iff.2 first, holds_less_iff.2 second⟩)⟩

end Backtest.Language
