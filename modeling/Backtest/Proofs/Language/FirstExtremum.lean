import Backtest.Proofs.Language.ValueOrder

/-!
# First extrema

`min` and `max` go through a sequence once and keep the best item so far. That this is the first of the items
that no other precedes rests on the order of values being one where it is defined (`coherent_order?`), and it
needs less than that all items can be compared: each only with the best of those before it. Where this fails,
the call fails.
-/

namespace Backtest.Language

/-- The first of the items that none of them precedes in the wanted direction. -/
def firstExtremum? (wanted : Ordering) (items : List Value) : Option Value :=
  items.find? fun m => items.all fun v => decide (v.order? m ≠ some wanted)

/-- The sequence that a call is about: the items of a single list, or else the arguments. -/
def sequenceOf : List Value → List Value
  | [.list items] => items
  | args => args

/-- An item that precedes all items before it and that none after it precedes, all of these having an order
with it. -/
structure Leads (wanted : Ordering) (before : List Value) (best : Value) (after : List Value) : Prop where
  earlier : ∀ v ∈ before, best.order? v = some wanted
  later : ∀ v ∈ after, ∃ o, v.order? best = some o ∧ o ≠ wanted

variable {wanted : Ordering} {before after items rest : List Value} {best item : Value}

/-- Such an item is the first extremum. -/
theorem Leads.firstExtremum?_eq (leads : Leads wanted before best after) (direction : wanted ≠ .eq) :
    firstExtremum? wanted (before ++ best :: after) = some best := by
  have reversed : wanted.swap ≠ wanted := by
    cases wanted with
    | eq => exact absurd rfl direction
    | lt | gt => decide
  rw [firstExtremum?, List.find?_eq_some_iff_append]
  refine ⟨List.all_eq_true.2 fun v here => decide_eq_true ?_, before, after, rfl, ?_⟩
  · intro precedes
    rcases List.mem_append.1 here with here | here
    · have swapped := best.swap_order? v
      rw [leads.earlier v here, precedes] at swapped
      exact reversed (Option.some_inj.1 swapped)
    · rcases List.mem_cons.1 here with rfl | here
      · exact direction (coherent_order?.eq_of_self precedes)
      · obtain ⟨o, order, other⟩ := leads.later v here
        exact other (Option.some_inj.1 (order.symm.trans precedes))
  · intro v here
    rw [Bool.not_eq_true', List.all_eq_false]
    refine ⟨best, by simp, ?_⟩
    simp [leads.earlier v here]

/-- The best of the items seen so far. -/
def Leading (wanted : Ordering) (seen : List Value) (best : Value) : Prop :=
  ∃ before after, seen = before ++ best :: after ∧ Leads wanted before best after

/-- One item leads itself. -/
theorem leading_single (wanted : Ordering) (v : Value) : Leading wanted [v] v :=
  ⟨[], [], rfl, nofun, nofun⟩

variable {seen : List Value}

/-- One more item is the best if it precedes the best so far, as what is not better than that comes after the item as
well, and else changes nothing. -/
theorem Leading.step (leading : Leading wanted seen best) (direction : wanted ≠ .eq) {o : Ordering}
    (order : item.order? best = some o) :
    Leading wanted (seen ++ [item]) (if o == wanted then item else best) := by
  obtain ⟨before, after, rfl, earlier, later⟩ := leading
  by_cases precedes : o = wanted
  · subst precedes
    rw [if_pos (beq_self_eq_true _)]
    refine ⟨before ++ best :: after, [], rfl, ?_, nofun⟩
    intro v here
    have behind {p : Ordering} (comes : best.order? v = some p) (concordant : Concordant o p) :
        item.order? v = some o := by
      rw [Value.chain_order? item best v order comes concordant, then_of_ne direction]
    rcases List.mem_append.1 here with here | here
    · exact behind (earlier v here) (.inr (.inr rfl))
    · rcases List.mem_cons.1 here with rfl | here
      · exact order
      · obtain ⟨p, comes, other⟩ := later v here
        have swapped := v.swap_order? best
        rw [comes] at swapped
        exact behind swapped.symm (concordant_swap direction other)
  · rw [if_neg (by simpa using precedes)]
    refine ⟨before, after ++ [item], by simp, earlier, ?_⟩
    intro v here
    rcases List.mem_append.1 here with here | here
    · exact later v here
    · rw [List.mem_singleton.1 here]
      exact ⟨o, order, precedes⟩

/-- A run over further items ends with the best of all, or at the first that has no order with the best of
those before it. -/
theorem extremumFrom_cases (leading : Leading wanted seen best) (direction : wanted ≠ .eq)
    (rest : List Value) :
    (∃ m, extremumFrom wanted best rest = .ok m ∧ Leading wanted (seen ++ rest) m) ∨
    ∃ before item after m e, rest = before ++ item :: after ∧ Leading wanted (seen ++ before) m ∧
      item.order? m = none ∧ extremumFrom wanted best rest = .error e := by
  induction rest generalizing seen best with
  | nil => exact .inl ⟨best, rfl, by rwa [List.append_nil]⟩
  | cons item rest ih =>
    rw [extremumFrom]
    cases order : item.order? best with
    | none => exact .inr ⟨[], item, rest, best, _, rfl, by rwa [List.append_nil], order, rfl⟩
    | some o =>
      rcases ih (leading.step direction order) with
        ⟨m, ended, leads⟩ | ⟨before, item', after, m, e, rfl, leads, incomparable, failed⟩
      · exact .inl ⟨m, ended, by simpa using leads⟩
      · exact .inr ⟨item :: before, item', after, m, e, rfl, by simpa using leads, incomparable, failed⟩

/-- The best of items in two parts is the best of the second part and that of the first. -/
theorem extremumFrom_append (wanted : Ordering) (best : Value) (xs ys : List Value) :
    extremumFrom wanted best (xs ++ ys) =
      match extremumFrom wanted best xs with
      | .ok m => extremumFrom wanted m ys
      | .error e => .error e := by
  induction xs generalizing best with
  | nil => rfl
  | cons x xs ih =>
    rw [List.cons_append, extremumFrom, extremumFrom]
    cases x.order? best with
    | none => rfl
    | some o => exact ih _

/-- What leads the items is their first extremum. -/
theorem Leading.firstExtremum?_eq (leading : Leading wanted seen best) (direction : wanted ≠ .eq) :
    firstExtremum? wanted seen = some best := by
  obtain ⟨before, after, rfl, leads⟩ := leading
  exact leads.firstExtremum?_eq direction

/-- The extremum of a sequence is looked for from its first item on. -/
theorem extremum_of_sequence {args : List Value} {first : Value} (sequence : sequenceOf args = first :: rest)
    (function : String) (wanted : Ordering) : extremum function wanted args = extremumFrom wanted first rest := by
  rcases args with _ | ⟨v, _ | ⟨w, args⟩⟩
  · cases sequence
  · cases v with
    | list items =>
      obtain rfl : items = first :: rest := sequence
      rfl
    | _ =>
      cases sequence
      rfl
  · cases v <;> cases sequence <;> rfl

/-- A call fails exactly if some item has no order with the first extremum of those before it. -/
theorem extremumFrom_fails_iff (direction : wanted ≠ .eq) {first : Value} :
    (∃ e, extremumFrom wanted first rest = .error e) ↔
      ∃ before item after m, first :: rest = before ++ item :: after ∧
        firstExtremum? wanted before = some m ∧ item.order? m = none := by
  constructor
  · rintro ⟨e, failed⟩
    rcases extremumFrom_cases (leading_single wanted first) direction rest with
      ⟨m, ended, -⟩ | ⟨before, item, after, m, -, rfl, leads, incomparable, -⟩
    · cases failed.symm.trans ended
    · exact ⟨first :: before, item, after, m, rfl, leads.firstExtremum?_eq direction, incomparable⟩
  · rintro ⟨before, item, after, m, sequence, extremum, incomparable⟩
    cases before with
    | nil => cases extremum
    | cons _ before =>
      rw [List.cons_append] at sequence
      obtain ⟨rfl, rfl⟩ := List.cons_eq_cons.1 sequence
      rw [extremumFrom_append]
      rcases extremumFrom_cases (leading_single wanted first) direction before with
        ⟨m', ended, leads⟩ | ⟨_, _, _, _, e, -, -, -, failed⟩
      · obtain rfl : m' = m := Option.some_inj.1 ((leads.firstExtremum?_eq direction).symm.trans extremum)
        rw [ended]
        simp only [extremumFrom, incomparable]
        exact ⟨_, rfl⟩
      · rw [failed]
        exact ⟨e, rfl⟩

/-- Items that have an order with each other have a first extremum, and it is found: the best of the items before is
one of them, so it has an order with the next. -/
theorem extremumFrom_of_pairwise (direction : wanted ≠ .eq) {first : Value}
    (comparable : (first :: rest).Pairwise fun v w => (v.order? w).isSome) :
    ∃ m, firstExtremum? wanted (first :: rest) = some m ∧ extremumFrom wanted first rest = .ok m := by
  rcases extremumFrom_cases (leading_single wanted first) direction rest with
    ⟨m, ended, leads⟩ | ⟨before, item, after, m, -, rfl, leads, incomparable, -⟩
  · exact ⟨m, leads.firstExtremum?_eq direction, ended⟩
  · obtain ⟨before', after', split, -⟩ := leads
    have member : m ∈ first :: before := by
      rw [← List.singleton_append, split]
      simp
    rw [← List.cons_append, List.pairwise_append] at comparable
    have order := comparable.2.2 m member item List.mem_cons_self
    rw [← item.swap_order? m, incomparable] at order
    cases order

/-- `min` and `max` return the first extremum of a sequence whose items have an order with each other. Of any
sequence they fail exactly if some item has no order with the first extremum of the items before it. -/
theorem extremum_calls {function : String} {wanted : Ordering}
    (named : (function, wanted) ∈ [("min", .lt), ("max", .gt)]) {args : List Value}
    (nonempty : sequenceOf args ≠ []) :
    ((sequenceOf args).Pairwise (fun v w => (v.order? w).isSome) →
      ∃ m, firstExtremum? wanted (sequenceOf args) = some m ∧ CallAnswers function args (.ok m)) ∧
    ((∃ e, CallAnswers function args (.error e)) ↔
      ∃ before item after m, sequenceOf args = before ++ item :: after ∧
        firstExtremum? wanted before = some m ∧ item.order? m = none) := by
  obtain ⟨direction, found⟩ : wanted ≠ .eq ∧ builtin? function = some (extremum function wanted) := by
    simp only [List.mem_cons, Prod.mk.injEq, List.not_mem_nil, or_false] at named
    rcases named with ⟨rfl, rfl⟩ | ⟨rfl, rfl⟩
    · exact ⟨by decide, rfl⟩
    · exact ⟨by decide, rfl⟩
  obtain ⟨first, rest, sequence⟩ := List.exists_cons_of_ne_nil nonempty
  have answers := callAnswers_builtin found args
  rw [extremum_of_sequence sequence] at answers
  rw [sequence]
  constructor
  · intro comparable
    obtain ⟨m, extremum, ended⟩ := extremumFrom_of_pairwise direction comparable
    exact ⟨m, extremum, ended ▸ answers⟩
  · rw [← extremumFrom_fails_iff direction]
    constructor
    · rintro ⟨e, failed⟩
      exact ⟨e, answers.unique failed⟩
    · rintro ⟨e, failed⟩
      exact ⟨e, failed ▸ answers⟩

/-- Three numbers of different kinds, two of them equal; and lists of which the last has an order with the
second only, which is the least, so that they have no greatest. -/
theorem extremum_calls_of_mixed :
    let args : List Value := [.int 2, .float 1.0, .bool true]
    let a : Value := .list [.int 2, .nothing]
    let b : Value := .list [.int 1]
    let c : Value := .list [.int 2, .str "a"]
    (("min", Ordering.lt) ∈ [("min", Ordering.lt), ("max", .gt)] ∧ sequenceOf args ≠ [] ∧
      (sequenceOf args).Pairwise (fun v w => (v.order? w).isSome) ∧
      ∃ m, firstExtremum? .lt (sequenceOf args) = some m ∧ CallAnswers "min" args (.ok m)) ∧
    ("max", Ordering.gt) ∈ [("min", Ordering.lt), ("max", .gt)] ∧ sequenceOf [.list [a, b, c]] ≠ [] ∧
      ∃ e, CallAnswers "max" [.list [a, b, c]] (.error e) := by
  intro args a b c
  have least : ("min", Ordering.lt) ∈ [("min", Ordering.lt), ("max", .gt)] := by decide
  have greatest : ("max", Ordering.gt) ∈ [("min", Ordering.lt), ("max", .gt)] := by decide
  have numbers : sequenceOf args ≠ [] := List.cons_ne_nil _ _
  have lists : sequenceOf [.list [a, b, c]] ≠ [] := List.cons_ne_nil _ _
  have comparable : (sequenceOf args).Pairwise fun v w => (v.order? w).isSome := by decide +kernel
  have leads : Leads .gt [] a [b] := by
    refine ⟨nofun, List.forall_mem_singleton.2 ⟨.lt, ?_, by decide⟩⟩
    decide +kernel
  have incomparable : c.order? a = none := by decide +kernel
  exact ⟨⟨least, numbers, comparable, (extremum_calls least numbers).1 comparable⟩, greatest, lists,
    (extremum_calls greatest lists).2.2
      ⟨[a, b], c, [], a, rfl, leads.firstExtremum?_eq (by decide), incomparable⟩⟩

end Backtest.Language
