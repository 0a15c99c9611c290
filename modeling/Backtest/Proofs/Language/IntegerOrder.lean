import Backtest.Proofs.Language.FirstExtremum
import Backtest.Proofs.Number.RoundedWholes

/-!
# Comparison of whole numbers

Whole numbers are compared as doubles like all other numbers, so they compare as what they are rounded to. Up to
`2 ^ 53` this is the comparison of the numbers themselves. Beyond, numbers that differ can compare as equal, and
then `min` and `max` of a list return the first of the numbers that compare as equal to its extremum.
-/

namespace Backtest.Language

open Number (roundedWhole)

variable {a b m : Int64} {o p : Ordering} {v w : Value}

/-- Integers are ordered as the doubles nearest to them are. -/
theorem order?_int (a b : Int64) :
    (Value.int a).order? (.int b) = some (compare (roundedWhole a.toInt) (roundedWhole b.toInt)) := by
  change floatOrder? (Number.ofInt64 a) (Number.ofInt64 b) = _
  rw [floatOrder?_eq_compare, Number.compare_ofInt64]

/-- The tests between two values go by one ordering only. -/
theorem ComparesAs.unique (first : ComparesAs v w o) (second : ComparesAs v w p) : o = p := by
  have less := first.less.unique second.less
  have equal := first.equal.unique second.equal
  cases o <;> cases p <;> simp_all [truth]

/-- Tests between whole numbers are those of the numbers if and only if rounding does not make different
numbers equal. -/
theorem comparesAs_int_iff : ComparesAs (.int a) (.int b) (compare a.toInt b.toInt) ↔
    (roundedWhole a.toInt = roundedWhole b.toInt → a = b) := by
  have rounded := comparesAs_of_order? (order?_int a b)
  rw [← Int64.toInt_inj, ← Number.compare_roundedWhole_eq_iff]
  constructor
  · intro exact'
    exact rounded.unique exact'
  · intro same
    rwa [same] at rounded

/-- Whether a number is rounded to the same double as another. -/
def roundsLike (m n : Int64) : Bool :=
  decide (roundedWhole n.toInt = roundedWhole m.toInt)

/-- A number that does not precede another one does not do so when both are rounded. -/
theorem compare_roundedWhole_ne {x y : Int} {wanted : Ordering} (direction : wanted ≠ .eq)
    (behind : compare x y ≠ wanted) : compare (roundedWhole x) (roundedWhole y) ≠ wanted := by
  intro precedes
  have differ : roundedWhole x ≠ roundedWhole y := by
    intro same
    rw [Int.compare_eq_eq.2 same] at precedes
    exact direction precedes.symm
  exact behind ((Number.compare_roundedWhole_eq_iff.2 fun same => absurd same differ).symm.trans precedes)

/-- The first extremum of whole numbers is the first that is rounded like the extremum of the numbers. -/
theorem firstExtremum?_ints {wanted : Ordering} (direction : wanted ≠ .eq) {ns : List Int64} (member : m ∈ ns)
    (best : ∀ n ∈ ns, compare n.toInt m.toInt ≠ wanted) :
    firstExtremum? wanted (ns.map .int) = (ns.find? (roundsLike m)).map .int := by
  rw [firstExtremum?, List.find?_map]
  refine congrArg (Option.map _) (List.find?_congr fun k here => ?_)
  rw [Function.comp_apply, List.all_map, roundsLike, Bool.eq_iff_iff, List.all_eq_true, decide_eq_true_iff]
  simp only [Function.comp_apply, order?_int, decide_eq_true_eq, ne_eq, Option.some_inj]
  constructor
  · intro unbeaten
    have first := unbeaten m member
    have second := compare_roundedWhole_ne direction (best k here)
    rw [Std.OrientedOrd.eq_swap] at first
    rw [← Int.compare_eq_eq]
    generalize compare (roundedWhole k.toInt) (roundedWhole m.toInt) = o at first second ⊢
    cases wanted <;> cases o <;> simp_all
  · intro same n there
    rw [same]
    exact compare_roundedWhole_ne direction (best n there)

/-- A call of `min` or `max` on whole numbers returns the first that is rounded like the extremum. -/
theorem callAnswers_int {function : String} {wanted : Ordering} (direction : wanted ≠ .eq)
    (found : builtin? function = some (extremum function wanted)) {ns : List Int64} {args : List Value}
    (sequence : sequenceOf args = ns.map .int) (member : m ∈ ns)
    (best : ∀ n ∈ ns, compare n.toInt m.toInt ≠ wanted) :
    ∃ k, ns.find? (roundsLike m) = some k ∧ CallAnswers function args (.ok (.int k)) := by
  obtain ⟨first, rest, rfl⟩ := List.exists_cons_of_ne_nil (List.ne_nil_of_mem member)
  have comparable : ((first :: rest).map Value.int).Pairwise fun v w => (v.order? w).isSome := by
    refine List.pairwise_map.2 (List.pairwise_of_forall fun x y => ?_)
    rw [order?_int]
    rfl
  obtain ⟨v, extremum, ended⟩ := extremumFrom_of_pairwise direction comparable
  have answers := callAnswers_builtin found args
  rw [extremum_of_sequence sequence, ended] at answers
  change firstExtremum? wanted ((first :: rest).map .int) = some v at extremum
  rw [firstExtremum?_ints direction member best] at extremum
  obtain ⟨k, here, rfl⟩ := Option.map_eq_some_iff.1 extremum
  exact ⟨k, here, answers⟩

/-- A call has one answer. -/
theorem CallAnswers.int_iff {function : String} {args : List Value} {k : Int64}
    (answers : CallAnswers function args (.ok (.int k))) :
    CallAnswers function args (.ok (.int m)) ↔ k = m := by
  constructor
  · intro other
    exact Value.int.inj (Except.ok.inj (answers.unique other))
  · rintro rfl
    exact answers

/-- The second of two numbers that are rounded to the same is not the extremum of both, even if it is beyond
the first. -/
theorem not_callAnswers_second {function : String} {wanted : Ordering} (direction : wanted ≠ .eq)
    (found : builtin? function = some (extremum function wanted))
    (same : roundedWhole a.toInt = roundedWhole b.toInt) (beyond : compare b.toInt a.toInt = wanted) :
    ¬CallAnswers function [.list ([a, b].map .int)] (.ok (.int b)) := by
  have best : ∀ n ∈ [a, b], compare n.toInt b.toInt ≠ wanted := by
    intro n here
    rcases List.mem_pair.1 here with rfl | rfl
    · rw [Std.OrientedOrd.eq_swap, beyond]
      cases wanted <;> simp_all
    · rw [Int.compare_eq_eq.2 rfl]
      exact direction.symm
  have sequence : sequenceOf [.list ([a, b].map .int)] = [a, b].map .int := rfl
  obtain ⟨k, here, answers⟩ := callAnswers_int direction found sequence (by simp) best
  rw [List.find?_cons_of_pos (by simpa [roundsLike] using same)] at here
  obtain rfl := Option.some_inj.1 here
  intro second
  obtain rfl := answers.int_iff.1 second
  exact direction (beyond.symm.trans (Int.compare_eq_eq.2 rfl))

/-- What becomes of a comparison of whole numbers. It is that of the numbers to which they are rounded, which
are the numbers themselves up to `2 ^ 53`, so it is exact if and only if numbers that differ are not rounded to
the same; and the extremum of a list is the first number that is rounded like its extremum. -/
theorem integers_compare_rounded (a b : Int64) {ns : List Int64} {args : List Value}
    (sequence : sequenceOf args = ns.map .int) :
    ComparesAs (.int a) (.int b) (compare (roundedWhole a.toInt) (roundedWhole b.toInt)) ∧
    (ComparesAs (.int a) (.int b) (compare a.toInt b.toInt) ↔
      (roundedWhole a.toInt = roundedWhole b.toInt → a = b)) ∧
    (|a.toInt| ≤ 2 ^ 53 → roundedWhole a.toInt = a.toInt) ∧
    ∀ m ∈ ns,
      ((∀ n ∈ ns, m.toInt ≤ n.toInt) → ∃ k, ns.find? (roundsLike m) = some k ∧
        CallAnswers "min" args (.ok (.int k)) ∧ (CallAnswers "min" args (.ok (.int m)) ↔ k = m)) ∧
      ((∀ n ∈ ns, n.toInt ≤ m.toInt) → ∃ k, ns.find? (roundsLike m) = some k ∧
        CallAnswers "max" args (.ok (.int k)) ∧ (CallAnswers "max" args (.ok (.int m)) ↔ k = m)) := by
  refine ⟨comparesAs_of_order? (order?_int a b), comparesAs_int_iff, Number.roundedWhole_of_le,
    fun m member => ⟨?_, ?_⟩⟩
  · intro least
    have found : builtin? "min" = some (extremum "min" .lt) := rfl
    obtain ⟨k, here, answers⟩ := callAnswers_int (by decide) found sequence member fun n there =>
      mt Int.compare_eq_lt.1 (Int.not_lt.2 (least n there))
    exact ⟨k, here, answers, answers.int_iff⟩
  · intro greatest
    have found : builtin? "max" = some (extremum "max" .gt) := rfl
    obtain ⟨k, here, answers⟩ := callAnswers_int (by decide) found sequence member fun n there =>
      mt Int.compare_eq_gt.1 (Int.not_lt.2 (greatest n there))
    exact ⟨k, here, answers, answers.int_iff⟩

/-- Two numbers that are rounded to `2 ^ 53`, the second of which is less: tests take them for equal, and the
first is returned as the least. -/
theorem integers_compare_rounded_of_neighbours :
    let args : List Value := [.int 9007199254740993, .int 9007199254740992]
    ComparesAs (.int 9007199254740993) (.int 9007199254740992) .eq ∧
      roundedWhole (9007199254740992 : Int64).toInt = (9007199254740992 : Int64).toInt ∧
      CallAnswers "min" args (.ok (.int 9007199254740993)) ∧
      CallAnswers "max" args (.ok (.int 9007199254740993)) := by
  intro args
  have sequence : sequenceOf args = [9007199254740993, 9007199254740992].map .int := rfl
  obtain ⟨tests, -, -, calls⟩ := integers_compare_rounded 9007199254740993 9007199254740992 sequence
  obtain ⟨-, -, small, -⟩ := integers_compare_rounded 9007199254740992 0 sequence
  have first : [9007199254740993, 9007199254740992].find? (roundsLike 9007199254740992) =
      some 9007199254740993 := by decide +kernel
  have first' : [9007199254740993, 9007199254740992].find? (roundsLike 9007199254740993) =
      some 9007199254740993 := by decide +kernel
  obtain ⟨k, here, least, -⟩ := (calls 9007199254740992 (by decide)).1
    (List.forall_mem_cons.2 ⟨by decide, List.forall_mem_singleton.2 le_rfl⟩)
  obtain ⟨l, there, greatest, -⟩ := (calls 9007199254740993 (by decide)).2
    (List.forall_mem_cons.2 ⟨le_rfl, List.forall_mem_singleton.2 (by decide)⟩)
  obtain rfl : 9007199254740993 = k := Option.some_inj.1 (first.symm.trans here)
  obtain rfl : 9007199254740993 = l := Option.some_inj.1 (first'.symm.trans there)
  have compared : compare (roundedWhole (9007199254740993 : Int64).toInt)
      (roundedWhole (9007199254740992 : Int64).toInt) = .eq := by decide +kernel
  rw [compared] at tests
  exact ⟨tests, small (by decide), least, greatest⟩

/-- Beyond `2 ^ 53` tests take different numbers for equal, and `min` and `max` return others than the least and
the greatest. -/
theorem not_all_integers_compared :
    (¬∀ a b : Int64, ComparesAs (.int a) (.int b) (compare a.toInt b.toInt)) ∧
    (¬∀ (ns : List Int64), ∀ m ∈ ns, (∀ n ∈ ns, m.toInt ≤ n.toInt) →
      CallAnswers "min" [.list (ns.map .int)] (.ok (.int m))) ∧
    (¬∀ (ns : List Int64), ∀ m ∈ ns, (∀ n ∈ ns, n.toInt ≤ m.toInt) →
      CallAnswers "max" [.list (ns.map .int)] (.ok (.int m))) := by
  have same : roundedWhole (9007199254740993 : Int64).toInt = roundedWhole (9007199254740992 : Int64).toInt := by
    decide +kernel
  have less : (9007199254740992 : Int64).toInt < (9007199254740993 : Int64).toInt := by decide
  have minimum : builtin? "min" = some (extremum "min" .lt) := rfl
  have maximum : builtin? "max" = some (extremum "max" .gt) := rfl
  refine ⟨fun compared => ?_, fun least => ?_, fun greatest => ?_⟩
  · exact absurd (comparesAs_int_iff.1 (compared _ _) same) (by decide)
  · have failed := not_callAnswers_second (by decide) minimum same (Int.compare_eq_lt.2 less)
    exact failed (least _ _ (by decide) (List.forall_mem_cons.2 ⟨less.le, List.forall_mem_singleton.2 le_rfl⟩))
  · have failed := not_callAnswers_second (by decide) maximum same.symm (Int.compare_eq_gt.2 less)
    exact failed (greatest _ _ (by decide) (List.forall_mem_cons.2 ⟨less.le, List.forall_mem_singleton.2 le_rfl⟩))

end Backtest.Language
