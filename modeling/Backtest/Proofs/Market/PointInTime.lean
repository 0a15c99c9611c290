import Backtest.Proofs.Calendar.Sessions
import Backtest.Proofs.Simulation.PriceAccess

/-!
# Values seen from one day after another

Seen from a later day, a value is adjusted by all that has taken effect since its own day. If the
adjustments stand in the order in which they take effect, those up to the later day are those up to any
day in between and then those after it (`filter_between_append`): none is left out, and none comes twice.
The value that is seen from the later day is therefore the one seen from the day in between, adjusted
further. No law of arithmetic enters, as the same operations are done in the same order.
-/

namespace Backtest.Market

open Backtest.Calendar (Date)

namespace Adjustment

variable {s t u : Date}

/-- What takes effect in a span of days does so up to a day in it or after that day. -/
theorem between_split (a : Adjustment) (st : s ≤ t) (tu : t ≤ u) :
    a.between s u = (a.between s t || a.between t u) := by
  rw [Bool.eq_iff_iff]
  simp only [between, Bool.or_eq_true, Bool.and_eq_true, decide_eq_true_eq, Date.lt_iff, Date.le_iff] at *
  grind

/-- What takes effect after a day stands behind what takes effect up to it. -/
theorem between_exclusive {a b : Adjustment} (later : a.between t u) (order : a.effective ≤ b.effective) :
    b.between s t = false := by
  rw [← Bool.not_eq_true]
  intro earlier
  simp only [between, Bool.and_eq_true, decide_eq_true_eq, Date.lt_iff, Date.le_iff] at *
  omega

/-- The adjustments of a span of days are those up to a day in it and then those after that day: what follows the
first that takes effect after the day does so as well. -/
theorem filter_between_append {adjustments : List Adjustment}
    (ordered : adjustments.Pairwise fun a b => a.effective ≤ b.effective) (st : s ≤ t) (tu : t ≤ u) :
    adjustments.filter (·.between s u) =
      adjustments.filter (·.between s t) ++ adjustments.filter (·.between t u) := by
  induction adjustments with
  | nil => rfl
  | cons a rest ih =>
    obtain ⟨first, ordered⟩ := List.pairwise_cons.1 ordered
    specialize ih ordered
    cases later : a.between t u with
    | false =>
      have same : a.between s u = a.between s t := by rw [a.between_split st tu, later, Bool.or_false]
      rw [List.filter_cons, List.filter_cons, List.filter_cons_of_neg (by simp [later]), same, ih]
      split <;> rfl
    | true =>
      have here : a.between s u = true := by rw [a.between_split st tu, later, Bool.or_true]
      have self : a.between s t = false := between_exclusive later (Int.le_refl _)
      have none : rest.filter (·.between s t) = [] :=
        List.filter_eq_nil_iff.2 fun b hb => by simp [between_exclusive later (first b hb)]
      rw [none, List.nil_append] at ih
      simp only [List.filter_cons, here, self, later, if_true, Bool.false_eq_true, if_false, none, ih,
        List.nil_append]

end Adjustment

section Stages

variable {s t u : Date} {adjustments : List Adjustment}

/-- Adjusting to a day and on to a later one is adjusting to the later one. -/
theorem adjust_adjust (raw : Float) (field : PriceField)
    (ordered : adjustments.Pairwise fun a b => a.effective ≤ b.effective) (st : s ≤ t) (tu : t ≤ u) :
    adjust (adjust raw field s t adjustments) field t u adjustments = adjust raw field s u adjustments := by
  rw [adjust, adjust, adjust, Adjustment.filter_between_append ordered st tu, List.foldl_append]

variable (b : Bundle) (symbol : String) (field : PriceField)

/-- What is seen from a later day is what is seen from an earlier one, adjusted by what takes effect in
between. -/
theorem Bundle.seenFrom_later (ordered : (b.adjustments symbol).Pairwise fun a b => a.effective ≤ b.effective)
    (st : s ≤ t) (tu : t ≤ u) :
    b.seenFrom symbol field u s =
      (b.seenFrom symbol field t s).map fun seen => adjust seen field t u (b.adjustments symbol) := by
  rw [seenFrom, seenFrom, Option.map_map]
  congr 1
  funext raw
  exact (adjust_adjust raw field ordered st tu).symm

/-- Every entry of a history is the value of its session as seen from the last one. -/
theorem Bundle.getElem?_history {sessions : List Date} {i : Nat} (here : sessions[i]? = some s)
    (last : sessions.getLast? = some t) :
    (b.history symbol field sessions)[i]? = some (b.seenFrom symbol field t s) := by
  rw [b.history_eq_seenFrom symbol field last, List.getElem?_map, here, Option.map_some]

end Stages

/-- Adjusting goes by stages. For adjustments in the order in which they take effect, a value that is
adjusted from its day to a day in between, and from there to a later day, has every bit of the value that is
adjusted at once, and a value on its own day is raw. The adjustments that are applied are the same ones in
the same order. So where two histories end on different days, what the later one shows of a session is what
the earlier one shows, adjusted only by what takes effect after the end of the earlier and up to the end of
the later. -/
theorem adjust_in_stages {adjustments : List Adjustment}
    (ordered : adjustments.Pairwise fun a b => a.effective ≤ b.effective) {s t u : Date} (st : s ≤ t)
    (tu : t ≤ u) (raw : Float) (field : PriceField) :
    adjust raw field s u adjustments = adjust (adjust raw field s t adjustments) field t u adjustments ∧
      adjust raw field s s adjustments = raw ∧
      adjustments.filter (·.between s u) =
        adjustments.filter (·.between s t) ++ adjustments.filter (·.between t u) ∧
      ∀ (b : Bundle) (symbol : String), b.adjustments symbol = adjustments →
        ∀ (earlier later : List Date), earlier.getLast? = some t → later.getLast? = some u →
          ∀ i j : Nat, earlier[i]? = some s → later[j]? = some s →
            ∃ seen : Option Float, (b.history symbol field earlier)[i]? = some seen ∧
              (b.history symbol field later)[j]? =
                some (seen.map fun value => adjust value field t u adjustments) := by
  refine ⟨(adjust_adjust raw field ordered st tu).symm, adjust_self raw field s adjustments,
    Adjustment.filter_between_append ordered st tu, ?_⟩
  rintro b symbol rfl earlier later endsAtT endsAtU i j hi hj
  refine ⟨b.seenFrom symbol field t s, b.getElem?_history symbol field hi endsAtT, ?_⟩
  rw [b.getElem?_history symbol field hj endsAtU, b.seenFrom_later symbol field ordered st tu]

/-- A split takes effect on the very day on which the first history ends, with an adjustment without a ratio
beside it, and another split a day later: the volume doubles and then goes up fourfold. -/
theorem adjust_in_stages_across_splits :
    let day (n : Nat) : Date := ⟨738004 + n⟩
    let splits : List Adjustment := [⟨"A", day 1, 0.5⟩, ⟨"A", day 1, 0.0⟩, ⟨"A", day 2, 0.25⟩]
    let b : Bundle := ⟨[], fun _ => none, ⟨fun _ _ _ => some 100.0, none⟩, none, fun _ => splits⟩
    splits.Pairwise (fun a b => a.effective ≤ b.effective) ∧ day 0 ≤ day 1 ∧ day 1 ≤ day 2 ∧
      adjust 100.0 .volume (day 0) (day 1) splits = 200.0 ∧
      adjust 100.0 .volume (day 0) (day 2) splits = 800.0 ∧
      (b.history "A" .volume [day 0, day 1])[0]? = some (some 200.0) ∧
      (b.history "A" .volume [day 0, day 1, day 2])[0]? = some (some 800.0) := by
  intro day splits b
  have ordered : splits.Pairwise fun a b => a.effective ≤ b.effective := by decide
  have first : day 0 ≤ day 1 := by decide
  have second : day 1 ≤ day 2 := by decide
  obtain ⟨stages, -, -, histories⟩ := adjust_in_stages ordered first second 100.0 .volume
  have doubled : adjust 100.0 .volume (day 0) (day 1) splits = 200.0 := by decide +kernel
  have grown : adjust 200.0 .volume (day 1) (day 2) splits = 800.0 := by decide +kernel
  obtain ⟨seen, earlier, later⟩ :=
    histories b "A" rfl [day 0, day 1] [day 0, day 1, day 2] rfl rfl 0 0 rfl rfl
  have shown : seen = some 200.0 :=
    (Option.some.inj earlier).symm.trans (congrArg some doubled)
  refine ⟨ordered, first, second, doubled, ?_, ?_, ?_⟩
  · rw [stages, doubled, grown]
  · rw [earlier, shown]
  · rw [later, shown, Option.map_some, grown]

end Backtest.Market
