import Mathlib

/-!
# Partial comparisons, and that of doubles

A comparison that is not defined everywhere is coherent if the other way round it is the reverse, and if two
comparisons in a row that do not oppose each other give the third, which is then defined as well. A comparison
by a rank that not everything has is coherent. Doubles compare by such a rank, which all of them have but
those that are no numbers.
-/

namespace Backtest

/-- Orderings in a row of which neither leads back: one of them is equality, or both are the same. -/
def Concordant (first second : Ordering) : Prop :=
  first = .eq ∨ second = .eq ∨ first = second

instance (first second : Ordering) : Decidable (Concordant first second) :=
  inferInstanceAs (Decidable (_ ∨ _))

/-- Of two concordant orders the second is that of both, if it is no equality. -/
theorem Concordant.then_of_ne {first second : Ordering} (concordant : Concordant first second)
    (unequal : second ≠ .eq) : first.then second = second := by
  rcases concordant with rfl | equal | rfl
  · rfl
  · exact absurd equal unequal
  · exact Ordering.then_self

/-- The first of two orders decides if it is no equality. -/
theorem then_of_ne {first : Ordering} (unequal : first ≠ .eq) (second : Ordering) :
    first.then second = first := by
  cases first with
  | eq => exact absurd rfl unequal
  | lt | gt => rfl

/-- An ordering and the reverse of another one do not oppose each other. -/
theorem concordant_swap {first second : Ordering} (direction : first ≠ .eq) (other : second ≠ first) :
    Concordant first second.swap := by
  cases first with
  | eq => exact absurd rfl direction
  | lt =>
    cases second with
    | lt => exact absurd rfl other
    | eq => exact .inr (.inl rfl)
    | gt => exact .inr (.inr rfl)
  | gt =>
    cases second with
    | lt => exact .inr (.inr rfl)
    | eq => exact .inr (.inl rfl)
    | gt => exact absurd rfl other

/-- A comparison that may be undefined is an order where it is defined. -/
structure Coherent {α : Type*} (order? : α → α → Option Ordering) : Prop where
  swap : ∀ a b, (order? a b).map Ordering.swap = order? b a
  chain : ∀ {a b c first second}, order? a b = some first → order? b c = some second →
    Concordant first second → order? a c = some (first.then second)

namespace Coherent

variable {α β : Type*}

/-- Comparison by a rank that not everything has. -/
theorem of_rank (cmp : β → β → Ordering) [Std.TransCmp cmp] (rank : α → Option β) :
    Coherent fun a b => (rank a).bind fun r => (rank b).map (cmp r) where
  swap := by
    intro a b
    cases rank a with
    | none => cases rank b <;> rfl
    | some r =>
      cases rank b with
      | none => rfl
      | some q => exact congrArg some Std.OrientedCmp.eq_swap.symm
  chain := by
    intro a b c first second hab hbc concordant
    simp only [Option.bind_eq_some_iff, Option.map_eq_some_iff] at hab hbc ⊢
    obtain ⟨r, hr, q, hq, rfl⟩ := hab
    obtain ⟨q', hq', p, hp, rfl⟩ := hbc
    obtain rfl : q = q' := Option.some_inj.1 (hq.symm.trans hq')
    refine ⟨r, hr, p, hp, ?_⟩
    rcases concordant with equal | equal | same
    · rw [equal, Std.TransCmp.congr_left equal]
      rfl
    · rw [equal, ← Std.TransCmp.congr_right equal, Ordering.then_eq]
    · rw [← same, Ordering.then_self]
      cases order : cmp r q with
      | lt => exact Std.TransCmp.lt_trans order (same ▸ order)
      | eq => exact Std.TransCmp.eq_trans order (same ▸ order)
      | gt => exact Std.TransCmp.gt_trans order (same ▸ order)

variable {order? : α → α → Option Ordering} (coherent : Coherent order?) {a b : α}

include coherent in
/-- Nothing comes before or after itself. -/
theorem eq_of_self {o : Ordering} (self : order? a a = some o) : o = .eq := by
  have swapped := coherent.swap a a
  rw [self] at swapped
  cases o with
  | eq => rfl
  | lt | gt => cases swapped

end Coherent

namespace Number

open Float.Model (UnpackedFloat)

/-- The place of a number among the doubles: its sign, then its exponent and its significand, both negated
in a negative number. Infinities are beyond all finite numbers, and both zeros have one place. -/
def rank? : UnpackedFloat → Option (Int × Int × Int)
  | .notANumber => none
  | .infinity .negative => some (-2, 0, 0)
  | .finite .negative m e _ => some (-1, -e, -m)
  | .zero _ => some (0, 0, 0)
  | .finite .positive m e _ => some (1, e, m)
  | .infinity .positive => some (2, 0, 0)

/-- Comparison of ranks from left to right. -/
def compareRank : Int × Int × Int → Int × Int × Int → Ordering :=
  compareLex (compareOn fun r => r.1) (compareLex (compareOn fun r => r.2.1) (compareOn fun r => r.2.2))

instance : Std.TransCmp compareRank :=
  inferInstanceAs (Std.TransCmp (compareLex _ _))

/-- Negation swaps the order. -/
theorem compare_neg (x y : Int) : compare (-x) (-y) = (compare x y).swap := by
  rw [← Std.OrientedOrd.eq_swap, Int.compare_eq_ite_lt, Int.compare_eq_ite_lt]
  simp only [Int.neg_lt_neg_iff]

/-- Natural numbers are ordered alike as integers. -/
theorem compare_natCast (m n : Nat) : compare (m : Int) n = compare m n := by
  rw [Int.compare_eq_ite_lt, Nat.compare_eq_ite_lt]
  simp only [Int.ofNat_lt]

/-- Ranks are compared by sign, by exponent and then by mantissa. -/
theorem compareRank_mk (s t e f m n : Int) :
    compareRank (s, e, m) (t, f, n) = (compare s t).then ((compare e f).then (compare m n)) :=
  rfl

/-- Doubles compare by their ranks. -/
theorem compare_eq_compareRank (x y : UnpackedFloat) :
    x.compare y = (rank? x).bind fun r => (rank? y).map (compareRank r) := by
  cases x with
  | notANumber => rfl
  | infinity s =>
    cases y with
    | notANumber => cases s <;> rfl
    | infinity t | zero t | finite t => cases s <;> cases t <;> rfl
  | zero s =>
    cases y with
    | notANumber => rfl
    | infinity t | zero t | finite t => cases t <;> rfl
  | finite s m e =>
    cases y with
    | notANumber => cases s <;> rfl
    | infinity t | zero t => cases s <;> cases t <;> rfl
    | finite t n f =>
      cases s with
      | positive =>
        cases t with
        | negative => rfl
        | positive =>
          simp only [rank?, Option.bind_some, Option.map_some, compareRank_mk, compare_natCast]
          rfl
      | negative =>
        cases t with
        | positive => rfl
        | negative =>
          simp only [rank?, Option.bind_some, Option.map_some, compareRank_mk, compare_neg, compare_natCast]
          exact congrArg some (Ordering.swap_then ..)

/-- The order of doubles is coherent. -/
theorem coherent_compare : Coherent UnpackedFloat.compare := by
  have ranked : UnpackedFloat.compare = fun x y => (rank? x).bind fun r => (rank? y).map (compareRank r) :=
    funext₂ compare_eq_compareRank
  rw [ranked]
  exact .of_rank compareRank rank?

/-- All numbers have a place. -/
theorem isSome_rank? {x : UnpackedFloat} (number : x.isNaN = false) : (rank? x).isSome := by
  cases x with
  | notANumber => cases number
  | infinity s | finite s => cases s <;> rfl
  | zero s => rfl

/-- Doubles that are numbers have an order. -/
theorem isSome_compare {x y : UnpackedFloat} (hx : x.isNaN = false) (hy : y.isNaN = false) :
    (x.compare y).isSome := by
  obtain ⟨r, hr⟩ := Option.isSome_iff_exists.1 (isSome_rank? hx)
  obtain ⟨q, hq⟩ := Option.isSome_iff_exists.1 (isSome_rank? hy)
  rw [compare_eq_compareRank, hr, hq]
  rfl

/-- A double is less than another if their order says so. -/
theorem lt_iff_compare (x y : Float) : x < y ↔ x.toModel.unpack.compare y.toModel.unpack = some .lt := by
  change decide (x.toModel < y.toModel) = true ↔ _
  rw [decide_eq_true_iff]
  exact beq_iff_eq

/-- A double equals another if their order says so. -/
theorem beq_iff_compare (x y : Float) : x == y ↔ x.toModel.unpack.compare y.toModel.unpack = some .eq := by
  change (x.toModel.unpack.compare y.toModel.unpack == some .eq) = true ↔ _
  exact beq_iff_eq

end Number

end Backtest
