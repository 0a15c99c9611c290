import Backtest.Proofs.Number.Order
import Backtest.Proofs.Number.Wholes

/-!
# Whole numbers in the order of doubles

A whole number of 64 bits becomes the double nearest to it, which is a whole number as well. The doubles of two
such numbers compare as these roundings do, and rounding keeps the order of numbers: it can make two of them
equal, but it changes places with none.
-/

namespace Backtest.Number

open Float.Model (UnpackedFloat)

/-! ### Natural numbers -/

/-- The natural number of fifty-three leading bits nearest to a natural number, a tie going to the one whose
last such bit is zero. A number of no more bits is itself. -/
def nearestWhole (c : Nat) : Nat :=
  let unit := 2 ^ (c.log2 - 52)
  roundQuotient c unit * unit

/-- The significand at its exponent is the nearest whole number. -/
theorem roundedSignificand_mul {c : Nat} :
    roundedSignificand c * 2 ^ c.log2 = nearestWhole c * 2 ^ 52 := by
  unfold roundedSignificand nearestWhole scaleQuotient
  simp only [Nat.pow_eq]
  by_cases long : (52 : Int) - c.log2 < 0
  · have shift : (-((52 : Int) - c.log2)).toNat = c.log2 - 52 := by omega
    have length : c.log2 - 52 + 52 = c.log2 := by omega
    rw [if_pos long, shift, Nat.one_mul, Nat.mul_assoc, ← Nat.pow_add, length]
  · have shift : ((52 : Int) - c.log2).toNat = 52 - c.log2 := by omega
    have short : c.log2 - 52 = 0 := by omega
    have length : 52 - c.log2 + c.log2 = 52 := by omega
    rw [if_neg long, shift, short, pow_zero, roundQuotient_one, roundQuotient_one, Nat.mul_one, Nat.mul_assoc,
      ← Nat.pow_add, length]

/-- The first number that is rounded is `2 ^ 53 + 1`. -/
theorem nearestWhole_of_le {c : Nat} (small : c ≤ 2 ^ 53) : nearestWhole c = c := by
  by_cases last : c = 2 ^ 53
  · subst last
    decide
  · have length : c.log2 - 52 = 0 := by
      have := log2_lt_of_lt (k := 53) (by decide) (lt_of_le_of_ne small last)
      omega
    rw [nearestWhole]
    simp only [length, pow_zero, roundQuotient_one, Nat.mul_one]

/-- Rounded quotients grow with the number: of two numbers with the same quotient the larger one leaves the larger
remainder. -/
theorem roundQuotient_mono {c d : Nat} (le : c ≤ d) (unit : Nat) :
    roundQuotient c unit ≤ roundQuotient d unit := by
  rcases (Nat.div_le_div_right le : c / unit ≤ d / unit).lt_or_eq with less | equal
  · calc roundQuotient c unit ≤ c / unit + 1 := roundQuotient_le c unit
      _ ≤ d / unit := less
      _ ≤ roundQuotient d unit := le_roundQuotient d unit
  · have rest : c % unit ≤ d % unit := by
      have hc := Nat.div_add_mod c unit
      have hd := Nat.div_add_mod d unit
      rw [equal] at hc
      omega
    unfold roundQuotient
    simp only [equal]
    split_ifs <;> omega

/-- The nearest whole number lies between the same powers of two. -/
theorem nearestWhole_bounds {c : Nat} (pos : 0 < c) :
    2 ^ c.log2 ≤ nearestWhole c ∧ nearestWhole c ≤ 2 ^ (c.log2 + 1) := by
  obtain ⟨least, most⟩ := roundedSignificand_bounds pos
  have value := roundedSignificand_mul (c := c)
  constructor
  · refine Nat.le_of_mul_le_mul_right (?_ : _ * 2 ^ 52 ≤ _ * 2 ^ 52) (by decide)
    rw [← value, Nat.mul_comm]
    exact Nat.mul_le_mul_right _ least
  · refine Nat.le_of_mul_le_mul_right (?_ : _ * 2 ^ 52 ≤ _ * 2 ^ 52) (by decide)
    rw [← value, Nat.pow_succ, Nat.mul_assoc, Nat.mul_comm (2 ^ c.log2)]
    exact Nat.mul_le_mul_right _ most

/-- Rounding keeps the order. -/
theorem nearestWhole_mono {c d : Nat} (le : c ≤ d) : nearestWhole c ≤ nearestWhole d := by
  rcases Nat.eq_zero_or_pos c with rfl | pos
  · exact Nat.zero_le _
  have pos' : 0 < d := pos.trans_le le
  have lengths : c.log2 ≤ d.log2 :=
    (Nat.le_log2 pos'.ne').2 ((Nat.log2_self_le pos.ne').trans le)
  rcases lengths.lt_or_eq with shorter | same
  · calc nearestWhole c ≤ 2 ^ (c.log2 + 1) := (nearestWhole_bounds pos).2
      _ ≤ 2 ^ d.log2 := Nat.pow_le_pow_right (by decide) shorter
      _ ≤ nearestWhole d := (nearestWhole_bounds pos').1
  · unfold nearestWhole
    rw [same]
    exact Nat.mul_le_mul_right _ (roundQuotient_mono le _)

/-! ### Integers -/

/-- The whole number that the double of a whole number stands for. -/
def roundedWhole (n : Int) : Int :=
  n.sign * nearestWhole n.natAbs

/-- A natural number is rounded to the nearest. -/
theorem roundedWhole_natCast (n : Nat) : roundedWhole n = nearestWhole n := by
  rcases Nat.eq_zero_or_pos n with rfl | pos
  · rfl
  · rw [roundedWhole, Int.sign_eq_one_of_pos (by omega), Int.one_mul, Int.natAbs_natCast]

/-- Rounding treats both signs alike. -/
theorem roundedWhole_neg (n : Int) : roundedWhole (-n) = -roundedWhole n := by
  rw [roundedWhole, roundedWhole, Int.sign_neg, Int.natAbs_neg, Int.neg_mul]

/-- Rounding keeps the order of numbers. -/
theorem roundedWhole_mono {a b : Int} (le : a ≤ b) : roundedWhole a ≤ roundedWhole b := by
  obtain ⟨m, rfl | rfl⟩ := a.eq_nat_or_neg
  · obtain ⟨n, rfl⟩ := Int.eq_ofNat_of_zero_le ((Int.natCast_nonneg m).trans le)
    rw [roundedWhole_natCast, roundedWhole_natCast]
    exact_mod_cast nearestWhole_mono (by exact_mod_cast le)
  · obtain ⟨n, rfl | rfl⟩ := b.eq_nat_or_neg
    · rw [roundedWhole_neg, roundedWhole_natCast, roundedWhole_natCast]
      omega
    · rw [roundedWhole_neg, roundedWhole_neg, roundedWhole_natCast, roundedWhole_natCast, Int.neg_le_neg_iff]
      exact_mod_cast nearestWhole_mono (by omega)

/-- Numbers that are not rounded. -/
theorem roundedWhole_of_le {n : Int} (small : |n| ≤ 2 ^ 53) : roundedWhole n = n := by
  rw [Int.abs_eq_natAbs] at small
  rw [roundedWhole, nearestWhole_of_le (by omega), Int.sign_mul_natAbs]

/-- Rounding can hide how two numbers compare only by making them equal. -/
theorem compare_roundedWhole_eq_iff {a b : Int} :
    compare (roundedWhole a) (roundedWhole b) = compare a b ↔ (roundedWhole a = roundedWhole b → a = b) := by
  rcases lt_trichotomy a b with less | rfl | greater
  · have le := roundedWhole_mono less.le
    rw [Int.compare_eq_lt.2 less, Int.compare_eq_lt]
    omega
  · simp
  · have le := roundedWhole_mono greater.le
    rw [Int.compare_eq_gt.2 greater, Int.compare_eq_gt]
    omega

/-! ### Doubles -/

/-- A significand of fifty-three bits and an exponent that stand for a whole number. -/
structure Normal (m : Nat) (e w : Int) : Prop where
  least : 2 ^ 52 ≤ m
  most : m < 2 ^ 53
  low : -52 ≤ e
  value : ((m * 2 ^ (e + 52).toNat : Nat) : Int) = w * 2 ^ 52

namespace Normal

variable {m n : Nat} {e f v w : Int}

/-- A normal number is positive. -/
theorem pos (normal : Normal m e w) : 0 < w := by
  have significand : 0 < m := lt_of_lt_of_le (by decide) normal.least
  have product : 0 < m * 2 ^ (e + 52).toNat := Nat.mul_pos significand (Nat.pow_pos (by decide))
  have value := normal.value
  omega

/-- Of two normal numbers the one with the smaller exponent is less. -/
theorem lt_of_exponent_lt (first : Normal m e v) (second : Normal n f w) (less : e < f) : v < w := by
  have exponents : (e + 52).toNat + 1 ≤ (f + 52).toNat := by
    have := first.low
    omega
  have products : m * 2 ^ (e + 52).toNat < n * 2 ^ (f + 52).toNat :=
    calc m * 2 ^ (e + 52).toNat < 2 ^ 53 * 2 ^ (e + 52).toNat :=
          Nat.mul_lt_mul_of_pos_right first.most (Nat.pow_pos (by decide))
      _ = 2 ^ 52 * 2 ^ ((e + 52).toNat + 1) := by rw [Nat.pow_succ]; omega
      _ ≤ n * 2 ^ (f + 52).toNat :=
          Nat.mul_le_mul second.least (Nat.pow_le_pow_right (by decide) exponents)
  have hv := first.value
  have hw := second.value
  omega

/-- Exponents are compared first and significands then, and so are the numbers. -/
theorem compare_eq (first : Normal m e v) (second : Normal n f w) :
    (compare e f).then (compare m n) = compare v w := by
  rcases lt_trichotomy e f with less | rfl | greater
  · rw [Int.compare_eq_lt.2 less, Int.compare_eq_lt.2 (first.lt_of_exponent_lt second less)]
    rfl
  · have unit_pos : 0 < 2 ^ (e + 52).toNat := Nat.pow_pos (by decide)
    have same : m < n ↔ v < w := by
      rw [← Nat.mul_lt_mul_right unit_pos]
      have hv := first.value
      have hw := second.value
      omega
    have same' : n < m ↔ w < v := by
      rw [← Nat.mul_lt_mul_right unit_pos]
      have hv := first.value
      have hw := second.value
      omega
    rw [Int.compare_eq_eq.2 rfl, Nat.compare_eq_ite_lt, Int.compare_eq_ite_lt]
    simp only [same, same']
    rfl
  · rw [Int.compare_eq_gt.2 greater, Int.compare_eq_gt.2 (second.lt_of_exponent_lt first greater)]
    rfl

end Normal

/-- The double of a whole number is a zero, or it is normal and stands for what the number is rounded to. -/
theorem unpack_ofInt64_cases (n : Int64) :
    (roundedWhole n.toInt = 0 ∧ (ofInt64 n).toModel.unpack = .zero .positive) ∨
    ∃ m e pos,
      (Normal m e (roundedWhole n.toInt) ∧ (ofInt64 n).toModel.unpack = .finite .positive m e pos) ∨
      (Normal m e (-roundedWhole n.toInt) ∧ (ofInt64 n).toModel.unpack = .finite .negative m e pos) := by
  by_cases zero : n = 0
  · subst zero
    exact .inl ⟨rfl, by rfl⟩
  · obtain ⟨m, e, pos, unpacked, least, most, low, value⟩ := unpack_ofInt64 zero
    rw [roundedSignificand_mul] at value
    refine .inr ⟨m, e, pos, ?_⟩
    by_cases negative : n.toInt < 0
    · rw [if_pos negative] at unpacked
      refine .inr ⟨⟨least, most, low, ?_⟩, unpacked⟩
      rw [value, roundedWhole, Int.sign_eq_neg_one_of_neg negative]
      push_cast
      ring
    · have positive : 0 < n.toInt := by
        have : n.toInt ≠ 0 := fun same => zero (Int64.toInt_inj.1 same)
        omega
      rw [if_neg negative] at unpacked
      refine .inl ⟨⟨least, most, low, ?_⟩, unpacked⟩
      rw [value, roundedWhole, Int.sign_eq_one_of_pos positive]
      push_cast
      ring

/-- The doubles of two numbers of 64 bits compare as what the numbers are rounded to. -/
theorem compare_ofInt64 (a b : Int64) : (ofInt64 a).toModel.unpack.compare (ofInt64 b).toModel.unpack =
    some (compare (roundedWhole a.toInt) (roundedWhole b.toInt)) := by
  have first := unpack_ofInt64_cases a
  have second := unpack_ofInt64_cases b
  generalize roundedWhole a.toInt = v at first ⊢
  generalize roundedWhole b.toInt = w at second ⊢
  have less (h : v < w) : some .lt = some (compare v w) := congrArg some (Int.compare_eq_lt.2 h).symm
  have greater (h : w < v) : some .gt = some (compare v w) := congrArg some (Int.compare_eq_gt.2 h).symm
  rcases first with ⟨rfl, first⟩ | ⟨m, e, pos, ⟨hv, first⟩ | ⟨hv, first⟩⟩ <;>
    rcases second with ⟨rfl, second⟩ | ⟨n, f, pos', ⟨hw, second⟩ | ⟨hw, second⟩⟩ <;>
    rw [first, second]
  case inl.inl => rfl
  case inl.inr.inl => exact less hw.pos
  case inl.inr.inr => exact greater (Int.neg_pos.1 hw.pos)
  case inr.inl.inl => exact greater hv.pos
  case inr.inl.inr.inl => exact congrArg some (hv.compare_eq hw)
  case inr.inl.inr.inr => exact greater ((Int.neg_pos.1 hw.pos).trans hv.pos)
  case inr.inr.inl => exact less (Int.neg_pos.1 hv.pos)
  case inr.inr.inr.inl => exact less ((Int.neg_pos.1 hv.pos).trans hw.pos)
  case inr.inr.inr.inr =>
    have reversed := congrArg Ordering.swap (hv.compare_eq hw)
    rw [compare_neg, Ordering.swap_swap] at reversed
    exact congrArg some reversed

end Backtest.Number
