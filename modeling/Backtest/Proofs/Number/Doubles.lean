import Backtest.Number.Reading
import Backtest.Proofs.Number.Shortest
import Mathlib

/-!
# Doubles as words, and their products

Which words are finite doubles, to which double a whole number of sixty-four bits is rounded, and when the
product of two doubles is no infinity. The last theorem joins these: a decimal of at most seventeen digits
that is not above the greatest double is no infinity when its coefficient and its power of ten are rounded
first and multiplied then.
-/

namespace Backtest.Number

open Float.Model (Format)
open Float.Model.UnpackedFloat

/-! ### Words -/

/-- The exponent field of a word. -/
theorem toNat_unpackExponent (w : BitVec 64) :
    (@unpackExponent Format.binary64 w).toNat = w.toNat / 2 ^ 52 % 2 ^ 11 := by
  unfold unpackExponent
  rw [BitVec.toNat_cast, BitVec.extractLsb_toNat, Nat.shiftRight_eq_div_pow]
  rfl

/-- The mantissa of a double is the remainder of its bits by that of the exponent. -/
theorem toNat_unpackMantissa (w : BitVec 64) :
    (@unpackMantissa Format.binary64 w).toNat = w.toNat % 2 ^ 52 := by
  unfold unpackMantissa
  rw [BitVec.toNat_cast, BitVec.extractLsb_toNat, Nat.shiftRight_zero]
  rfl

/-- The implicit bit counts in front of the mantissa. -/
theorem toNat_implicit (m : BitVec 52) : (1#1 ++ m).toNat = 2 ^ 52 + m.toNat := by
  rw [BitVec.toNat_append, ← Nat.shiftLeft_add_eq_or_of_lt m.isLt]
  simp [Nat.shiftLeft_eq]

/-- A word whose exponent field is neither the least nor the greatest is that of a normal double. -/
theorem unpack_eq_normal (w : BitVec 64)
    (least : (@unpackExponent Format.binary64 w).toNat ≠ 0)
    (greatest : (@unpackExponent Format.binary64 w).toNat ≠ 2047) :
    ∃ pos, unpack Format.binary64 w =
      .finite (.ofBitVec (@unpackSign Format.binary64 w))
        (2 ^ 52 + (@unpackMantissa Format.binary64 w).toNat)
        ((@unpackExponent Format.binary64 w).toNat - 1075) pos := by
  have notAll : @unpackExponent Format.binary64 w ≠ -1#_ := by
    intro all
    rw [all] at greatest
    exact greatest rfl
  have notZero : @unpackExponent Format.binary64 w ≠ 0#_ := by
    intro zero
    rw [zero] at least
    exact least rfl
  refine ⟨by omega, ?_⟩
  rw [unpack, if_neg notAll, if_neg notZero]
  congr 1
  exact toNat_implicit _

/-- The word of a normal double stands for that double. -/
theorem unpack_pack_normal {sign : Sign} {m : Nat} {e : Int} (pos : 0 < m)
    (least : 2 ^ 52 ≤ m) (most : m < 2 ^ 53) (low : -1074 ≤ e) (high : e ≤ 971) :
    unpack Format.binary64 (pack Format.binary64 (.finite sign m e pos)) = .finite sign m e pos := by
  have length : m.log2 = 52 := (Nat.log2_eq_iff (by omega)).2 ⟨least, most⟩
  have packed : pack Format.binary64 (.finite sign m e pos) =
      packComponents Format.binary64 sign (BitVec.ofNat 11 (e + 1023 + 52).toNat)
        (BitVec.ofNat 52 m) := by
    rw [pack]
    rw [if_neg (by change ¬ 2 ^ 11 ≤ (e + 1023 + 52).toNat + 1; omega)]
    rw [if_pos (by rw [length]; rfl)]
    rfl
  have field : (BitVec.ofNat 11 (e + 1023 + 52).toNat).toNat = (e + 1075).toNat := by
    rw [BitVec.toNat_ofNat]
    omega
  have fraction : 2 ^ 52 + (BitVec.ofNat 52 m).toNat = m := by
    rw [BitVec.toNat_ofNat]
    omega
  rw [packed]
  obtain ⟨_, unpacked⟩ :=
    unpack_eq_normal (packComponents Format.binary64 sign (BitVec.ofNat 11 (e + 1023 + 52).toNat)
        (BitVec.ofNat 52 m))
      (by rw [unpackExponent_packComponents, field]; omega)
      (by rw [unpackExponent_packComponents, field]; omega)
  refine unpacked.trans ?_
  congr 1
  · rw [unpackSign_packComponents, Sign.ofBitVec_toBitVec]
  · rw [unpackMantissa_packComponents, fraction]
  · rw [unpackExponent_packComponents, field]
    omega

/-- What a double is finite by: the field of its exponent. -/
theorem isFinite_iff_field (x : Float) :
    x.isFinite ↔ x.toBits.toNat / 2 ^ 52 % 2 ^ 11 ≠ 2047 := by
  have field := toNat_unpackExponent x.toBits.toBitVec
  change (unpack Format.binary64 x.toBits.toBitVec).isFinite = true ↔ _
  change _ ↔ x.toBits.toBitVec.toNat / 2 ^ 52 % 2 ^ 11 ≠ 2047
  rw [← field, unpack]
  by_cases all : @unpackExponent Format.binary64 x.toBits.toBitVec = -1#_
  · rw [if_pos all, all]
    constructor
    · split <;> (intro finite; cases finite)
    · intro other
      exact absurd rfl other
  · rw [if_neg all]
    constructor
    · intro _ same
      exact all (BitVec.eq_of_toNat_eq same)
    · intro _
      split
      · split <;> rfl
      · rfl

/-- A finite double is a product of a significand of fifty-three bits and a power of two that is not above
the greatest. -/
theorem exists_finite_of_isFinite {x : Float} (finite : x.isFinite) :
    ∃ negative s e, Binary.ofFloat x = .finite negative s e ∧ s < 2 ^ 53 ∧ e ≤ 971 := by
  have field := (isFinite_iff_field x).1 finite
  unfold Binary.ofFloat Binary.ofBits
  simp only [Nat.pow_eq, if_neg field]
  have fraction : x.toBits.toNat % 2 ^ 52 < 2 ^ 52 := Nat.mod_lt _ (by decide)
  have exponent : x.toBits.toNat / 2 ^ 52 % 2 ^ 11 < 2 ^ 11 := Nat.mod_lt _ (by decide)
  unfold leastExponent
  split
  · exact ⟨_, _, _, rfl, by omega, by omega⟩
  · exact ⟨_, _, _, rfl, by omega, by omega⟩

/-- A double with a finite value is finite. -/
theorem isFinite_of_ofFloat_eq_finite {x : Float} {negative : Bool} {s : Nat} {e : Int}
    (h : Binary.ofFloat x = .finite negative s e) : x.isFinite := by
  rw [isFinite_iff_field]
  intro field
  unfold Binary.ofFloat Binary.ofBits at h
  simp only [Nat.pow_eq, if_pos field] at h
  split at h <;> cases h

/-! ### Significand and exponent -/

/-- The significand and the exponent of a double that is neither zero nor infinite nor no number. -/
def parts? (x : Float) : Option (Nat × Int) :=
  match x.toModel.unpack with
  | .finite _ m e _ => some (m, e)
  | _ => none

/-- The parts of a double are those of its model. -/
theorem unpack_of_parts? {x : Float} {m : Nat} {e : Int} (parts : parts? x = some (m, e)) :
    ∃ sign pos, x.toModel.unpack = .finite sign m e pos := by
  unfold parts? at parts
  split at parts
  · rename_i sign m' e' pos unpacked
    cases parts
    exact ⟨sign, pos, unpacked⟩
  · cases parts

/-- The sign of a word. -/
theorem ofBitVec_unpackSign (w : BitVec 64) :
    Sign.ofBitVec (@unpackSign Format.binary64 w) = if w.toNat < 2 ^ 63 then .positive else .negative := by
  have bit : (@unpackSign Format.binary64 w).toNat = w.toNat / 2 ^ 63 % 2 := by
    unfold unpackSign
    rw [BitVec.toNat_cast, BitVec.extractLsb_toNat, Nat.shiftRight_eq_div_pow]
    rfl
  have zero : @unpackSign Format.binary64 w = 0#1 ↔ w.toNat < 2 ^ 63 := by
    rw [← BitVec.toNat_inj, bit, BitVec.toNat_ofNat]
    omega
  rw [Sign.ofBitVec, if_congr zero rfl rfl]

/-- The double of a word whose exponent field is neither the least nor the greatest. -/
theorem unpack_ofBits {word : Nat} {m : Nat} {e : Int} (low : -1074 ≤ e) (high : e ≤ 971)
    (least : 2 ^ 52 ≤ m) (most : m < 2 ^ 53) (value : word % 2 ^ 63 = (e + 1074).toNat * 2 ^ 52 + m) :
    (Float.ofBits (UInt64.ofNat word)).toModel.unpack =
      .finite (if word % 2 ^ 64 < 2 ^ 63 then .positive else .negative) m e (by omega) := by
  let w : BitVec 64 := (UInt64.ofNat word).toBitVec
  have toNat : w.toNat = word % 2 ^ 64 := rfl
  have field : (@unpackExponent Format.binary64 w).toNat = (e + 1075).toNat := by
    rw [toNat_unpackExponent, toNat]
    omega
  have fraction : 2 ^ 52 + (@unpackMantissa Format.binary64 w).toNat = m := by
    rw [toNat_unpackMantissa, toNat]
    omega
  obtain ⟨_, unpacked⟩ := unpack_eq_normal w (by omega) (by omega)
  have normal : unpack Format.binary64 w =
      .finite (if word % 2 ^ 64 < 2 ^ 63 then .positive else .negative) m e (by omega) := by
    rw [unpacked]
    congr 1
    · rw [ofBitVec_unpackSign, toNat]
    · omega
  have model : (Float.ofBits (UInt64.ofNat word)).toModel.unpack =
      unpack Format.binary64 (pack Format.binary64 (unpack Format.binary64 w)) := rfl
  rw [model, normal, unpack_pack_normal _ least most low high]

/-! ### The double nearest to a whole number -/

/-- A positive number below a power of two has a smaller logarithm. -/
theorem log2_lt_of_lt {m k : Nat} (pos : 0 < k) (below : m < 2 ^ k) : m.log2 < k := by
  by_cases zero : m = 0
  · rw [zero, Nat.log2_zero]
    exact pos
  · exact (Nat.log2_lt zero).2 below

/-- The fifty-three leading bits of a whole number that has at least so many. -/
theorem leadingBits_bounds {m : Nat} (long : 52 ≤ m.log2) :
    2 ^ 52 ≤ m / 2 ^ (m.log2 - 52) ∧ m / 2 ^ (m.log2 - 52) < 2 ^ 53 := by
  have nonzero : m ≠ 0 := by
    rintro rfl
    rw [Nat.log2_zero] at long
    omega
  constructor
  · refine (Nat.le_div_iff_mul_le (Nat.pow_pos (by decide))).2 ?_
    rw [← Nat.pow_add, show 52 + (m.log2 - 52) = m.log2 by omega]
    exact Nat.log2_self_le nonzero
  · refine Nat.div_lt_of_lt_mul ?_
    rw [← Nat.pow_add, show m.log2 - 52 + 53 = m.log2 + 1 by omega]
    exact Nat.lt_log2_self

/-- A whole number of at most fifty-three bits that is shifted to have so many. -/
theorem shifted_bounds {m : Nat} (pos : 0 < m) (short : m.log2 ≤ 52) :
    2 ^ 52 ≤ m * 2 ^ (52 - m.log2) ∧ m * 2 ^ (52 - m.log2) < 2 ^ 53 := by
  have unit_pos : 0 < 2 ^ (52 - m.log2) := Nat.pow_pos (by decide)
  constructor
  · calc 2 ^ 52 = 2 ^ m.log2 * 2 ^ (52 - m.log2) := by
          rw [← Nat.pow_add, show m.log2 + (52 - m.log2) = 52 by omega]
      _ ≤ m * 2 ^ (52 - m.log2) := Nat.mul_le_mul_right _ (Nat.log2_self_le (by omega))
  · calc m * 2 ^ (52 - m.log2) < 2 ^ (m.log2 + 1) * 2 ^ (52 - m.log2) :=
          Nat.mul_lt_mul_of_pos_right Nat.lt_log2_self unit_pos
      _ = 2 ^ 53 := by
        rw [← Nat.pow_add, show m.log2 + 1 + (52 - m.log2) = 53 by omega]

/-- A rounded quotient is above the truncated one by one at most. -/
theorem roundQuotient_le (num den : Nat) : roundQuotient num den ≤ num / den + 1 := by
  unfold roundQuotient
  simp only
  split <;> omega

/-- It is not below that. -/
theorem le_roundQuotient (num den : Nat) : num / den ≤ roundQuotient num den := by
  unfold roundQuotient
  simp only
  split <;> omega

/-- A quotient by one is exact. -/
theorem roundQuotient_one (n : Nat) : roundQuotient n 1 = n := by
  simp [roundQuotient, Nat.mod_one]

/-- The binary exponent of a whole number is its logarithm. -/
theorem binaryExponent_whole {c : Nat} (pos : 0 < c) : binaryExponent c 1 = c.log2 := by
  have least : 2 ^ c.log2 ≤ c := Nat.log2_self_le (by omega)
  have one : (1 : Nat).log2 = 0 := by decide
  unfold binaryExponent scaleQuotient
  rw [one]
  by_cases zero : c.log2 = 0
  · simp [zero]
    omega
  · have : 0 < c.log2 := by omega
    simp [this]
    omega

/-- The significand of fifty-three bits to which a whole number is rounded, or the next power of two. -/
def roundedSignificand (c : Nat) : Nat :=
  let scaled := scaleQuotient 2 (52 - c.log2) c 1
  roundQuotient scaled.1 scaled.2

/-- A significand has fifty-three bits, or is the next power of two. -/
theorem roundedSignificand_bounds {c : Nat} (pos : 0 < c) :
    2 ^ 52 ≤ roundedSignificand c ∧ roundedSignificand c ≤ 2 ^ 53 := by
  let scaled := scaleQuotient 2 (52 - c.log2) c 1
  have quotient : 2 ^ 52 ≤ scaled.1 / scaled.2 ∧ scaled.1 / scaled.2 < 2 ^ 53 := by
    simp only [scaled, scaleQuotient, Nat.pow_eq]
    by_cases long : (52 : Int) - c.log2 < 0
    · rw [if_pos long, show (-((52 : Int) - c.log2)).toNat = c.log2 - 52 by omega, Nat.one_mul]
      have bits : 52 ≤ c.log2 := by omega
      exact leadingBits_bounds bits
    · rw [if_neg long, show ((52 : Int) - c.log2).toNat = 52 - c.log2 by omega, Nat.div_one]
      exact shifted_bounds pos (by omega)
  have := roundQuotient_le scaled.1 scaled.2
  have := le_roundQuotient scaled.1 scaled.2
  change 2 ^ 52 ≤ roundQuotient scaled.1 scaled.2 ∧ roundQuotient scaled.1 scaled.2 ≤ 2 ^ 53
  omega

/-- The bits of a whole number are those of its exponent and its significand. -/
theorem nearestBits_whole {c : Nat} (pos : 0 < c) (small : c < 2 ^ 64) :
    nearestBits c 1 = UInt64.ofNat ((c.log2 + 1022) * 2 ^ 52 + roundedSignificand c) := by
  have length : c.log2 < 64 := log2_lt_of_lt (by decide) small
  have most := (roundedSignificand_bounds pos).2
  have exponent : max ((c.log2 : Int) - 52) leastExponent = c.log2 - 52 := by
    unfold leastExponent
    omega
  have power : (c.log2 - 52 - leastExponent).toNat = c.log2 + 1022 := by
    unfold leastExponent
    omega
  rw [nearestBits, if_neg (by omega), binaryExponent_whole pos]
  simp only [exponent, power, Int.neg_sub, Nat.pow_eq]
  change UInt64.ofNat (min ((c.log2 + 1022) * 2 ^ 52 + roundedSignificand c) _) = _
  rw [Nat.min_eq_left (by omega)]

/-- A whole number of sixty-four bits and a sign are rounded to a normal double. -/
theorem unpack_nearestFloat (negative : Bool) {c : Nat} (pos : 0 < c) (small : c < 2 ^ 64) :
    ∃ m e pos, (nearestFloat negative c 1).toModel.unpack =
        .finite (if negative then .negative else .positive) m e pos ∧
      2 ^ 52 ≤ m ∧ m < 2 ^ 53 ∧ -52 ≤ e ∧
      m * 2 ^ (e + 52).toNat = roundedSignificand c * 2 ^ c.log2 := by
  have length : c.log2 < 64 := log2_lt_of_lt (by decide) small
  obtain ⟨least, most⟩ := roundedSignificand_bounds pos
  obtain ⟨word, float, value, sign⟩ : ∃ word, nearestFloat negative c 1 = .ofBits (.ofNat word) ∧
      word % 2 ^ 63 = (c.log2 + 1022) * 2 ^ 52 + roundedSignificand c ∧
      (word % 2 ^ 64 < 2 ^ 63 ↔ negative = false) := by
    rw [nearestFloat, nearestBits_whole pos small]
    cases negative with
    | false => exact ⟨_, rfl, by omega, by simp; omega⟩
    | true =>
      exact ⟨(c.log2 + 1022) * 2 ^ 52 + roundedSignificand c + 2 ^ 63, by simp, by omega, by simp; omega⟩
  have signs : (if word % 2 ^ 64 < 2 ^ 63 then Sign.positive else .negative) =
      if negative then .negative else .positive := by
    rw [if_congr sign rfl rfl]
    cases negative <;> rfl
  rw [float, ← signs]
  by_cases carry : roundedSignificand c = 2 ^ 53
  · refine ⟨2 ^ 52, c.log2 - 51, _, unpack_ofBits (by omega) (by omega) (Nat.le_refl _) (by decide)
      (by rw [value, carry]; omega), Nat.le_refl _, by decide, by omega, ?_⟩
    rw [carry, ← Nat.pow_add, ← Nat.pow_add]
    congr 1
    omega
  · refine ⟨roundedSignificand c, c.log2 - 52, _, unpack_ofBits (by omega) (by omega) least (by omega)
      (by rw [value]; omega), least, by omega, by omega, ?_⟩
    congr 2
    omega

/-- The nearest double of a whole number is its significand at its exponent. -/
theorem parts?_nearestFloat (negative : Bool) {c : Nat} (pos : 0 < c) (small : c < 2 ^ 64) :
    ∃ m e, parts? (nearestFloat negative c 1) = some (m, e) ∧ 2 ^ 52 ≤ m ∧ -52 ≤ e ∧
      m * 2 ^ (e + 52).toNat = roundedSignificand c * 2 ^ c.log2 := by
  obtain ⟨m, e, _, unpacked, least, -, low, value⟩ := unpack_nearestFloat negative pos small
  exact ⟨m, e, by rw [parts?, unpacked], least, low, value⟩

/-- What a number is rounded to at most, from how large the number is. -/
theorem rounded_le {c : Nat} (pos : 0 < c) :
    (c < 2 ^ 53 → roundedSignificand c * 2 ^ c.log2 = c * 2 ^ 52) ∧
      (c ≤ 17976931348623157 →
        roundedSignificand c * 2 ^ c.log2 ≤ 17976931348623156 * 2 ^ 52) ∧
      (c < 2 ^ 57 → roundedSignificand c * 2 ^ c.log2 ≤ 2 ^ 57 * 2 ^ 52) := by
  have most := (roundedSignificand_bounds pos).2
  refine ⟨fun small => ?_, fun middle => ?_, fun large => ?_⟩
  · have length : c.log2 < 53 := log2_lt_of_lt (by decide) small
    have exact : roundedSignificand c = c * 2 ^ (52 - c.log2) := by
      unfold roundedSignificand scaleQuotient
      rw [if_neg (by omega), roundQuotient_one, Nat.pow_eq,
        show ((52 : Int) - c.log2).toNat = 52 - c.log2 by omega]
    rw [exact, Nat.mul_assoc, ← Nat.pow_add, show 52 - c.log2 + c.log2 = 52 by omega]
  · have length : c.log2 < 54 := log2_lt_of_lt (by decide) (by omega)
    by_cases last : c.log2 = 53
    · have halved : roundedSignificand c = roundQuotient c 2 := by
        unfold roundedSignificand scaleQuotient
        rw [last]
        rfl
      have : roundQuotient c 2 ≤ 8988465674311578 := by
        unfold roundQuotient
        simp only
        split <;> omega
      rw [halved, last]
      omega
    · calc roundedSignificand c * 2 ^ c.log2 ≤ 2 ^ 53 * 2 ^ 52 :=
            Nat.mul_le_mul most (Nat.pow_le_pow_right (by decide) (by omega))
        _ ≤ 17976931348623156 * 2 ^ 52 := by decide
  · have length : c.log2 < 57 := log2_lt_of_lt (by decide) large
    calc roundedSignificand c * 2 ^ c.log2 ≤ 2 ^ 53 * 2 ^ 56 :=
          Nat.mul_le_mul most (Nat.pow_le_pow_right (by decide) (by omega))
      _ = 2 ^ 57 * 2 ^ 52 := by decide

/-! ### Products -/

/-- A finite double is not packed as an infinity unless its exponent is too large. -/
theorem isInf_unpack_pack {sign : Float.Model.UnpackedFloat.Sign} {m : Nat} {e : Int} {pos : 0 < m}
    (high : e ≤ 971) :
    (unpack Format.binary64 (pack Format.binary64 (.finite sign m e pos))).isInf = false := by
  have field : (BitVec.ofNat 11 (e + 1075).toNat) ≠ -1#_ := by
    intro all
    have := congrArg BitVec.toNat all
    rw [BitVec.toNat_ofNat] at this
    change _ = 2047 at this
    omega
  have packed : ∃ exponent mantissa, exponent ≠ -1#_ ∧
      pack Format.binary64 (.finite sign m e pos) =
        packComponents Format.binary64 sign exponent mantissa := by
    rw [pack, if_neg (by change ¬ 2 ^ 11 ≤ (e + 1023 + 52).toNat + 1; omega)]
    split
    · refine ⟨_, _, ?_, rfl⟩
      change BitVec.ofNat 11 (e + 1023 + 52).toNat ≠ -1#_
      rwa [Int.add_assoc]
    · exact ⟨_, _, by decide, rfl⟩
  obtain ⟨exponent, mantissa, notAll, packed⟩ := packed
  rw [packed, unpack]
  simp only [unpackExponent_packComponents, if_neg notAll]
  split
  · split <;> rfl
  · rfl

/-- A shift divides the mantissa by a power of two. -/
theorem mantissa_shiftRight (em : ExtendedMantissa) (k : Nat) :
    (em >>> k).mantissa = em.mantissa / 2 ^ k := by
  change (Nat.repeat ExtendedMantissa.shiftRightOne k em).mantissa = _
  induction k with
  | zero => simp [Nat.repeat]
  | succ k ih =>
    rw [Nat.repeat, ExtendedMantissa.shiftRightOne, ih, Nat.div_div_eq_div_mul, Nat.pow_succ]

/-- Rounding raises a mantissa by one at most. -/
theorem roundedMantissa_bounds (em : ExtendedMantissa) :
    em.mantissa ≤ em.roundedMantissa ∧ em.roundedMantissa ≤ em.mantissa + 1 := by
  obtain ⟨m, roundBit, stickyBit⟩ := em
  cases roundBit <;> cases stickyBit <;>
    simp only [ExtendedMantissa.roundedMantissa, ExtendedMantissa.accuracy,
      Accuracy.roundToNearestEven] <;> omega

/-- A mantissa is cut down to its first fifty-three bits, and the exponent makes up for it. -/
theorem shiftToTargetExponent_exact {m : Nat} {e : Int} (low : -1074 ≤ e) :
    shiftToTargetExponent Format.binary64 m e .exact =
      (ExtendedMantissa.ofMantissaAndAccuracy m .exact >>> (m.log2 - 52), e + (m.log2 - 52 : Nat)) := by
  have amount : (max ((m.log2 : Int) + 1 + e - 53) (-1074) - e).toNat = m.log2 - 52 := by omega
  change (ExtendedMantissa.ofMantissaAndAccuracy m .exact >>>
      (max ((m.log2 : Int) + 1 + e - 53) (-1074) - e).toNat,
    e + ((max ((m.log2 : Int) + 1 + e - 53) (-1074) - e).toNat : Int)) = _
  rw [amount]

/-- A mantissa of fifty-three bits keeps its exponent, and one that was rounded up to the next power of two
gets the next. -/
theorem exponent_of_rounded {m : Nat} {e : Int} (least : -1074 ≤ e) (most : m ≤ 2 ^ 53) :
    (shiftToTargetExponent Format.binary64 m e .exact).2 ≤ e + 1 ∧
      (m < 2 ^ 53 → (shiftToTargetExponent Format.binary64 m e .exact).2 = e) := by
  rw [shiftToTargetExponent_exact least]
  constructor
  · have : m.log2 < 54 := log2_lt_of_lt (by decide) (by omega)
    omega
  · intro below
    have : m.log2 < 53 := log2_lt_of_lt (by decide) below
    omega

/-- Zero is no infinity. -/
theorem isInf_unpack_packedZero (sign : Sign) :
    (unpack Format.binary64 (pack Format.binary64 (.zero sign))).isInf = false := by
  cases sign <;> rfl

/-- A number of fifty-three bits below the greatest double has no greater exponent than it, and at that
exponent it is not all ones. -/
theorem exponent_of_below_greatest {q j : Nat} (enough : 2 ^ 52 ≤ q)
    (below : q * 2 ^ j < greatestDouble * 2 ^ 104) :
    j ≤ greatestExponent + 104 ∧ (j = greatestExponent + 104 → q < 2 ^ 53 - 1) := by
  have value : q * 2 ^ j < (2 ^ 53 - 1) * 2 ^ (greatestExponent + 104) :=
    calc
      q * 2 ^ j < greatestDouble * 2 ^ 104 := below
      _ = (2 ^ 53 - 1) * 2 ^ (greatestExponent + 104) := by
        rw [greatestDouble, Nat.mul_assoc, ← Nat.pow_add]
  constructor
  · apply Nat.le_of_lt_succ
    apply Nat.lt_of_not_le
    intro large
    have :=
      calc
        2 ^ 52 * (2 ^ (greatestExponent + 104) * 2) = 2 ^ 52 * 2 ^ (greatestExponent + 104 + 1) := by
          rw [Nat.pow_succ 2 (greatestExponent + 104)]
        _ ≤ q * 2 ^ j := Nat.mul_le_mul enough (Nat.pow_le_pow_right (by decide) large)
        _ < (2 ^ 53 - 1) * 2 ^ (greatestExponent + 104) := value
    generalize 2 ^ (greatestExponent + 104) = unit at this
    omega
  · rintro rfl
    exact Nat.lt_of_mul_lt_mul_right value

/-- A number from one up to the greatest double is not rounded to an infinity, as the bits behind its first
fifty-three are dropped. -/
theorem isInf_round {sign : Sign} {m : Nat} {e : Int} (least : -104 ≤ e) (long : 2 ^ 104 ≤ m)
    (below : m * 2 ^ (e + 104).toNat < greatestDouble * 2 ^ 104) :
    (unpack Format.binary64
      (pack Format.binary64 (roundWithAccuracy Format.binary64 sign m e .exact))).isInf = false := by
  have nonzero : m ≠ 0 := by
    have : 0 < 2 ^ 104 := by decide
    omega
  have length : 104 ≤ m.log2 := (Nat.le_log2 nonzero).2 long
  let k : Nat := m.log2 - 52
  have shifted : shiftToTargetExponent Format.binary64 m e .exact =
      (ExtendedMantissa.ofMantissaAndAccuracy m .exact >>> k, e + k) := shiftToTargetExponent_exact (by omega)
  have rounded := (roundedMantissa_bounds (ExtendedMantissa.ofMantissaAndAccuracy m .exact >>> k)).2
  rw [mantissa_shiftRight] at rounded
  change _ ≤ m / 2 ^ k + 1 at rounded
  obtain ⟨enough, most⟩ : 2 ^ 52 ≤ m / 2 ^ k ∧ m / 2 ^ k < 2 ^ 53 := leadingBits_bounds (by omega)
  obtain ⟨exponent, top⟩ := exponent_of_below_greatest enough <|
    calc
      m / 2 ^ k * 2 ^ (k + (e + 104).toNat) = m / 2 ^ k * 2 ^ k * 2 ^ (e + 104).toNat := by
        rw [Nat.pow_add, Nat.mul_assoc]
      _ ≤ m * 2 ^ (e + 104).toNat := Nat.mul_le_mul_right _ (Nat.div_mul_le_self ..)
      _ < greatestDouble * 2 ^ 104 := below
  unfold greatestExponent at exponent top
  obtain ⟨next, same⟩ := exponent_of_rounded (e := e + k)
    (m := (ExtendedMantissa.ofMantissaAndAccuracy m .exact >>> k).roundedMantissa)
    (by omega) (by omega)
  rw [roundWithAccuracy, shifted]
  simp only
  generalize shiftToTargetExponent Format.binary64
    (ExtendedMantissa.ofMantissaAndAccuracy m .exact >>> k).roundedMantissa (e + k) .exact = final at *
  obtain ⟨mantissa, exponent'⟩ := final
  simp only at next same ⊢
  split
  · exact isInf_unpack_packedZero sign
  · exact isInf_unpack_pack (by omega)

/-- The product of two doubles from one on is no infinity if it is below the greatest double. -/
theorem isInf_mul {x y : Float} {m n : Nat} {e f : Int} (hx : parts? x = some (m, e))
    (hy : parts? y = some (n, f)) (hm : 2 ^ 52 ≤ m) (hn : 2 ^ 52 ≤ n) (he : -52 ≤ e) (hf : -52 ≤ f)
    (below : m * 2 ^ (e + 52).toNat * (n * 2 ^ (f + 52).toNat) < greatestDouble * 2 ^ 104) :
    (x * y).isInf = false := by
  obtain ⟨sign, pos, unpacked⟩ := unpack_of_parts? hx
  obtain ⟨sign', pos', unpacked'⟩ := unpack_of_parts? hy
  change (Float.Model.unpack (.pack (mul Format.binary64 x.toModel.unpack y.toModel.unpack))).isInf =
    false
  rw [unpacked, unpacked']
  have long : 2 ^ 104 ≤ m * n := by
    rw [show 104 = 52 + 52 from rfl, Nat.pow_add]
    exact Nat.mul_le_mul hm hn
  refine isInf_round (by omega) long ?_
  calc m * n * 2 ^ (e + f + 104).toNat = m * n * (2 ^ (e + 52).toNat * 2 ^ (f + 52).toNat) := by
        rw [← Nat.pow_add, show (e + f + 104).toNat = (e + 52).toNat + (f + 52).toNat by omega]
    _ = m * 2 ^ (e + 52).toNat * (n * 2 ^ (f + 52).toNat) := by ac_rfl
    _ < greatestDouble * 2 ^ 104 := below

/-! ### Powers of ten -/

/-- What coefficients of at most seventeen digits are rounded to at most, if their decimal with an exponent
is not above the greatest double. -/
def coefficientBound (e : Nat) : Nat :=
  if e ≤ 291 then 2 ^ 57
  else if e = 292 then 17976931348623156
  else greatestDouble / 10 ^ e

/-- Whether the rounded power of ten leaves the product with every rounded coefficient below the greatest
double. -/
def powerFits (e : Nat) : Bool :=
  match parts? (nearestDecimal false 1 e) with
  | some (n, f) => decide (2 ^ 52 ≤ n) && decide (-52 ≤ f) &&
      decide (coefficientBound e * (n * 2 ^ (f + 52).toNat) < greatestDouble * 2 ^ 52)
  | none => false

/-- The powers of ten up to that of the greatest double fit. -/
theorem powerFits_of_lt : ∀ e < 309, powerFits e := by
  decide +kernel

/-- A decimal that is not above the greatest double is rounded within its bound. -/
theorem rounded_le_coefficientBound {c e : Nat} (pos : 0 < c) (digits : c ≤ 10 ^ 17)
    (below : c * 10 ^ e ≤ greatestDouble) (finite : e < 309) :
    roundedSignificand c * 2 ^ c.log2 ≤ coefficientBound e * 2 ^ 52 := by
  obtain ⟨exact, middle, large⟩ := rounded_le pos
  have quotient : c ≤ greatestDouble / 10 ^ e :=
    (Nat.le_div_iff_mul_le (Nat.pow_pos (by decide))).2 below
  unfold coefficientBound
  split
  · exact large (by omega)
  split
  · rename_i last
    have : greatestDouble / 10 ^ 292 = 17976931348623157 := by decide +kernel
    rw [last, this] at quotient
    exact middle quotient
  · have large : greatestDouble < 10 ^ e * 2 ^ 53 :=
      calc
        greatestDouble < 10 ^ 293 * 2 ^ 53 := by decide +kernel
        _ ≤ 10 ^ e * 2 ^ 53 :=
          Nat.mul_le_mul_right _ (Nat.pow_le_pow_right (by decide) (by omega))
    have : greatestDouble / 10 ^ e < 2 ^ 53 := Nat.div_lt_of_lt_mul large
    rw [exact (by omega)]
    exact Nat.mul_le_mul_right _ quotient

/-- A decimal of at most seventeen digits that is not above the greatest double has no power of ten beyond
the doubles, and its coefficient and its power have a finite product. -/
theorem isInf_scaled {c e : Nat} (pos : 0 < c) (digits : c ≤ 10 ^ 17)
    (below : c * 10 ^ e ≤ greatestDouble) :
    e < 309 ∧ (nearestFloat false c 1 * nearestDecimal false 1 e).isInf = false := by
  have finite : e < 309 := by
    apply (Nat.pow_lt_pow_iff_right (a := 10) (by decide)).1
    calc 10 ^ e ≤ c * 10 ^ e := Nat.le_mul_of_pos_left _ pos
      _ ≤ greatestDouble := below
      _ < 10 ^ 309 := by decide +kernel
  refine ⟨finite, ?_⟩
  obtain ⟨m, f, parts, least, low, value⟩ := parts?_nearestFloat false pos (by omega)
  have fits := powerFits_of_lt e finite
  unfold powerFits at fits
  split at fits
  · rename_i n g power
    simp only [Bool.and_eq_true, decide_eq_true_eq] at fits
    obtain ⟨⟨least', low'⟩, small⟩ := fits
    refine isInf_mul parts power least least' low low' ?_
    calc m * 2 ^ (f + 52).toNat * (n * 2 ^ (g + 52).toNat) ≤
          coefficientBound e * 2 ^ 52 * (n * 2 ^ (g + 52).toNat) :=
        Nat.mul_le_mul_right _ (value ▸ rounded_le_coefficientBound pos digits below finite)
      _ = coefficientBound e * (n * 2 ^ (g + 52).toNat) * 2 ^ 52 := by ac_rfl
      _ < greatestDouble * 2 ^ 52 * 2 ^ 52 := Nat.mul_lt_mul_of_pos_right small (by decide)
      _ = greatestDouble * 2 ^ 104 := by rw [Nat.mul_assoc, ← Nat.pow_add]
  · cases fits

end Backtest.Number
