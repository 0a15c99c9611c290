import Backtest.Proofs.Number.Doubles

/-!
# Whole numbers as doubles

A whole number is rounded to a double that is zero for zero only. That of a whole number of 64 bits is a normal
number. A natural number of any size may be rounded to an infinity, so that of its double nothing more is said
(`unpack_ofNat_ne_zero`).
-/

namespace Backtest.Number

open Float.Model (Format UnpackedFloat)
open Float.Model.UnpackedFloat

/-! ### Whole numbers of 64 bits -/

/-- The absolute value of an integer fits into 64 bits. -/
theorem natAbs_toInt_lt (n : Int64) : n.toInt.natAbs < 2 ^ 64 := by
  have low := n.le_toInt
  have high := n.toInt_lt
  omega

/-- The double of a whole number that is not zero is normal and has the sign of the number. -/
theorem unpack_ofInt64 {n : Int64} (nonzero : n ≠ 0) :
    ∃ m e pos, (ofInt64 n).toModel.unpack = .finite (if n.toInt < 0 then .negative else .positive) m e pos ∧
      2 ^ 52 ≤ m ∧ m < 2 ^ 53 ∧ -52 ≤ e ∧
      m * 2 ^ (e + 52).toNat = roundedSignificand n.toInt.natAbs * 2 ^ n.toInt.natAbs.log2 := by
  have pos : 0 < n.toInt.natAbs := by
    refine Int.natAbs_pos.2 fun zero => nonzero ?_
    exact Int64.toInt_inj.1 zero
  simpa only [ofInt64, decide_eq_true_eq] using
    unpack_nearestFloat (decide (n.toInt < 0)) pos (natAbs_toInt_lt n)

/-- The double of a whole number is zero for zero only. -/
theorem ofInt64_beq_zero (n : Int64) : (ofInt64 n == 0.0) = decide (n = 0) := by
  by_cases zero : n = 0
  · subst zero
    decide +kernel
  · obtain ⟨m, e, pos, unpacked, -⟩ := unpack_ofInt64 zero
    rw [decide_eq_false zero]
    change (ofInt64 n).toModel.unpack.beq (0.0 : Float).toModel.unpack = false
    have none : (0.0 : Float).toModel.unpack = .zero .positive := by rfl
    rw [unpacked, none]
    split <;> rfl

/-- The double of a whole number is a number. -/
theorem isNaN_ofInt64 (n : Int64) : (ofInt64 n).isNaN = false := by
  by_cases zero : n = 0
  · subst zero
    decide +kernel
  · obtain ⟨m, e, pos, unpacked, -⟩ := unpack_ofInt64 zero
    change (ofInt64 n).toModel.unpack.isNaN = false
    rw [unpacked]
    rfl

/-! ### Words that are not zero -/

/-- A positive number that fits has a bit. -/
theorem ofNat_ne_zero_of_lt {w n : Nat} (pos : 0 < n) (small : n < 2 ^ w) : BitVec.ofNat w n ≠ 0#w := by
  intro zero
  have := congrArg BitVec.toNat zero
  rw [BitVec.toNat_ofNat, Nat.mod_eq_of_lt small, BitVec.toNat_ofNat, Nat.zero_mod] at this
  omega

/-- Bits with an exponent or a mantissa are not those of zero. -/
theorem unpack_packComponents_ne_zero {sign : Sign} {exponent : BitVec 11} {mantissa : BitVec 52}
    (nonzero : exponent ≠ 0#11 ∨ mantissa ≠ 0#52) (t : Sign) :
    unpack Format.binary64 (packComponents Format.binary64 sign exponent mantissa) ≠ .zero t := by
  rw [unpack]
  simp only [unpackExponent_packComponents, unpackMantissa_packComponents]
  split
  · split <;> exact nofun
  · split
    next least =>
      rw [dif_neg (nonzero.resolve_left (not_not.2 least))]
      exact nofun
    next => exact nofun

/-- A mantissa of at most fifty-three bits is not packed as zero. -/
theorem unpack_pack_ne_zero {sign : Sign} {m : Nat} {e : Int} (pos : 0 < m) (most : m < 2 ^ 53)
    (low : -1074 ≤ e) (t : Sign) :
    unpack Format.binary64 (pack Format.binary64 (.finite sign m e pos)) ≠ .zero t := by
  rw [pack]
  split
  next => exact unpack_packComponents_ne_zero (.inl (by decide)) t
  next small =>
    change ¬2 ^ 11 ≤ (e + 1023 + 52).toNat + 1 at small
    split
    next =>
      refine unpack_packComponents_ne_zero (.inl ?_) t
      exact ofNat_ne_zero_of_lt (w := 11) (n := (e + 1023 + 52).toNat) (by omega) (by omega)
    next short =>
      have length : m.log2 < 53 := (Nat.log2_lt pos.ne').2 most
      have short : m.log2 + 1 ≠ 53 := short
      refine unpack_packComponents_ne_zero (.inr ?_) t
      exact ofNat_ne_zero_of_lt (w := 52) pos ((Nat.log2_lt pos.ne').1 (by omega))

/-! ### Products that are not zero -/

/-- The first fifty-three bits of a number that is not zero. -/
theorem firstBits_bounds {m : Nat} (pos : 0 < m) :
    0 < m / 2 ^ (m.log2 - 52) ∧ m / 2 ^ (m.log2 - 52) < 2 ^ 53 := by
  by_cases long : 52 ≤ m.log2
  · have := leadingBits_bounds long
    omega
  · rw [Nat.sub_eq_zero_of_le (by omega), pow_zero, Nat.div_one]
    have length : m < 2 ^ (m.log2 + 1) := Nat.lt_log2_self
    exact ⟨pos, length.trans_le (Nat.pow_le_pow_right (by decide) (by omega))⟩

/-- A number that is not too small is not rounded to zero. -/
theorem exists_roundWithAccuracy (sign : Sign) {m : Nat} {e : Int} (pos : 0 < m) (low : -1074 ≤ e) :
    ∃ n f pos, roundWithAccuracy Format.binary64 sign m e .exact = .finite sign n f pos ∧
      n < 2 ^ 53 ∧ -1074 ≤ f := by
  let em := ExtendedMantissa.ofMantissaAndAccuracy m .exact >>> (m.log2 - 52)
  have rounded_pos : 0 < em.roundedMantissa := by
    refine (firstBits_bounds pos).1.trans_le ?_
    have rounded := (roundedMantissa_bounds em).1
    rwa [mantissa_shiftRight] at rounded
  obtain ⟨kept_pos, kept_lt⟩ := firstBits_bounds rounded_pos
  rw [roundWithAccuracy, shiftToTargetExponent_exact low]
  simp only
  rw [shiftToTargetExponent_exact (by omega)]
  simp only [mantissa_shiftRight]
  change ∃ n f pos,
    (if h : em.roundedMantissa / 2 ^ (em.roundedMantissa.log2 - 52) = 0 then _ else _) = _ ∧ _
  rw [dif_neg kept_pos.ne']
  exact ⟨_, _, kept_pos, rfl, kept_lt, by omega⟩

/-- A product that is not too small is not rounded to zero. -/
theorem unpack_pack_mul_ne_zero {s t : Sign} {m n : Nat} {e f : Int} {pos : 0 < m} {pos' : 0 < n}
    (low : -1074 ≤ e + f) (u : Sign) :
    unpack Format.binary64
      (pack Format.binary64 (mul Format.binary64 (.finite s m e pos) (.finite t n f pos'))) ≠ .zero u := by
  obtain ⟨q, g, q_pos, rounded, most, low'⟩ :=
    exists_roundWithAccuracy (s * t) (Nat.mul_pos pos pos') low
  rw [mul, rounded]
  exact unpack_pack_ne_zero q_pos most low' u

/-! ### Natural numbers -/

/-- A number of fifty-three bits needs no rounding. -/
theorem roundWithAccuracy_of_normal (sign : Sign) {m : Nat} {e : Int} (least : 2 ^ 52 ≤ m)
    (most : m < 2 ^ 53) (low : -1074 ≤ e) :
    roundWithAccuracy Format.binary64 sign m e .exact = .finite sign m e (by omega) := by
  have length : m.log2 = 52 := (Nat.log2_eq_iff (by omega)).2 ⟨least, most⟩
  have kept : shiftToTargetExponent Format.binary64 m e .exact =
      (ExtendedMantissa.ofMantissaAndAccuracy m .exact, e) := by
    rw [shiftToTargetExponent_exact low, length]
    exact congrArg _ (Int.add_zero e)
  have again : (ExtendedMantissa.ofMantissaAndAccuracy m .exact).roundedMantissa = m := rfl
  rw [roundWithAccuracy, kept]
  simp only [again, kept]
  exact dif_neg (by change m ≠ 0; omega)

/-- A natural number of at most fifty-three bits is a normal double. -/
theorem exists_unpack_toFloat {n : Nat} (pos : 0 < n) (small : n < 2 ^ 53) :
    ∃ s m e pos, n.toUInt64.toFloat.toModel.unpack = .finite s m e pos ∧ -52 ≤ e := by
  have length : n.log2 < 53 := (Nat.log2_lt pos.ne').2 small
  have whole : n.toUInt64.toNat = n := by
    rw [Nat.toUInt64, UInt64.toNat_ofNat']
    omega
  have rounded : ofUInt64 Format.binary64 n.toUInt64 = round Format.binary64 .positive n 0 := by
    have positive : compare (n : Int) 0 = .gt := Int.compare_eq_gt.2 (by omega)
    rw [ofUInt64, ofNat, ofInt, Float.Model.UnpackedFloat.normalize, whole, positive]
    rfl
  let e : Int := -(52 - n.log2 : Nat)
  have shifted : decreaseExponent n 0 (Format.binary64.targetExponent (Float.Model.totalExponent n 0)) =
      (n * 2 ^ (52 - n.log2), e) := by
    have amount : (0 - max ((n.log2 : Int) + 1 + 0 - 53) (-1074)).toNat = 52 - n.log2 := by omega
    change (n <<< (0 - max ((n.log2 : Int) + 1 + 0 - 53) (-1074)).toNat,
      0 - ((0 - max ((n.log2 : Int) + 1 + 0 - 53) (-1074)).toNat : Int)) = _
    rw [amount, Nat.shiftLeft_eq, Int.zero_sub]
  obtain ⟨least, most⟩ := shifted_bounds pos (by omega)
  have packed := @unpack_pack_normal .positive _ e (by omega) least most (by omega) (by omega)
  refine ⟨.positive, n * 2 ^ (52 - n.log2), e, by omega, ?_, by omega⟩
  change unpack Format.binary64 (pack Format.binary64 (ofUInt64 Format.binary64 n.toUInt64)) = _
  rw [rounded, Float.Model.UnpackedFloat.round]
  simp only [shifted]
  rw [roundWithAccuracy_of_normal _ least most (by omega)]
  exact packed

/-- The double of a natural number is zero for zero only. A number of at most fifty-three bits is converted and
multiplied by one; all others are decimals. -/
theorem unpack_ofNat_ne_zero {n : Nat} (pos : 0 < n) (t : Sign) :
    (Float.ofNat n).toModel.unpack ≠ .zero t := by
  change (Float.ofScientific n false 0).toModel.unpack ≠ _
  unfold Float.ofScientific
  split
  next small =>
    obtain ⟨s, m, e, m_pos, unpacked, low⟩ := exists_unpack_toFloat pos small.1
    have one : (Float.ofBits 0x3FF0000000000000).toModel.unpack =
        .finite .positive (2 ^ 52) (-52) (by decide) := rfl
    change unpack Format.binary64 (pack Format.binary64 (mul Format.binary64
      n.toUInt64.toFloat.toModel.unpack (Float.ofBits 0x3FF0000000000000).toModel.unpack)) ≠ _
    rw [unpacked, one]
    exact unpack_pack_mul_ne_zero (by omega) t
  next =>
    have low : ¬(0 : Int) < -((2 ^ Format.binary64.exponentBits : Int) + n.log2) := by
      change ¬(0 : Int) < -(2 ^ 11 + n.log2)
      omega
    change unpack Format.binary64 (pack Format.binary64 (ofScientific Format.binary64 n 0)) ≠ _
    rw [ofScientific, dif_neg pos.ne', if_neg (by decide), if_neg low, if_pos (by decide)]
    exact unpack_pack_mul_ne_zero (by decide) t

/-- Zero is the only natural number with the double of zero. -/
theorem ofNat_eq_ofNat_zero_iff {n : Nat} : Float.ofNat n = Float.ofNat 0 ↔ n = 0 := by
  constructor
  · intro same
    by_contra nonzero
    have zero : (Float.ofNat 0).toModel.unpack = .zero .positive := by rfl
    exact unpack_ofNat_ne_zero (Nat.pos_of_ne_zero nonzero) .positive (same ▸ zero)
  · rintro rfl
    rfl

end Backtest.Number
