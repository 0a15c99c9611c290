import Backtest.Proofs.Language.ValueOrder
import Backtest.Proofs.Number.Wholes

/-!
# Arithmetic of whole numbers

Operators on whole numbers are exact or report that the result does not fit into 64 bits. Quotients are
rounded toward zero first and corrected then; `floored_of_truncated` shows that this is the quotient rounded
toward negative infinity, and that neither correction leaves the 64 bits. Booleans count as zero and one.
-/

namespace Backtest.Language

/-- The whole number that a value counts as in arithmetic, if any. -/
def Value.whole? : Value → Option Int64
  | .bool b => some (if b then 1 else 0)
  | .int n => some n
  | _ => none

/-- A result that is a whole number if 64 bits have such a number, and an overflow if they have none. -/
def ExactOrOverflow (n : Int) (result : Except EvalError Value) : Prop :=
  (∀ k : Int64, k.toInt = n → result = .ok (.int k)) ∧
    ((∀ k : Int64, k.toInt ≠ n) → result = .error (.type .integerOverflow))

/-- What the operators answer for two whole numbers, and what the negative and the size of the first are. -/
structure IntegerArithmetic (a b : Int64) (binary : BinaryOp → Except EvalError Value)
    (negation absolute : Except EvalError Value) : Prop where
  sum : ExactOrOverflow (a.toInt + b.toInt) (binary (.arithmetic .add))
  difference : ExactOrOverflow (a.toInt - b.toInt) (binary (.arithmetic .sub))
  product : ExactOrOverflow (a.toInt * b.toInt) (binary (.arithmetic .mul))
  negative : ExactOrOverflow (-a.toInt) negation
  size : ExactOrOverflow |a.toInt| absolute
  /-- Quotients by zero fail, and no others fail so. -/
  quotient_by_zero : binary (.arithmetic .floorDiv) = .error .zeroDivision ↔ b = 0
  remainder_by_zero : binary (.arithmetic .mod) = .error .zeroDivision ↔ b = 0
  /-- The quotient is rounded toward negative infinity, and the remainder is what it leaves. -/
  quotient : b ≠ 0 → ¬(a = Int64.minValue ∧ b = -1) → ∃ q r : Int64,
    binary (.arithmetic .floorDiv) = .ok (.int q) ∧ binary (.arithmetic .mod) = .ok (.int r) ∧
      q.toInt = ⌊(a.toInt / b.toInt : ℚ)⌋ ∧ r.toInt = a.toInt - b.toInt * ⌊(a.toInt / b.toInt : ℚ)⌋ ∧
      (r = 0 ∨ r.toInt.sign = b.toInt.sign) ∧ |r.toInt| < |b.toInt| ∧
      a.toInt = b.toInt * q.toInt + r.toInt
  /-- The one quotient that does not fit takes its remainder with it. -/
  least_quotient : a = Int64.minValue → b = -1 →
    binary (.arithmetic .floorDiv) = .error (.type .integerOverflow) ∧
      binary (.arithmetic .mod) = .error (.type .integerOverflow)
  power : 0 ≤ b.toInt → b.toInt ≤ 2 ^ 32 - 1 →
    ExactOrOverflow (a.toInt ^ b.toInt.toNat) (binary (.arithmetic .pow))
  /-- Exponents of more than 32 bits are refused, even for the bases whose powers are small. -/
  great_power : 2 ^ 32 - 1 < b.toInt → binary (.arithmetic .pow) = .error (.type .integerOverflow)
  negative_power : b.toInt < 0 → if a = 0 then binary (.arithmetic .pow) = .error .zeroDivision
    else ∃ x, binary (.arithmetic .pow) = .ok (.float x)
  true_quotient : if b = 0 then binary (.arithmetic .div) = .error .zeroDivision
    else ∃ x, binary (.arithmetic .div) = .ok (.float x)
  /-- Every operator has a value or one of the two faults. -/
  answer : ∀ op, (∃ v, binary op = .ok v) ∨ binary op = .error .zeroDivision ∨
    binary op = .error (.type .integerOverflow)

/-! ### Numbers of 64 bits -/

/-- The bounds of 64 bits. -/
theorem toInt_bounds (n : Int64) : -2 ^ 63 ≤ n.toInt ∧ n.toInt < 2 ^ 63 := by
  have low := n.le_toInt
  have high := n.toInt_lt
  exact ⟨low, high⟩

/-- A number fits if and only if it is within those bounds. -/
theorem fits_iff {n : Int} : Fits n ↔ -2 ^ 63 ≤ n ∧ n < 2 ^ 63 := by
  unfold Fits
  rw [Int64.toInt_minValue, Int64.toInt_maxValue]
  omega

/-- The integers that fit are those of the numbers of 64 bits. -/
theorem fits_iff_exists {n : Int} : Fits n ↔ ∃ k : Int64, k.toInt = n := by
  rw [fits_iff]
  constructor
  · intro bounds
    exact ⟨Int64.ofInt n, Int64.toInt_ofInt_of_le bounds.1 bounds.2⟩
  · rintro ⟨k, rfl⟩
    exact toInt_bounds k

/-- A result is exact, or else an overflow. -/
theorem exactInt_spec (n : Int) : ExactOrOverflow n (exactInt n) := by
  constructor
  · rintro k rfl
    rw [exactInt, if_pos (fits_iff_exists.2 ⟨k, rfl⟩), Int64.ofInt_toInt]
  · intro none
    exact if_neg fun fits => absurd (fits_iff_exists.1 fits) (not_exists.2 none)

/-- What does not fit is an overflow. -/
theorem overflow_spec {n : Int} (h : ¬Fits n) : ExactOrOverflow n (.error (.type .integerOverflow)) :=
  ⟨fun k same => absurd (fits_iff_exists.2 ⟨k, same⟩) h, fun _ => rfl⟩

/-! ### Quotients -/

/-- A quotient rounded toward negative infinity and the remainder it leaves. -/
structure Floored (x y q r : Int) : Prop where
  exact : x = y * q + r
  range : 0 ≤ r ∧ r < y ∨ y < r ∧ r ≤ 0

namespace Floored

variable {x y q r : Int}

/-- The quotient is the fraction rounded down. -/
theorem quotient_eq (floored : Floored x y q r) : q = ⌊(x / y : ℚ)⌋ := by
  obtain ⟨rfl, range⟩ := floored
  symm
  rw [Int.floor_eq_iff]
  push_cast
  rcases range with ⟨nonneg, below⟩ | ⟨above, nonpos⟩
  · have pos : (0 : ℚ) < y := by exact_mod_cast (by omega : 0 < y)
    have nonneg' : (0 : ℚ) ≤ r := by exact_mod_cast nonneg
    have below' : (r : ℚ) < y := by exact_mod_cast below
    rw [le_div_iff₀ pos, div_lt_iff₀ pos]
    constructor <;> linarith
  · have neg : (y : ℚ) < 0 := by exact_mod_cast (by omega : y < 0)
    have nonpos' : (r : ℚ) ≤ 0 := by exact_mod_cast nonpos
    have above' : (y : ℚ) < r := by exact_mod_cast above
    rw [le_div_iff_of_neg neg, div_lt_iff_of_neg neg]
    constructor <;> linarith

/-- The remainder is zero or has the sign of the divisor. -/
theorem sign_eq (floored : Floored x y q r) : r = 0 ∨ r.sign = y.sign := by
  rcases floored.range with ⟨nonneg, below⟩ | ⟨above, nonpos⟩
  · rcases nonneg.eq_or_lt with zero | pos
    · exact .inl zero.symm
    · exact .inr (by rw [Int.sign_eq_one_of_pos pos, Int.sign_eq_one_of_pos (pos.trans below)])
  · rcases nonpos.eq_or_lt with zero | neg
    · exact .inl zero
    · exact .inr (by rw [Int.sign_eq_neg_one_of_neg neg, Int.sign_eq_neg_one_of_neg (above.trans neg)])

/-- The remainder is smaller than the divisor. -/
theorem abs_lt (floored : Floored x y q r) : |r| < |y| := by
  have := floored.range
  rw [Int.abs_eq_natAbs, Int.abs_eq_natAbs]
  omega

end Floored

/-- The truncated remainder is smaller than the divisor. -/
theorem natAbs_tmod_lt {x y : Int} (nonzero : y ≠ 0) : (x.tmod y).natAbs < y.natAbs := by
  rw [Int.natAbs_tmod]
  exact Nat.mod_lt _ (Int.natAbs_pos.2 nonzero)

/-- A quotient that leaves something is smaller than the dividend. -/
theorem natAbs_tdiv_lt {x y : Int} (nonzero : y ≠ 0) (rest : x.tmod y ≠ 0) :
    (x.tdiv y).natAbs < x.natAbs := by
  have rest_pos : 0 < x.natAbs % y.natAbs := by
    rw [← Int.natAbs_tmod]
    exact Int.natAbs_pos.2 rest
  rw [Int.natAbs_tdiv]
  calc x.natAbs / y.natAbs ≤ y.natAbs * (x.natAbs / y.natAbs) :=
        Nat.le_mul_of_pos_left _ (Int.natAbs_pos.2 nonzero)
    _ < y.natAbs * (x.natAbs / y.natAbs) + x.natAbs % y.natAbs := Nat.lt_add_of_pos_right rest_pos
    _ = x.natAbs := Nat.div_add_mod _ _

/-- A quotient rounded toward zero that leaves nothing or a remainder with the sign of the divisor is rounded
toward negative infinity, and otherwise it is one too large. -/
theorem floored_tdiv {x y : Int} (nonzero : y ≠ 0) :
    if x.tmod y < 0 ∧ 0 ≤ y ∨ 0 < x.tmod y ∧ y < 0 then Floored x y (x.tdiv y - 1) (x.tmod y + y)
    else Floored x y (x.tdiv y) (x.tmod y) := by
  have exact : x = y * x.tdiv y + x.tmod y := (Int.mul_tdiv_add_tmod x y).symm
  have small := natAbs_tmod_lt (x := x) nonzero
  split
  · refine ⟨?_, by omega⟩
    rw [Int.mul_sub, Int.mul_one]
    omega
  · exact ⟨exact, by omega⟩

/-- A truncated quotient has been rounded up where remainder and divisor have different signs. -/
theorem roundedUp_iff {remainder divisor : Int64} : roundedUp remainder divisor ↔
    remainder.toInt < 0 ∧ 0 ≤ divisor.toInt ∨ 0 < remainder.toInt ∧ divisor.toInt < 0 := by
  have zero : remainder = 0 ↔ remainder.toInt = 0 := Int64.toInt_inj.symm
  simp only [roundedUp, Bool.and_eq_true, bne_iff_ne, ne_eq, zero, Int64.lt_iff_toInt_lt, Int64.toInt_zero,
    decide_eq_decide]
  omega

/-- The corrected quotient and remainder are those of division rounded toward negative infinity. In particular
no correction leaves the 64 bits: if something remains, the quotient is smaller than the dividend and has room
for it. -/
theorem floored_of_truncated {a b : Int64} (nonzero : b ≠ 0) (fits : ¬(a = Int64.minValue ∧ b = -1)) :
    Floored a.toInt b.toInt (if roundedUp (a % b) b then a / b - 1 else a / b).toInt
      (if roundedUp (a % b) b then a % b + b else a % b).toInt := by
  have divisor : b.toInt ≠ 0 := fun zero => nonzero (Int64.toInt_inj.1 zero)
  have quotient : (a / b).toInt = a.toInt.tdiv b.toInt := by
    by_cases least : a = Int64.minValue
    · exact Int64.toInt_div_of_ne_right a b fun minus => fits ⟨least, minus⟩
    · exact Int64.toInt_div_of_ne_left a b least
  have remainder : (a % b).toInt = a.toInt.tmod b.toInt := Int64.toInt_mod a b
  have floored := floored_tdiv (x := a.toInt) divisor
  have up := @roundedUp_iff (a % b) b
  rw [remainder] at up
  split at floored
  next wrong =>
    have dividend := toInt_bounds a
    have divisor' := toInt_bounds b
    have smaller := natAbs_tdiv_lt divisor (show a.toInt.tmod b.toInt ≠ 0 by omega)
    have small := natAbs_tmod_lt (x := a.toInt) divisor
    have first : (a / b - 1).toInt = a.toInt.tdiv b.toInt - 1 := by
      rw [Int64.toInt_sub, quotient, Int64.toInt_one]
      exact Int.bmod_eq_of_le (by omega) (by omega)
    have second : (a % b + b).toInt = a.toInt.tmod b.toInt + b.toInt := by
      rw [Int64.toInt_add, remainder]
      exact Int.bmod_eq_of_le (by omega) (by omega)
    rwa [if_pos (up.2 wrong), if_pos (up.2 wrong), first, second]
  next right =>
    rwa [if_neg (right ∘ up.1), if_neg (right ∘ up.1), quotient, remainder]

/-! ### Powers -/

/-- A power above the sixty-third of a base of at least two does not fit. -/
theorem not_fits_pow {base : Int} {exponent : Nat} (large : 1 < base.natAbs) (high : 64 ≤ exponent) :
    ¬Fits (base ^ exponent) := by
  have size : 2 ^ 64 ≤ (base ^ exponent).natAbs :=
    calc 2 ^ 64 ≤ 2 ^ exponent := Nat.pow_le_pow_right (by decide) high
      _ ≤ base.natAbs ^ exponent := Nat.pow_le_pow_left large exponent
      _ = (base ^ exponent).natAbs := (Int.natAbs_pow base exponent).symm
  rw [fits_iff]
  omega

/-- The powers of zero and the units. -/
theorem pow_of_natAbs_le_one {base : Int} (small : base.natAbs ≤ 1) (exponent : Nat) :
    base ^ exponent = if exponent = 0 then 1 else if exponent % 2 = 0 then base * base else base := by
  have units : base = 0 ∨ base = 1 ∨ base = -1 := by omega
  by_cases zero : exponent = 0
  · rw [if_pos zero, zero, pow_zero]
  · rw [if_neg zero]
    rcases units with rfl | rfl | rfl
    · simp [zero]
    · simp
    · by_cases even : exponent % 2 = 0
      · rw [if_pos even, (Nat.even_iff.2 even).neg_one_pow]
        rfl
      · rw [if_neg even, (Nat.odd_iff.2 (by omega)).neg_one_pow]

/-- A power is the exact one, or it is given up where it does not fit. -/
theorem power?_spec (base : Int) (exponent : Nat) :
    power? base exponent = some (base ^ exponent) ∨
      power? base exponent = none ∧ ¬Fits (base ^ exponent) := by
  unfold power?
  split
  next small => exact .inl (congrArg some (pow_of_natAbs_le_one small exponent).symm)
  next large =>
    split
    next => exact .inl rfl
    next high => exact .inr ⟨rfl, not_fits_pow (by omega) (by omega)⟩

/-! ### Operators -/

section Operators

variable {a b : Int64}

/-- Quotient and remainder are those of division rounded down, where there are any. -/
theorem intArithmetic_quotient (nonzero : b ≠ 0) (fits : ¬(a = Int64.minValue ∧ b = -1)) :
    ∃ q r : Int64, intArithmetic .floorDiv a b = .ok (.int q) ∧ intArithmetic .mod a b = .ok (.int r) ∧
      Floored a.toInt b.toInt q.toInt r.toInt := by
  refine ⟨_, _, ?_, ?_, floored_of_truncated nonzero fits⟩
  · simp only [intArithmetic, if_neg nonzero, truncated, if_neg fits]
    rfl
  · simp only [intArithmetic, if_neg nonzero, truncated, if_neg fits]
    rfl

/-- There are none by zero. -/
theorem intArithmetic_quotient_by_zero (a : Int64) :
    intArithmetic .floorDiv a 0 = .error .zeroDivision ∧ intArithmetic .mod a 0 = .error .zeroDivision :=
  ⟨rfl, rfl⟩

/-- Those of the least number by minus one overflow. -/
theorem intArithmetic_least_quotient :
    intArithmetic .floorDiv Int64.minValue (-1) = .error (.type .integerOverflow) ∧
      intArithmetic .mod Int64.minValue (-1) = .error (.type .integerOverflow) :=
  ⟨rfl, rfl⟩

/-- A divisor is zero, or the quotient is the one that does not fit, or it fits. -/
theorem division_cases (a b : Int64) :
    b = 0 ∨ (a = Int64.minValue ∧ b = -1) ∨ b ≠ 0 ∧ ¬(a = Int64.minValue ∧ b = -1) := by
  tauto

/-- Division by zero is the only cause of its fault. -/
theorem intArithmetic_by_zero_iff : (intArithmetic .floorDiv a b = .error .zeroDivision ↔ b = 0) ∧
    (intArithmetic .mod a b = .error .zeroDivision ↔ b = 0) := by
  rcases division_cases a b with rfl | ⟨rfl, rfl⟩ | ⟨nonzero, fits⟩
  · simp [intArithmetic_quotient_by_zero a]
  · simp [intArithmetic_least_quotient]
  · obtain ⟨q, r, quotient, remainder, -⟩ := intArithmetic_quotient nonzero fits
    simp [quotient, remainder, nonzero]

/-- A power is exact or an overflow. -/
theorem intArithmetic_power (nonneg : 0 ≤ b.toInt) (most : b.toInt ≤ 2 ^ 32 - 1) :
    ExactOrOverflow (a.toInt ^ b.toInt.toNat) (intArithmetic .pow a b) := by
  have notGreat : ¬greatestExponent < b.toInt := by
    unfold greatestExponent
    omega
  simp only [intArithmetic, if_neg (Int.not_lt.2 nonneg), if_neg notGreat]
  rcases power?_spec a.toInt b.toInt.toNat with power | ⟨power, large⟩
  · rw [power]
    exact exactInt_spec _
  · rw [power]
    exact overflow_spec large

/-- A power with an exponent that is too great overflows, whatever its value is. -/
theorem intArithmetic_great_power (great : 2 ^ 32 - 1 < b.toInt) :
    intArithmetic .pow a b = .error (.type .integerOverflow) := by
  have great' : greatestExponent < b.toInt := great
  simp only [intArithmetic, if_pos great', if_neg (show ¬b.toInt < 0 by omega)]

/-- A power with a negative exponent is a double, but for that of zero. -/
theorem intArithmetic_negative_power (negative : b.toInt < 0) :
    intArithmetic .pow a b = if a = 0 then .error .zeroDivision
      else .ok (.float ((Number.ofInt64 a).pow (Number.ofInt64 b))) := by
  have zero : a.toInt = 0 ↔ a = 0 := by rw [← Int64.toInt_inj, Int64.toInt_zero]
  simp only [intArithmetic, if_pos negative, zero]
  by_cases base : a = 0
  · rw [if_pos base, if_pos base]
  · rw [if_neg base, if_neg base, floatArithmetic, Number.ofInt64_beq_zero, decide_eq_false base]
    rfl

/-- A true quotient is a double, but for that by zero. -/
theorem intArithmetic_true_quotient :
    intArithmetic .div a b = if b = 0 then .error .zeroDivision
      else .ok (.float (Number.ofInt64 a / Number.ofInt64 b)) := by
  simp only [intArithmetic, floatArithmetic, Number.ofInt64_beq_zero, decide_eq_true_eq]

/-- What is exact or an overflow is one of the answers of arithmetic. -/
theorem ExactOrOverflow.answer {n : Int} {result : Except EvalError Value} (spec : ExactOrOverflow n result) :
    (∃ v, result = .ok v) ∨ result = .error .zeroDivision ∨ result = .error (.type .integerOverflow) := by
  by_cases fits : ∃ k : Int64, k.toInt = n
  · obtain ⟨k, same⟩ := fits
    exact .inl ⟨_, spec.1 k same⟩
  · exact .inr (.inr (spec.2 (not_exists.1 fits)))

/-- Arithmetic on integers has a value, or divides by zero, or overflows. -/
theorem intArithmetic_answer (op : ArithmeticOp) : (∃ v, intArithmetic op a b = .ok v) ∨
    intArithmetic op a b = .error .zeroDivision ∨ intArithmetic op a b = .error (.type .integerOverflow) := by
  cases op with
  | add | sub | mul => exact (exactInt_spec _).answer
  | div =>
    rw [intArithmetic_true_quotient]
    split
    · exact .inr (.inl rfl)
    · exact .inl ⟨_, rfl⟩
  | floorDiv =>
    rcases division_cases a b with rfl | ⟨rfl, rfl⟩ | ⟨nonzero, fits⟩
    · exact .inr (.inl (intArithmetic_quotient_by_zero a).1)
    · exact .inr (.inr intArithmetic_least_quotient.1)
    · obtain ⟨q, -, quotient, -⟩ := intArithmetic_quotient nonzero fits
      exact .inl ⟨_, quotient⟩
  | mod =>
    rcases division_cases a b with rfl | ⟨rfl, rfl⟩ | ⟨nonzero, fits⟩
    · exact .inr (.inl (intArithmetic_quotient_by_zero a).2)
    · exact .inr (.inr intArithmetic_least_quotient.2)
    · obtain ⟨-, r, -, remainder, -⟩ := intArithmetic_quotient nonzero fits
      exact .inl ⟨_, remainder⟩
  | pow =>
    by_cases negative : b.toInt < 0
    · rw [intArithmetic_negative_power negative]
      split
      · exact .inr (.inl rfl)
      · exact .inl ⟨_, rfl⟩
    · by_cases great : 2 ^ 32 - 1 < b.toInt
      · exact .inr (.inr (intArithmetic_great_power great))
      · exact (intArithmetic_power (by omega) (by omega)).answer

end Operators

/-! ### Values -/

section Values

variable {v w : Value} {a b : Int64}

/-- A whole value is converted as its integer is. -/
theorem toFloat?_of_whole? (h : v.whole? = some a) : v.toFloat? = some (Number.ofInt64 a) := by
  cases v with
  | bool t =>
    cases h
    cases t <;> decide +kernel
  | int n =>
    cases h
    rfl
  | _ => cases h

/-- Arithmetic of values that count as whole numbers is that of the numbers. -/
theorem applyArithmetic_of_whole? (op : ArithmeticOp) (left : v.whole? = some a) (right : w.whole? = some b) :
    applyArithmetic op v w = intArithmetic op a b := by
  cases v with
  | bool | int =>
    cases w with
    | bool | int =>
      cases left
      cases right
      cases op <;> rfl
    | _ => cases right
  | _ => cases left

/-- Values that count as whole numbers have an order. -/
theorem isSome_order?_of_whole? (left : v.whole? = some a) (right : w.whole? = some b) :
    (v.order? w).isSome := by
  have order : v.order? w = floatOrder? (Number.ofInt64 a) (Number.ofInt64 b) := by
    rw [order?_number (toFloat?_of_whole? left), toFloat?_of_whole? right]
    rfl
  rw [order, floatOrder?_eq_compare]
  exact Number.isSome_compare (Number.isNaN_ofInt64 a) (Number.isNaN_ofInt64 b)

/-- The negation of a whole value is exact or an overflow. -/
theorem applyNegation_of_whole? (h : v.whole? = some a) : ExactOrOverflow (-a.toInt) (applyNegation v) := by
  cases v with
  | int n =>
    cases h
    exact exactInt_spec _
  | bool t =>
    cases h
    cases t
    · exact exactInt_spec 0
    · exact exactInt_spec (-1)
  | _ => cases h

/-- The absolute value of a whole value is exact or an overflow. -/
theorem absolute_of_whole? (h : v.whole? = some a) : ExactOrOverflow |a.toInt| (absolute [v]) := by
  cases v with
  | int n =>
    cases h
    rw [Int.abs_eq_natAbs]
    exact exactInt_spec _
  | bool t =>
    cases h
    cases t
    · exact exactInt_spec 0
    · exact exactInt_spec 1
  | _ => cases h

end Values

/-! ### Expressions -/

section Expressions

variable {σ : Type} {host : Host σ} {bindings : Bindings} {l r : Expr} {s s₁ s₂ : σ} {v w : Value}
  {a b : Int64}

/-- A negation has the negated value of its operand. -/
theorem evaluate_negation (operand : evaluate host bindings l s = (.ok v, s₁)) :
    (evaluate host bindings (.unary .neg l) s).1 = applyNegation v := by
  rw [evaluate, EvalM.bind_apply, operand]
  rfl

/-- A call of the absolute value has that of its argument. -/
theorem evaluate_absolute (operand : evaluate host bindings l s = (.ok v, s₁)) :
    (evaluate host bindings (.call "abs" [l]) s).1 = absolute [v] := by
  rw [evaluate, EvalM.bind_apply, evaluateAll, EvalM.bind_apply, operand]
  rfl

/-- Operators between expressions that evaluate to whole numbers are exact or report an overflow. -/
theorem integer_arithmetic (left : evaluate host bindings l s = (.ok v, s₁))
    (right : evaluate host bindings r s₁ = (.ok w, s₂)) (hv : v.whole? = some a) (hw : w.whole? = some b) :
    IntegerArithmetic a b (fun op => (evaluate host bindings (.binary op l r) s).1)
      (evaluate host bindings (.unary .neg l) s).1 (evaluate host bindings (.call "abs" [l]) s).1 := by
  have arithmetic (op : ArithmeticOp) :
      (evaluate host bindings (.binary (.arithmetic op) l r) s).1 = intArithmetic op a b :=
    (evaluate_binary _ left right).trans (applyArithmetic_of_whole? op hv hw)
  exact {
    sum := by
      rw [arithmetic]
      exact exactInt_spec _
    difference := by
      rw [arithmetic]
      exact exactInt_spec _
    product := by
      rw [arithmetic]
      exact exactInt_spec _
    negative := by
      rw [evaluate_negation left]
      exact applyNegation_of_whole? hv
    size := by
      rw [evaluate_absolute left]
      exact absolute_of_whole? hv
    quotient_by_zero := by
      rw [arithmetic]
      exact intArithmetic_by_zero_iff.1
    remainder_by_zero := by
      rw [arithmetic]
      exact intArithmetic_by_zero_iff.2
    quotient := by
      intro nonzero fits
      obtain ⟨q, r, quotient, remainder, floored⟩ := intArithmetic_quotient nonzero fits
      simp only [arithmetic]
      have zero : r = 0 ↔ r.toInt = 0 := by rw [← Int64.toInt_inj, Int64.toInt_zero]
      refine ⟨q, r, quotient, remainder, floored.quotient_eq, ?_, ?_, floored.abs_lt, floored.exact⟩
      · rw [← floored.quotient_eq]
        exact eq_sub_of_add_eq' floored.exact.symm
      · rw [zero]
        exact floored.sign_eq
    least_quotient := by
      rintro rfl rfl
      rw [arithmetic, arithmetic]
      exact intArithmetic_least_quotient
    power := by
      intro nonneg most
      rw [arithmetic]
      exact intArithmetic_power nonneg most
    great_power := by
      intro great
      rw [arithmetic]
      exact intArithmetic_great_power great
    negative_power := by
      intro negative
      rw [arithmetic, intArithmetic_negative_power negative]
      split
      · rfl
      · exact ⟨_, rfl⟩
    true_quotient := by
      rw [arithmetic, intArithmetic_true_quotient]
      split
      · rfl
      · exact ⟨_, rfl⟩
    answer := by
      intro op
      cases op with
      | arithmetic op =>
        rw [arithmetic]
        exact intArithmetic_answer op
      | order op =>
        obtain ⟨order, decided⟩ := Option.isSome_iff_exists.1 (isSome_order?_of_whole? hv hw)
        rw [evaluate_binary (.order op) left right]
        exact .inl ⟨.bool (op.accepts order), by simp only [applyOrder, decided]⟩
      | equality | logic =>
        rw [evaluate_binary _ left right]
        exact .inl ⟨_, rfl⟩ }

end Expressions

/-- The least number and the negative of a boolean, whose quotient does not fit. -/
theorem integer_arithmetic_of_least :
    let l : Expr := .literal (.int Int64.minValue)
    let r : Expr := .unary .neg (.literal (.bool true))
    evaluate .core .empty l () = (.ok (.int Int64.minValue), ()) ∧
      evaluate .core .empty r () = (.ok (.int (-1)), ()) ∧
      (Value.int Int64.minValue).whole? = some Int64.minValue ∧ (Value.int (-1)).whole? = some (-1) ∧
      IntegerArithmetic Int64.minValue (-1) (fun op => (evaluate .core .empty (.binary op l r) ()).1)
        (evaluate .core .empty (.unary .neg l) ()).1 (evaluate .core .empty (.call "abs" [l]) ()).1 :=
  ⟨rfl, rfl, rfl, rfl, integer_arithmetic rfl rfl rfl rfl⟩

end Backtest.Language
