import Backtest.Number.Digits
import Mathlib.Algebra.Group.Nat.Defs

/-!
# Runs of digits

The digits of a number have its value, and as many of them as the number needs; a zero stands in front of
other digits only where a width asks for it.
-/

namespace Backtest.Number

variable {n k : Nat} {d : Char} {ds es : List Char}

/-- The digits of a number are digits. -/
theorem isDigit_of_mem_digits (h : d ∈ digits n) : d.isDigit :=
  Nat.isDigit_of_mem_toDigits (by decide) (by decide) h

/-- Every number has a digit. -/
theorem digits_ne_nil (n : Nat) : digits n ≠ [] :=
  Nat.toDigits_ne_nil

/-! ### Values -/

/-- The value of digits is that of the standard library. -/
theorem digitsValue_eq (ds : List Char) : digitsValue ds = Nat.ofDigitChars 10 ds 0 :=
  rfl

/-- The digits of a number have its value. -/
theorem digitsValue_digits (n : Nat) : digitsValue (digits n) = n :=
  Nat.ofDigitChars_ten_toDigits

/-- Digits in front of others count by the power of ten of their number. -/
theorem digitsValue_append (ds es : List Char) :
    digitsValue (ds ++ es) = digitsValue ds * 10 ^ es.length + digitsValue es := by
  rw [digitsValue_eq, Nat.ofDigitChars_append, Nat.ofDigitChars_eq_ofDigitChars_zero, Nat.mul_comm]
  rfl

/-- So does one digit. -/
theorem digitsValue_cons (d : Char) (ds : List Char) :
    digitsValue (d :: ds) = digitValue d * 10 ^ ds.length + digitsValue ds := by
  have one : digitsValue [d] = digitValue d := Nat.zero_add _
  rw [← List.singleton_append, digitsValue_append, one]

/-- Zeros have no value. -/
theorem digitsValue_zeros (k : Nat) : digitsValue (List.replicate k '0') = 0 := by
  rw [digitsValue_eq, Nat.ofDigitChars_replicate_zero, Nat.mul_zero]

/-- A digit has a value below ten. -/
theorem digitValue_lt (h : d.isDigit) : digitValue d < 10 := by
  have greatest : d.toNat ≤ 57 := (Char.isDigit_iff_toNat.1 h).2
  have zero : '0'.toNat = 48 := rfl
  rw [digitValue, zero]
  omega

/-- Some digits have a value below the power of ten of their number. -/
theorem digitsValue_lt (all : ∀ d ∈ ds, d.isDigit) : digitsValue ds < 10 ^ ds.length := by
  induction ds with
  | nil => decide
  | cons d ds ih =>
    have digit := digitValue_lt (all d List.mem_cons_self)
    have rest := ih fun e he => all e (List.mem_cons_of_mem _ he)
    rw [digitsValue_cons, List.length_cons, Nat.pow_succ]
    have : digitValue d * 10 ^ ds.length ≤ 9 * 10 ^ ds.length := Nat.mul_le_mul_right _ (by omega)
    omega

/-- A digit is told by its value. -/
theorem digitValue_injective {c d : Char} (hc : c.isDigit) (hd : d.isDigit)
    (same : digitValue c = digitValue d) : c = d := by
  have zero : '0'.toNat = 48 := rfl
  obtain ⟨least, -⟩ := Char.isDigit_iff_toNat.1 hc
  obtain ⟨least', -⟩ := Char.isDigit_iff_toNat.1 hd
  rw [digitValue, digitValue, zero] at same
  exact Char.toNat_inj.1 (by omega)

/-- Digits are settled by their number and their value, of which the first is the quotient by a power of ten and the
others are the remainder. -/
theorem digitsValue_injective (hds : ∀ d ∈ ds, d.isDigit) (hes : ∀ e ∈ es, e.isDigit)
    (length : ds.length = es.length) (value : digitsValue ds = digitsValue es) : ds = es := by
  induction ds generalizing es with
  | nil => exact (List.length_eq_zero_iff.1 length.symm).symm
  | cons d ds ih =>
    cases es with
    | nil => cases length
    | cons e es =>
      obtain ⟨hd, hds⟩ := List.forall_mem_cons.1 hds
      obtain ⟨he, hes⟩ := List.forall_mem_cons.1 hes
      have length : ds.length = es.length := Nat.succ.inj length
      have small := digitsValue_lt hds
      have small' := digitsValue_lt hes
      rw [digitsValue_cons, digitsValue_cons, length] at value
      rw [length] at small
      have pos : 0 < 10 ^ es.length := Nat.pow_pos (by decide)
      have first : digitValue d = digitValue e := by
        have quotient := congrArg (· / 10 ^ es.length) value
        simpa only [Nat.mul_comm _ (10 ^ es.length), Nat.mul_add_div pos, Nat.div_eq_of_lt small,
          Nat.div_eq_of_lt small', Nat.add_zero] using quotient
      rw [first] at value
      rw [digitValue_injective hd he first, ih hds hes length (Nat.add_left_cancel value)]

/-! ### Lengths -/

/-- A number has at most some digits if and only if it is below that power of ten. -/
theorem length_digits_le_iff (pos : 0 < k) : (digits n).length ≤ k ↔ n < 10 ^ k :=
  Nat.length_toDigits_le_iff (by decide) pos

/-- Every number has at least one digit. -/
theorem length_digits_pos (n : Nat) : 0 < (digits n).length :=
  Nat.length_toDigits_pos

/-- A number is below the power of ten of its number of digits. -/
theorem lt_pow_length_digits (n : Nat) : n < 10 ^ (digits n).length :=
  (length_digits_le_iff (length_digits_pos n)).1 (Nat.le_refl _)

/-- It is not below any smaller power of ten, unless it is zero. -/
theorem pow_le_of_lt_length_digits (pos : 0 < n) (h : k < (digits n).length) : 10 ^ k ≤ n := by
  cases k with
  | zero => exact pos
  | succ k =>
    rw [← Nat.not_lt, ← length_digits_le_iff k.succ_pos]
    omega

/-- Digits of a number do not begin with a zero, unless they are those of zero. -/
theorem digits_of_zero_head (h : digits n = '0' :: ds) : ds = [] := by
  by_cases more : ds = []
  · exact more
  · have value := digitsValue_digits n
    have small : n < 10 ^ ds.length := by
      have rest : digitsValue ds < 10 ^ ds.length := digitsValue_lt fun d hd =>
        isDigit_of_mem_digits (h ▸ List.mem_cons_of_mem _ hd)
      have zero : digitValue '0' = 0 := rfl
      rw [h, digitsValue_cons, zero, Nat.zero_mul, Nat.zero_add] at value
      rwa [value] at rest
    have short := (length_digits_le_iff (List.length_pos_iff.2 more)).2 small
    rw [h, List.length_cons] at short
    omega

/-- The count of digits says the same. -/
theorem digitCount_le_iff (pos : 0 < k) : digitCount n ≤ k ↔ n < 10 ^ k := by
  rw [digitCount]
  split
  · rename_i zero
    simp [zero, Nat.pow_pos (show 0 < 10 by decide)]
  · exact length_digits_le_iff pos

/-! ### Widths -/

/-- Padded digits are digits. -/
theorem isDigit_of_mem_paddedDigits (h : d ∈ paddedDigits k n) : d.isDigit := by
  rcases List.mem_append.1 h with h | h
  · rw [(List.mem_replicate.1 h).2]
    rfl
  · exact isDigit_of_mem_digits h

/-- Padding changes nothing of the value. -/
theorem digitsValue_paddedDigits (k n : Nat) : digitsValue (paddedDigits k n) = n := by
  rw [paddedDigits, digitsValue_append, digitsValue_zeros, Nat.zero_mul, Nat.zero_add,
    digitsValue_digits]

/-- Digits are padded up to the width and not cut. -/
theorem length_paddedDigits (k n : Nat) :
    (paddedDigits k n).length = max k (digits n).length := by
  rw [paddedDigits, List.length_append, List.length_replicate]
  omega

/-- A number that fits has as many padded digits as the width says. -/
theorem length_paddedDigits_of_lt (fits : n < 10 ^ k) (pos : 0 < k) : (paddedDigits k n).length = k := by
  have := (length_digits_le_iff pos).2 fits
  rw [length_paddedDigits]
  omega

/-- Digits are those of their value, filled up to their number. -/
theorem paddedDigits_digitsValue (all : ∀ d ∈ ds, d.isDigit) (some_digit : ds ≠ []) :
    paddedDigits ds.length (digitsValue ds) = ds := by
  have short := (length_digits_le_iff (List.length_pos_iff.2 some_digit)).2 (digitsValue_lt all)
  refine digitsValue_injective (fun _ => isDigit_of_mem_paddedDigits) all ?_
    (digitsValue_paddedDigits _ _)
  rw [length_paddedDigits]
  omega

end Backtest.Number
