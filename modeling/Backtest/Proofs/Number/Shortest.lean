import Backtest.Number.Shortest
import Backtest.Proofs.Number.Digits

/-!
# The size of shortest decimals

The search for the shortest decimal of a double ends with seventeen digits at the latest, for then the grid
is finer than the interval of what reads back is wide. What is found lies in the interval, so that it is
not zero and not above the upper end.
-/

namespace Backtest.Number

section Scaling

variable {base num den : Nat}

/-- One more power of the base is one more factor. -/
theorem scaleQuotient_add (base : Nat) (power : Int) (k num den : Nat) :
    (scaleQuotient base (power + k) num den).1 * (scaleQuotient base power num den).2 =
      (scaleQuotient base power num den).1 * base ^ k * (scaleQuotient base (power + k) num den).2 := by
  unfold scaleQuotient
  by_cases below : power + k < 0
  · have exponent : (-power).toNat = (-(power + k)).toNat + k := by omega
    rw [if_pos below, if_pos (show power < 0 by omega), exponent]
    simp only [Nat.pow_eq, Nat.pow_add]
    ac_rfl
  by_cases negative : power < 0
  · have exponent : (-power).toNat + (power + k).toNat = k := by omega
    have factors : base ^ k = base ^ (-power).toNat * base ^ (power + k).toNat := by
      rw [← Nat.pow_add, exponent]
    rw [if_neg below, if_pos negative]
    simp only [Nat.pow_eq, factors]
    ac_rfl
  · have exponent : (power + k).toNat = power.toNat + k := by omega
    rw [if_neg below, if_neg negative, exponent]
    simp only [Nat.pow_eq, Nat.pow_add]
    ac_rfl

/-- Scaling keeps a numerator positive. -/
theorem scaleQuotient_fst_pos (power : Int) (base_pos : 0 < base) (num_pos : 0 < num) (den : Nat) :
    0 < (scaleQuotient base power num den).1 := by
  unfold scaleQuotient
  split
  · exact num_pos
  · exact Nat.mul_pos num_pos (Nat.pow_pos base_pos)

/-- Scaling keeps a denominator positive. -/
theorem scaleQuotient_snd_pos (power : Int) (base_pos : 0 < base) (num : Nat) (den_pos : 0 < den) :
    0 < (scaleQuotient base power num den).2 := by
  unfold scaleQuotient
  split
  · exact Nat.mul_pos den_pos (Nat.pow_pos base_pos)
  · exact den_pos

/-- A quotient from one on is divided by the power of ten of its digits but one. -/
theorem decimalExponent_of_le (den_pos : 0 < den) (large : den ≤ num) :
    let scaled := scaleQuotient 10 (-decimalExponent num den) num den
    scaled.2 ≤ scaled.1 ∧ scaled.1 < 10 * scaled.2 := by
  intro scaled
  have quotient : 0 < num / den := Nat.div_pos large den_pos
  let count := (digits (num / den)).length
  have count_pos : 0 < count := length_digits_pos _
  have exponent : -decimalExponent num den = -((count - 1 : Nat) : Int) := by
    rw [decimalExponent, if_pos large, digitCount, if_neg (by omega)]
    omega
  have least : 10 ^ (count - 1) ≤ num / den := pow_le_of_lt_length_digits quotient (by omega)
  have most : num / den < 10 ^ count := lt_pow_length_digits _
  have values : scaled = (num, den * 10 ^ (count - 1)) := by
    simp only [scaled, exponent]
    unfold scaleQuotient
    split
    · simp only [Nat.pow_eq, Int.neg_neg, Int.toNat_natCast]
    · have zero : count - 1 = 0 := by omega
      simp [zero]
  rw [values]
  constructor
  · calc den * 10 ^ (count - 1) ≤ den * (num / den) := Nat.mul_le_mul_left _ least
      _ ≤ num := Nat.mul_div_le ..
  · calc num < 10 ^ count * den := (Nat.div_lt_iff_lt_mul den_pos).1 most
      _ = 10 * (den * 10 ^ (count - 1)) := by
        conv => lhs; rw [show count = count - 1 + 1 by omega, Nat.pow_succ]
        ac_rfl

/-- A quotient below one is multiplied by the power of ten of the zeros in front of it. -/
theorem decimalExponent_of_lt (num_pos : 0 < num) (small : num < den) :
    let scaled := scaleQuotient 10 (-decimalExponent num den) num den
    scaled.2 ≤ scaled.1 ∧ scaled.1 < 10 * scaled.2 := by
  intro scaled
  have quotient : 0 < (den - 1) / num := Nat.div_pos (by omega) num_pos
  let count := (digits ((den - 1) / num)).length
  have count_pos : 0 < count := length_digits_pos _
  have exponent : -decimalExponent num den = (count : Int) := by
    rw [decimalExponent, if_neg (by omega), digitCount, if_neg (by omega), Int.neg_neg]
  have least : 10 ^ (count - 1) ≤ (den - 1) / num := pow_le_of_lt_length_digits quotient (by omega)
  have most : (den - 1) / num < 10 ^ count := lt_pow_length_digits _
  have values : scaled = (num * 10 ^ count, den) := by
    simp only [scaled, exponent]
    unfold scaleQuotient
    rw [if_neg (by omega)]
    rfl
  rw [values]
  constructor
  · have := (Nat.div_lt_iff_lt_mul num_pos).1 most
    rw [Nat.mul_comm] at this
    simp only
    omega
  · have below : num * 10 ^ (count - 1) ≤ den - 1 :=
      Nat.le_trans (Nat.mul_le_mul_left _ least) (Nat.mul_div_le ..)
    have tenfold : num * 10 ^ count = 10 * (num * 10 ^ (count - 1)) := by
      conv => lhs; rw [show count = count - 1 + 1 by omega, Nat.pow_succ]
      ac_rfl
    simp only [tenfold]
    omega

/-- The first decimal digit of a quotient stands where it is said to stand. -/
theorem decimalExponent_spec (num_pos : 0 < num) (den_pos : 0 < den) :
    let scaled := scaleQuotient 10 (-decimalExponent num den) num den
    scaled.2 ≤ scaled.1 ∧ scaled.1 < 10 * scaled.2 := by
  by_cases large : den ≤ num
  · exact decimalExponent_of_le den_pos large
  · exact decimalExponent_of_lt num_pos (by omega)

end Scaling

/-! ### The search -/

namespace ReadBack

variable {r : ReadBack} {tie : Tie} {c : Nat} {e : Int}

/-- An interval with its value inside. -/
structure Proper (r : ReadBack) : Prop where
  den_pos : 0 < r.den
  low_pos : 0 < r.low
  low_lt : r.low < r.value
  lt_high : r.value < r.high

/-- What reads back lies between the bounds. -/
theorem bounds_of_contains {num : Nat} (h : r.contains num) : r.low ≤ num ∧ num ≤ r.high := by
  unfold contains at h
  split at h
  · simpa using h
  · simp only [Bool.and_eq_true, decide_eq_true_eq] at h
    omega

/-- A coefficient that is chosen reads back, and lies beside the value. -/
theorem choose?_eq_some (h : r.choose? tie = some c) :
    r.contains (c * r.den) ∧ c ≤ r.value / r.den + 1 := by
  unfold choose? at h
  simp only at h
  split at h
  · rename_i down up
    split at h
    · cases h
      exact ⟨down, by omega⟩
    split at h
    · cases h
      exact ⟨up, by omega⟩
    split at h
    · cases h
      exact ⟨up, by omega⟩
    · cases h
      split
      · exact ⟨down, by omega⟩
      · exact ⟨up, by omega⟩
  · rename_i down _
    cases h
    exact ⟨down, by omega⟩
  · rename_i _ up
    cases h
    exact ⟨up, by omega⟩
  · cases h

/-- On a grid that is finer than the interval is wide, a neighbour of the value reads back. -/
theorem exists_choose? (proper : r.Proper) (fine : r.low + r.den < r.high) :
    ∃ c, r.choose? tie = some c := by
  obtain ⟨den_pos, -, low_lt, lt_high⟩ := proper
  have down : r.value / r.den * r.den ≤ r.value := Nat.div_mul_le_self ..
  have up : r.value < (r.value / r.den + 1) * r.den := by
    rw [Nat.mul_comm]
    exact Nat.lt_mul_div_succ _ den_pos
  have step : (r.value / r.den + 1) * r.den = r.value / r.den * r.den + r.den := Nat.succ_mul ..
  have inside : r.contains (r.value / r.den * r.den) ∨ r.contains ((r.value / r.den + 1) * r.den) := by
    unfold contains
    split <;> simp only [Bool.and_eq_true, decide_eq_true_eq] <;> omega
  unfold choose?
  simp only
  split
  · split
    · exact ⟨_, rfl⟩
    split
    · exact ⟨_, rfl⟩
    split <;> exact ⟨_, rfl⟩
  · exact ⟨_, rfl⟩
  · exact ⟨_, rfl⟩
  · rename_i noDown noUp
    simp [noDown, noUp] at inside

/-- A search ends on the first grid that has a choice. -/
theorem search_spec (j grids : Nat) (small : j < grids)
    (found : ∃ c, (r.inUnits (e - j)).choose? tie = some c) :
    ∃ i c, i ≤ j ∧ (r.inUnits (e - i)).choose? tie = some c ∧ r.search tie e grids = ⟨c, e - i⟩ := by
  induction grids generalizing e j with
  | zero => omega
  | succ grids ih =>
    rw [search]
    cases here : (r.inUnits e).choose? tie with
    | some c => exact ⟨0, c, by omega, by simpa using here, by simp⟩
    | none =>
      cases j with
      | zero =>
        obtain ⟨c, found⟩ := found
        simp [here] at found
      | succ j =>
        have shifted (i : Nat) : e - ((i + 1 : Nat) : Int) = e - 1 - i := by omega
        rw [shifted] at found
        obtain ⟨i, c, below, chosen, result⟩ := ih j (by omega) found
        refine ⟨i + 1, c, by omega, ?_, ?_⟩
        · rwa [shifted]
        · rw [shifted, ← result]

/-- In other units all bounds are multiplied by the same. -/
theorem inUnits_eq (r : ReadBack) (e : Int) :
    ∃ unit, 0 < unit ∧ (r.inUnits e).low = r.low * unit ∧ (r.inUnits e).value = r.value * unit ∧
      (r.inUnits e).high = r.high * unit ∧
      scaleQuotient 10 (-e) r.value r.den = (r.value * unit, (r.inUnits e).den) ∧
      scaleQuotient 10 (-e) r.high r.den = (r.high * unit, (r.inUnits e).den) := by
  refine ⟨(scaleQuotient 10 (-e) 1 r.den).1, ?_, rfl, rfl, rfl, ?_, ?_⟩
  · exact scaleQuotient_fst_pos _ (by decide) Nat.one_pos _
  all_goals
    unfold inUnits scaleQuotient
    split <;> simp

/-- In other units proper bounds remain proper. -/
theorem Proper.inUnits (proper : r.Proper) (e : Int) : (r.inUnits e).Proper := by
  obtain ⟨unit, unit_pos, low, value, high, -, -⟩ := r.inUnits_eq e
  refine ⟨?_, ?_, ?_, ?_⟩
  · exact scaleQuotient_snd_pos _ (by decide) _ proper.den_pos
  · rw [low]
    exact Nat.mul_pos proper.low_pos unit_pos
  · rw [low, value]
    exact Nat.mul_lt_mul_of_pos_right proper.low_lt unit_pos
  · rw [value, high]
    exact Nat.mul_lt_mul_of_pos_right proper.lt_high unit_pos

/-- How large the value is on the grids from its first digit on. -/
theorem Proper.value_inUnits (proper : r.Proper) (i : Nat) :
    let grid := r.inUnits (decimalExponent r.value r.den - i)
    10 ^ i * grid.den ≤ grid.value ∧ grid.value < 10 ^ (i + 1) * grid.den := by
  intro grid
  have value_pos : 0 < r.value := Nat.lt_trans proper.low_pos proper.low_lt
  obtain ⟨least, most⟩ := decimalExponent_spec value_pos proper.den_pos
  have step := scaleQuotient_add 10 (-decimalExponent r.value r.den) i r.value r.den
  obtain ⟨unit, -, -, value, -, scaled, -⟩ :=
    r.inUnits_eq (decimalExponent r.value r.den - i)
  have power : -(decimalExponent r.value r.den - (i : Int)) = -decimalExponent r.value r.den + i := by
    omega
  rw [power] at scaled
  have first_pos : 0 < (scaleQuotient 10 (-decimalExponent r.value r.den) r.value r.den).2 :=
    scaleQuotient_snd_pos _ (by decide) _ proper.den_pos
  rw [scaled, ← value] at step
  change grid.value * _ = _ * 10 ^ i * grid.den at step
  generalize scaleQuotient 10 (-decimalExponent r.value r.den) r.value r.den = first at *
  constructor
  · apply Nat.le_of_mul_le_mul_right _ first_pos
    calc 10 ^ i * grid.den * first.2 = first.2 * 10 ^ i * grid.den := by ac_rfl
      _ ≤ first.1 * 10 ^ i * grid.den :=
        Nat.mul_le_mul_right _ (Nat.mul_le_mul_right _ least)
      _ = grid.value * first.2 := step.symm
  · apply Nat.lt_of_mul_lt_mul_right (a := first.2)
    have grid_pos : 0 < 10 ^ i * grid.den :=
      Nat.mul_pos (Nat.pow_pos (by decide)) (proper.inUnits _).den_pos
    calc grid.value * first.2 = first.1 * (10 ^ i * grid.den) := by rw [step, Nat.mul_assoc]
      _ < 10 * first.2 * (10 ^ i * grid.den) := Nat.mul_lt_mul_of_pos_right most grid_pos
      _ = 10 ^ (i + 1) * grid.den * first.2 := by rw [Nat.pow_succ]; ac_rfl

/-- A grid sixteen digits behind the first one is finer than an interval that is no narrower than that part
of its value. -/
theorem Proper.fine (proper : r.Proper) (wide : r.value + 10 ^ 16 * r.low < 10 ^ 16 * r.high) :
    let grid := r.inUnits (decimalExponent r.value r.den - (16 : Nat))
    grid.low + grid.den < grid.high := by
  intro grid
  obtain ⟨unit, unit_pos, low, value, high, -, -⟩ :=
    r.inUnits_eq (decimalExponent r.value r.den - (16 : Nat))
  have least : 10 ^ 16 * grid.den ≤ grid.value := (proper.value_inUnits 16).1
  have scaled : grid.value + 10 ^ 16 * grid.low < 10 ^ 16 * grid.high := by
    have := Nat.mul_lt_mul_of_pos_right wide unit_pos
    rw [Nat.add_mul, Nat.mul_assoc, Nat.mul_assoc] at this
    simpa only [grid, low, value, high] using this
  omega

/-- The interval of a positive double holds its value. -/
theorem proper_ofBinary {s : Nat} (pos : 0 < s) (e : Int) : (ofBinary s e).Proper := by
  have unit_pos : 0 < (scaleQuotient 2 (e - 2) 1 1).1 :=
    scaleQuotient_fst_pos _ (by decide) Nat.one_pos _
  refine ⟨?_, ?_, ?_, ?_⟩
  · exact scaleQuotient_snd_pos _ (by decide) _ Nat.one_pos
  · refine Nat.mul_pos ?_ unit_pos
    split <;> omega
  · refine Nat.mul_lt_mul_of_pos_right ?_ unit_pos
    split <;> omega
  · exact Nat.mul_lt_mul_of_pos_right (by omega) unit_pos

/-- How wide the interval is: there are less than ten to the sixteenth doubles between two powers of two. -/
theorem wide_ofBinary {s : Nat} (small : s < 2 ^ 53) (e : Int) :
    (ofBinary s e).value + 10 ^ 16 * (ofBinary s e).low < 10 ^ 16 * (ofBinary s e).high := by
  have unit_pos : 0 < (scaleQuotient 2 (e - 2) 1 1).1 :=
    scaleQuotient_fst_pos _ (by decide) Nat.one_pos _
  change 4 * s * _ + 10 ^ 16 * ((4 * s - _) * _) < 10 ^ 16 * ((4 * s + 2) * _)
  rw [← Nat.mul_assoc, ← Nat.mul_assoc, ← Nat.add_mul]
  refine Nat.mul_lt_mul_of_pos_right ?_ unit_pos
  split
  · rename_i power
    have : s = 2 ^ 52 := power.1
    omega
  · omega

end ReadBack

/-! ### The decimal that is found -/

namespace Decimal

/-- A decimal that is not above a quotient. -/
def AtMost (d : Decimal) (num den : Nat) : Prop :=
  let scaled := scaleQuotient 10 d.exponent d.coefficient 1
  scaled.1 * den ≤ num * scaled.2

/-- A coefficient that is not above the scaled number makes a decimal that is not above it. -/
theorem atMost_of_grid {c num den : Nat} {e : Int}
    (h : c * (scaleQuotient 10 (-e) num den).2 ≤ (scaleQuotient 10 (-e) num den).1) :
    (⟨c, e⟩ : Decimal).AtMost num den := by
  unfold AtMost
  unfold scaleQuotient at h ⊢
  simp only [Nat.pow_eq] at h ⊢
  by_cases negative : e < 0
  · rw [if_neg (by omega), Nat.mul_comm] at h
    simpa [negative, Nat.mul_comm] using h
  · by_cases zero : e = 0
    · subst zero
      simpa using h
    · rw [if_pos (by omega), Int.neg_neg] at h
      have : c * 10 ^ e.toNat * den = c * (den * 10 ^ e.toNat) := by ac_rfl
      simpa [negative, this] using h

/-- Zeros at the end of the coefficient go to the exponent. -/
theorem strip_spec (d : Decimal) (fuel : Nat) :
    ∃ k : Nat, d.coefficient = (d.strip fuel).coefficient * 10 ^ k ∧
      (d.strip fuel).exponent = d.exponent + k := by
  induction fuel generalizing d with
  | zero => exact ⟨0, by simp [strip], by simp [strip]⟩
  | succ fuel ih =>
    rw [strip]
    split
    · rename_i zero
      obtain ⟨k, coefficient, exponent⟩ := ih ⟨d.coefficient / 10, d.exponent + 1⟩
      refine ⟨k + 1, ?_, ?_⟩
      · have tenth : d.coefficient = d.coefficient / 10 * 10 := by omega
        rw [Nat.pow_succ, ← Nat.mul_assoc, ← coefficient]
        exact tenth
      · rw [exponent]
        simp only
        omega
    · exact ⟨0, by simp, by simp⟩

/-- Stripping zeros makes no decimal greater. -/
theorem AtMost.strip {d : Decimal} {num den : Nat} (h : d.AtMost num den) (fuel : Nat) :
    (d.strip fuel).AtMost num den := by
  obtain ⟨k, coefficient, exponent⟩ := d.strip_spec fuel
  generalize d.strip fuel = stripped at *
  have cross := scaleQuotient_add 10 d.exponent k stripped.coefficient 1
  have whole : scaleQuotient 10 d.exponent d.coefficient 1 =
      ((scaleQuotient 10 d.exponent stripped.coefficient 1).1 * 10 ^ k,
        (scaleQuotient 10 d.exponent stripped.coefficient 1).2) := by
    rw [coefficient]
    unfold scaleQuotient
    split
    · rfl
    · simp only [Prod.mk.injEq, and_true]
      ac_rfl
  unfold AtMost at h ⊢
  rw [exponent]
  rw [whole] at h
  have den_pos : 0 < (scaleQuotient 10 d.exponent stripped.coefficient 1).2 :=
    scaleQuotient_snd_pos _ (by decide) _ Nat.one_pos
  generalize scaleQuotient 10 d.exponent stripped.coefficient 1 = first at *
  generalize scaleQuotient 10 (d.exponent + k) stripped.coefficient 1 = second at *
  apply Nat.le_of_mul_le_mul_right _ den_pos
  calc second.1 * den * first.2 = second.1 * first.2 * den := by ac_rfl
    _ = first.1 * 10 ^ k * den * second.2 := by rw [cross]; ac_rfl
    _ ≤ num * first.2 * second.2 := Nat.mul_le_mul_right _ h
    _ = num * second.2 * first.2 := by ac_rfl

/-- A decimal that is not above a number is not above a greater one. -/
theorem AtMost.trans {d : Decimal} {num den bound : Nat} (h : d.AtMost num den) (den_pos : 0 < den)
    (le : num ≤ bound * den) : d.AtMost bound 1 := by
  unfold AtMost at h ⊢
  simp only at h ⊢
  apply Nat.le_of_mul_le_mul_right _ den_pos
  calc _ = _ * den := by rw [Nat.mul_one]
    _ ≤ num * _ := h
    _ ≤ bound * den * _ := Nat.mul_le_mul_right _ le
    _ = _ := by ac_rfl

end Decimal

/-- The search finds a decimal of at most seventeen digits. -/
theorem ReadBack.Proper.search_bounds {r : ReadBack} (proper : r.Proper)
    (wide : r.value + 10 ^ 16 * r.low < 10 ^ 16 * r.high) (tie : Tie) :
    let d := r.search tie (decimalExponent r.value r.den) 18
    0 < d.coefficient ∧ d.coefficient ≤ 10 ^ 17 ∧ d.AtMost r.high r.den := by
  intro d
  have exists_choice : ∃ c, (r.inUnits (decimalExponent r.value r.den - (16 : Nat))).choose? tie = some c :=
    exists_choose? (proper.inUnits _) (proper.fine wide)
  obtain ⟨i, c, few, chosen, result⟩ := search_spec 16 18 (by decide) exists_choice
  obtain ⟨reads, near⟩ := choose?_eq_some chosen
  obtain ⟨low, high⟩ := bounds_of_contains reads
  have grid := proper.inUnits (decimalExponent r.value r.den - i)
  change d = _ at result
  rw [result]
  refine ⟨?_, ?_, ?_⟩
  · rcases Nat.eq_zero_or_pos c with zero | pos
    · rw [zero, Nat.zero_mul] at low
      exact absurd grid.low_pos (by omega)
    · exact pos
  · have : (r.inUnits (decimalExponent r.value r.den - i)).value /
        (r.inUnits (decimalExponent r.value r.den - i)).den < 10 ^ (i + 1) :=
      (Nat.div_lt_iff_lt_mul grid.den_pos).2 (proper.value_inUnits i).2
    have : 10 ^ (i + 1) ≤ 10 ^ 17 := Nat.pow_le_pow_right (by decide) (by omega)
    simp only
    omega
  · obtain ⟨_, -, -, -, scaledHigh, -, scaled⟩ := r.inUnits_eq (decimalExponent r.value r.den - i)
    apply Decimal.atMost_of_grid
    rw [scaled]
    simpa only [← scaledHigh] using high

/-- The exponent of the greatest doubles. -/
def greatestExponent : Nat := 971

/-- The greatest double. -/
def greatestDouble : Nat :=
  (2 ^ 53 - 1) * 2 ^ greatestExponent

/-- The shortest decimal of the greatest double. -/
theorem shortest_greatest (tie : Tie) :
    shortest tie (2 ^ 53 - 1) 971 = ⟨17976931348623157, 292⟩ := by
  cases tie <;> decide +kernel

/-- What rounds to a double below the greatest is below the greatest. -/
theorem high_le_greatestDouble {s : Nat} {e : Int} (small : s < 2 ^ 53) (exponent : e ≤ 971)
    (below : s ≠ 2 ^ 53 - 1 ∨ e ≠ 971) :
    (ReadBack.ofBinary s e).high ≤ greatestDouble * (ReadBack.ofBinary s e).den := by
  change (4 * s + 2) * (scaleQuotient 2 (e - 2) 1 1).1 ≤ _ * (scaleQuotient 2 (e - 2) 1 1).2
  unfold scaleQuotient
  split
  · have pos : 0 < 2 ^ (-(e - 2)).toNat := Nat.pow_pos (by decide)
    have much : 4 * s + 2 ≤ greatestDouble := by
      have : 2 ^ 55 ≤ greatestDouble := by decide +kernel
      omega
    simp only [Nat.mul_one, Nat.pow_eq, Nat.one_mul]
    exact Nat.le_trans much (Nat.le_mul_of_pos_right _ pos)
  · simp only [Nat.one_mul, Nat.pow_eq, Nat.mul_one]
    by_cases top : e = 971
    · subst top
      have last : 2 ^ greatestExponent = 4 * 2 ^ (971 - 2 : Int).toNat := by decide +kernel
      rw [greatestDouble, last]
      generalize 2 ^ (971 - 2 : Int).toNat = unit
      calc (4 * s + 2) * unit ≤ (2 ^ 53 - 1) * 4 * unit := Nat.mul_le_mul_right _ (by omega)
        _ = (2 ^ 53 - 1) * (4 * unit) := Nat.mul_assoc ..
    · calc (4 * s + 2) * 2 ^ (e - 2).toNat ≤ 2 ^ 55 * 2 ^ 968 :=
            Nat.mul_le_mul (by omega) (Nat.pow_le_pow_right (by decide) (by omega))
        _ ≤ greatestDouble := by decide +kernel

/-- The shortest decimal of a positive double is not zero, its coefficient is no more than the seventeenth
power of ten, and it is not above the greatest double. -/
theorem shortest_bounds {s : Nat} {e : Int} (pos : 0 < s) (small : s < 2 ^ 53) (exponent : e ≤ 971)
    (tie : Tie) :
    let d := shortest tie s e
    0 < d.coefficient ∧ d.coefficient ≤ 10 ^ 17 ∧ d.AtMost greatestDouble 1 := by
  intro d
  by_cases greatest : s = 2 ^ 53 - 1 ∧ e = 971
  · obtain ⟨rfl, rfl⟩ := greatest
    simp only [d, shortest_greatest]
    unfold Decimal.AtMost
    decide +kernel
  · have proper := ReadBack.proper_ofBinary pos e
    obtain ⟨found_pos, found_le, atMost⟩ :=
      proper.search_bounds (ReadBack.wide_ofBinary small e) tie
    have found : d = (ReadBack.search (ReadBack.ofBinary s e) tie
        (decimalExponent (ReadBack.ofBinary s e).value (ReadBack.ofBinary s e).den) 18).strip 18 := by
      simp only [d, shortest, if_neg (show ¬s = 0 by omega)]
    have stripped := (atMost.strip 18).trans proper.den_pos
      (high_le_greatestDouble small exponent (by omega))
    rw [← found] at stripped
    obtain ⟨k, coefficient, -⟩ := Decimal.strip_spec (ReadBack.search (ReadBack.ofBinary s e) tie
      (decimalExponent (ReadBack.ofBinary s e).value (ReadBack.ofBinary s e).den) 18) 18
    rw [← found] at coefficient
    rw [coefficient] at found_pos found_le
    have factor : 0 < 10 ^ k := Nat.pow_pos (by decide)
    exact ⟨Nat.pos_of_mul_pos_right found_pos,
      Nat.le_trans (Nat.le_mul_of_pos_right _ factor) found_le, stripped⟩

end Backtest.Number
