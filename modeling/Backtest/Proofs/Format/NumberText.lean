import Backtest.Format.Json
import Backtest.Proofs.Number.Doubles

/-!
# Numbers in documents

The text of every finite double is a number, wherever in a document it stands, and the number is a double
again. A text in full ends with a fraction, so that its digits are divided by a power of ten; a text with an
exponent stands for the shortest decimal itself, which is not above the greatest double.
-/

namespace Backtest.Format.Json

open Backtest.Number

/-- Whether a number ends before these characters, as it does before a comma, a line break or the end. -/
def EndsNumber (rest : List Char) : Prop :=
  ∀ c ∈ rest.head?, c = ',' ∨ c = '\n'

variable {rest whole fraction ds : List Char} {c : Char}

/-- A number ends with the text. -/
theorem endsNumber_nil : EndsNumber [] :=
  fun _ h => by cases h

/-- A number ends in front of a comma or a new line. -/
theorem endsNumber_cons (h : c = ',' ∨ c = '\n') : EndsNumber (c :: rest) :=
  fun d hd => by
    cases hd
    exact h

/-! ### Runs of digits -/

/-- Whether a run of digits ends before these characters. -/
def EndsDigits (rest : List Char) : Prop :=
  ∀ c ∈ rest.head?, ¬c.isDigit

/-- Where a number ends its digits end. -/
theorem EndsNumber.endsDigits (ends : EndsNumber rest) : EndsDigits rest := by
  intro c hc
  rcases ends c hc with rfl | rfl <;> decide

/-- Digits end in front of what is none. -/
theorem endsDigits_cons (h : ¬c.isDigit) : EndsDigits (c :: rest) :=
  fun d hd => by
    cases hd
    exact h

/-- Digits are taken up to where they end. -/
theorem takeWhile_digits (all : ∀ d ∈ ds, d.isDigit) (ends : EndsDigits rest) :
    (ds ++ rest).takeWhile Char.isDigit = ds := by
  rw [List.takeWhile_append_of_pos all]
  cases rest with
  | nil => exact List.append_nil _
  | cons c rest =>
    rw [List.takeWhile_cons_of_neg (ends c rfl), List.append_nil]

/-! ### The parts of a number -/

/-- Behind a point the digits are read as a fraction. -/
theorem readFraction?_point (all : ∀ d ∈ fraction, d.isDigit) (some_digit : fraction ≠ [])
    (ends : EndsDigits rest) :
    readFraction? ('.' :: (fraction ++ rest)) = some (fraction, rest) := by
  simp only [readFraction?, takeWhile_digits all ends]
  rw [if_neg (by simpa using some_digit), List.drop_left]

/-- Without a point there is no fraction. -/
theorem readFraction?_none (no_point : ∀ c ∈ rest.head?, c ≠ '.') :
    readFraction? rest = some ([], rest) := by
  unfold readFraction?
  split
  · exact absurd rfl (no_point '.' rfl)
  · rfl

/-- Where a number ends there is no exponent. -/
theorem readExponent?_none (ends : EndsNumber rest) : readExponent? rest = some (0, rest) := by
  cases rest with
  | nil => rfl
  | cons c rest =>
    rw [readExponent?, if_neg]
    rcases ends c rfl with rfl | rfl <;> decide

/-- An exponent is read as it is written, behind its sign. -/
theorem readExponent?_signed (power : Int) (ends : EndsDigits rest) :
    readExponent? ('e' :: (if power < 0 then '-' else '+') :: (digits power.natAbs ++ rest)) =
      some (power, rest) := by
  have all : ∀ d ∈ digits power.natAbs, d.isDigit := fun _ => isDigit_of_mem_digits
  have nonempty : ¬(digits power.natAbs).isEmpty := by
    simpa using digits_ne_nil power.natAbs
  rw [readExponent?, if_pos (Or.inl rfl)]
  by_cases negative : power < 0
  · simp only [if_pos negative, splitSign, takeWhile_digits all ends, if_neg nonempty,
      List.drop_left, digitsValue_digits, if_true]
    congr 2
    omega
  · simp only [if_neg negative, splitSign, takeWhile_digits all ends, if_neg nonempty,
      List.drop_left, digitsValue_digits, Bool.false_eq_true, if_false]
    congr 2
    omega

/-- The sign in front of a number. -/
def minus (negative : Bool) : List Char :=
  if negative then ['-'] else []

/-- A number is read as its parts are. -/
theorem readNumber?_of_parts {negative : Bool} {exponent : Int} {behind after : List Char}
    (all : ∀ d ∈ whole, d.isDigit) (some_digit : whole ≠ [])
    (no_zero : whole.head? = some '0' → whole.length = 1) (ends : EndsDigits behind)
    (point : readFraction? behind = some (fraction, after))
    (power : readExponent? after = some (exponent, rest)) :
    readNumber? (minus negative ++ whole ++ behind) =
      some (⟨negative, whole, fraction, exponent⟩, rest) := by
  obtain ⟨first, others, rfl⟩ := List.exists_cons_of_ne_nil some_digit
  have digit : first ≠ '-' := by
    rintro rfl
    exact absurd (all '-' (List.mem_cons_self ..)) (by decide)
  have no_zero' : ((first :: others).isEmpty ||
      ((first :: others).head? == some '0' && decide (1 < (first :: others).length))) = false := by
    rw [List.isEmpty_cons, Bool.false_or, Bool.and_eq_false_iff]
    by_cases zero : first = '0'
    · right
      have := no_zero (by rw [zero]; rfl)
      simp [this]
    · left
      simpa using zero
  have body : (first :: others ++ behind).takeWhile Char.isDigit = first :: others :=
    takeWhile_digits all ends
  cases negative with
  | true =>
    change readNumber? ('-' :: (first :: others ++ behind)) = _
    rw [readNumber?]
    simp only [body, no_zero', Bool.false_eq_true, if_false, List.drop_left, point, power,
      Option.bind_eq_bind, Option.bind_some, pure]
  | false =>
    change readNumber? (first :: others ++ behind) = _
    rw [readNumber?]
    · simp only [body, no_zero', Bool.false_eq_true, if_false, List.drop_left, point, power,
        Option.bind_eq_bind, Option.bind_some, pure]
    · intro _ same
      cases same
      exact absurd rfl digit

/-! ### Values -/

/-- Digits that fit into sixty-four bits are all gathered. -/
theorem gather_eq (n : Nat) (all : ∀ d ∈ ds, d.isDigit)
    (fits : n * 10 ^ ds.length + digitsValue ds < 2 ^ 64) :
    gather n ds = (n * 10 ^ ds.length + digitsValue ds, 0) := by
  induction ds generalizing n with
  | nil => simp [gather, digitsValue]
  | cons d ds ih =>
    have value : n * 10 ^ (d :: ds).length + digitsValue (d :: ds) =
        (10 * n + digitValue d) * 10 ^ ds.length + digitsValue ds := by
      rw [digitsValue_cons, List.length_cons, Nat.pow_succ', ← Nat.mul_assoc, Nat.mul_comm n 10,
        Nat.add_mul, Nat.add_assoc]
    rw [value] at fits ⊢
    have next : 10 * n + digitValue d < 2 ^ 64 := by
      have : 10 * n + digitValue d ≤ (10 * n + digitValue d) * 10 ^ ds.length :=
        Nat.le_mul_of_pos_right _ (Nat.pow_pos (by decide))
      omega
    rw [gather]
    simp only [Nat.pow_eq]
    rw [if_pos next, ih _ (fun d hd => all d (List.mem_cons_of_mem _ hd)) fits]

/-- A number of sixty-four bits times a power of ten is a double if the power is negative, or if the
coefficient has at most seventeen digits and the product is not above the greatest double. -/
theorem scaled?_isSome {n : Nat} {e : Int}
    (small : 0 ≤ e → 0 < n ∧ n ≤ 10 ^ 17 ∧ n * 10 ^ e.toNat ≤ greatestDouble) :
    (scaled? n e).isSome := by
  unfold scaled?
  by_cases negative : e < 0
  · simp [negative]
  · obtain ⟨pos, short, below⟩ := small (by omega)
    obtain ⟨finite, product⟩ := isInf_scaled pos short below
    have power : (e.toNat : Int) = e := Int.toNat_of_nonneg (by omega)
    rw [power] at product
    simp only [negative, if_false, if_neg (show ¬308 < e by omega), product, Bool.false_eq_true]
    rfl

/-- A number whose digits fit into sixty-four bits is a double if its scaled digits are. -/
theorem toFloat?_isSome {p : NumberParts} (all : ∀ d ∈ p.whole ++ p.fraction, d.isDigit)
    (fits : digitsValue (p.whole ++ p.fraction) < 2 ^ 64)
    (scaled : (scaled? (digitsValue (p.whole ++ p.fraction))
      (p.exponent - p.fraction.length)).isSome) :
    p.toFloat?.isSome := by
  have value := digitsValue_append p.whole p.fraction
  have front : digitsValue p.whole ≤ digitsValue (p.whole ++ p.fraction) := by
    have : digitsValue p.whole ≤ digitsValue p.whole * 10 ^ p.fraction.length :=
      Nat.le_mul_of_pos_right _ (Nat.pow_pos (by decide))
    omega
  have whole : gather 0 p.whole = (digitsValue p.whole, 0) := by
    rw [gather_eq 0 (fun d hd => all d (List.mem_append_left _ hd)) (by omega), Nat.zero_mul,
      Nat.zero_add]
  have fraction : gather (digitsValue p.whole) p.fraction =
      (digitsValue (p.whole ++ p.fraction), 0) := by
    rw [gather_eq _ (fun d hd => all d (List.mem_append_right _ hd)) (by omega), value]
  have exponent : ((0 : Nat) : Int) - ((p.fraction.length - 0 : Nat) : Int) + p.exponent =
      p.exponent - p.fraction.length := by
    omega
  obtain ⟨x, scaled⟩ := Option.isSome_iff_exists.1 scaled
  unfold NumberParts.toFloat?
  rw [whole]
  simp only [fraction, exponent, scaled, Option.bind_eq_bind, Option.bind_some, pure,
    Option.isSome_some]

/-! ### Texts of doubles -/

/-- A text that is read as a number that is a double, wherever a number may end. -/
structure SpellsDouble (cs : List Char) : Prop where
  first : ∃ c ∈ cs.head?, c = '-' ∨ c.isDigit
  reads : ∃ p : NumberParts, p.toFloat?.isSome ∧
    ∀ rest, EndsNumber rest → readNumber? (cs ++ rest) = some (p, rest)

/-- A number begins with a minus or a digit. -/
theorem first_of_minus {negative : Bool} {behind : List Char} (all : ∀ d ∈ whole, d.isDigit)
    (some_digit : whole ≠ []) :
    ∃ c ∈ (minus negative ++ whole ++ behind).head?, c = '-' ∨ c.isDigit := by
  obtain ⟨d, others, rfl⟩ := List.exists_cons_of_ne_nil some_digit
  cases negative with
  | true => exact ⟨'-', rfl, Or.inl rfl⟩
  | false => exact ⟨d, rfl, Or.inr (all d (List.mem_cons_self ..))⟩

/-- A text with a point in it, by its digits in front of the point and behind it. -/
structure PointText (cs whole fraction : List Char) : Prop where
  text : cs = whole ++ '.' :: fraction
  some_digit : whole ≠ []
  some_place : fraction ≠ []
  no_zero : whole.head? = some '0' → whole.length = 1
  all : ∀ c ∈ whole ++ fraction, c.isDigit
  fits : digitsValue (whole ++ fraction) < 2 ^ 64

/-- A whole number is written with a zero behind the point. -/
theorem positionalText_whole {d : Decimal} (exponent : 0 ≤ d.exponent)
    (short : d.coefficient * 10 ^ d.exponent.toNat < 10 ^ 16) :
    PointText (positionalText d) (digits (d.coefficient * Nat.pow 10 d.exponent.toNat)) ['0'] where
  text := by rw [positionalText, if_pos exponent]
  some_digit := digits_ne_nil _
  some_place := List.cons_ne_nil _ _
  no_zero := by
    intro zero
    obtain ⟨others, split⟩ := List.head?_eq_some_iff.1 zero
    rw [split, digits_of_zero_head split]
    rfl
  all := by
    intro c hc
    rcases List.mem_append.1 hc with hc | hc
    · exact isDigit_of_mem_digits hc
    · rw [List.mem_singleton.1 hc]
      rfl
  fits := by
    have zero : digitsValue ['0'] = 0 := rfl
    rw [digitsValue_append, digitsValue_digits, zero, Nat.pow_eq, List.length_singleton]
    omega

/-- Behind the point stand as many digits as the exponent says, filled up with zeros in front. Without zeros filled
in the digits are those of the coefficient, which begin with no zero. -/
theorem positionalText_places {d : Decimal} (exponent : ¬ 0 ≤ d.exponent)
    (short : d.coefficient ≤ 10 ^ 17) :
    let places := (-d.exponent).toNat
    let padded := paddedDigits (places + 1) d.coefficient
    PointText (positionalText d) (padded.take (padded.length - places))
      (padded.drop (padded.length - places)) := by
  intro places padded
  have length : padded.length = max (places + 1) (digits d.coefficient).length :=
    length_paddedDigits ..
  have joined : padded.take (padded.length - places) ++ padded.drop (padded.length - places) = padded :=
    List.take_append_drop ..
  refine
    { text := by rw [positionalText, if_neg exponent], some_digit := ?some_digit,
      some_place := ?some_place, no_zero := fun zero => ?no_zero, all := ?all, fits := ?fits }
  case some_digit =>
    rw [← List.length_pos_iff, List.length_take]
    omega
  case some_place =>
    rw [← List.length_pos_iff, List.length_drop]
    omega
  case no_zero =>
    rw [List.length_take]
    by_cases long : (digits d.coefficient).length ≤ places + 1
    · omega
    · have unpadded : padded = digits d.coefficient := by
        simp only [padded, paddedDigits]
        rw [show places + 1 - (digits d.coefficient).length = 0 by omega, List.replicate_zero,
          List.nil_append]
      rw [List.head?_take, if_neg (by omega), unpadded] at zero
      obtain ⟨others, split⟩ := List.head?_eq_some_iff.1 zero
      rw [split, digits_of_zero_head split] at long
      simp at long
  case all =>
    rw [joined]
    exact fun c hc => isDigit_of_mem_paddedDigits hc
  case fits =>
    rw [joined, digitsValue_paddedDigits]
    omega

/-- Digits around a point spell a double, with or without a minus. -/
theorem PointText.spellsDouble {cs : List Char} (point : PointText cs whole fraction) (negative : Bool) :
    SpellsDouble (minus negative ++ cs) := by
  have all_whole : ∀ d ∈ whole, d.isDigit := fun d hd => point.all d (List.mem_append_left _ hd)
  have all_fraction : ∀ d ∈ fraction, d.isDigit := fun d hd =>
    point.all d (List.mem_append_right _ hd)
  have places := List.length_pos_iff.2 point.some_place
  rw [point.text, ← List.append_assoc]
  refine ⟨first_of_minus all_whole point.some_digit, ⟨negative, whole, fraction, 0⟩, ?_,
    fun rest ends => ?_⟩
  · exact toFloat?_isSome point.all point.fits (scaled?_isSome (by simp only; omega))
  · rw [List.append_assoc]
    exact readNumber?_of_parts all_whole point.some_digit point.no_zero (endsDigits_cons (by decide))
      (readFraction?_point all_fraction point.some_place ends.endsDigits) (readExponent?_none ends)

/-- A decimal in positional notation spells a double. -/
theorem spellsDouble_positional (negative : Bool) {d : Decimal} (short : d.coefficient ≤ 10 ^ 17)
    (whole_short : 0 ≤ d.exponent → d.coefficient * 10 ^ d.exponent.toNat < 10 ^ 16) :
    SpellsDouble (minus negative ++ positionalText d) := by
  by_cases exponent : 0 ≤ d.exponent
  · exact (positionalText_whole exponent (whole_short exponent)).spellsDouble negative
  · exact (positionalText_places exponent short).spellsDouble negative

/-- A decimal that is not above the greatest double has a value. -/
theorem scaled?_of_atMost {d : Decimal} (pos : 0 < d.coefficient) (short : d.coefficient ≤ 10 ^ 17)
    (below : d.AtMost greatestDouble 1) : (scaled? d.coefficient d.exponent).isSome := by
  apply scaled?_isSome
  intro nonneg
  refine ⟨pos, short, ?_⟩
  unfold Decimal.AtMost scaleQuotient at below
  rw [if_neg (by omega)] at below
  simpa using below

/-- The first digit of a decimal with an exponent, and what is read behind it: a single digit has no point
behind it. -/
theorem exists_point_scientificText {d : Decimal} {first : Char} {others : List Char}
    (split : digits d.coefficient = first :: others) :
    let power := d.exponent + (digits d.coefficient).length - 1
    let tail := 'e' :: (if power < 0 then '-' else '+') :: digits power.natAbs
    ∃ point, scientificText d = [first] ++ (point ++ tail) ∧
      ∀ rest, EndsDigits (point ++ (tail ++ rest)) ∧
        readFraction? (point ++ (tail ++ rest)) = some (others, tail ++ rest) := by
  intro power tail
  have all : ∀ c ∈ first :: others, c.isDigit := fun c hc => isDigit_of_mem_digits (split ▸ hc)
  have ends_tail (rest : List Char) : EndsDigits (tail ++ rest) := endsDigits_cons (by decide)
  cases others with
  | nil =>
    refine ⟨[], by simp only [scientificText, split, tail, power]; rfl, fun rest => ?_⟩
    exact ⟨ends_tail rest, readFraction?_none fun c hc => by cases hc; decide⟩
  | cons c others =>
    refine ⟨'.' :: c :: others, by simp only [scientificText, split, tail, power]; rfl,
      fun rest => ?_⟩
    have places : ∀ d ∈ c :: others, d.isDigit := fun d hd => all d (List.mem_cons_of_mem _ hd)
    exact ⟨endsDigits_cons (by decide),
      readFraction?_point places (List.cons_ne_nil _ _) (ends_tail rest)⟩

/-- A decimal in scientific notation spells a double. -/
theorem spellsDouble_scientific (negative : Bool) {d : Decimal} (pos : 0 < d.coefficient)
    (short : d.coefficient ≤ 10 ^ 17) (below : d.AtMost greatestDouble 1) :
    SpellsDouble (minus negative ++ scientificText d) := by
  obtain ⟨first, others, split⟩ := List.exists_cons_of_ne_nil (digits_ne_nil d.coefficient)
  have all : ∀ c ∈ first :: others, c.isDigit := fun c hc => isDigit_of_mem_digits (split ▸ hc)
  have all_first : ∀ c ∈ [first], c.isDigit := fun c hc =>
    all c (List.mem_singleton.1 hc ▸ List.mem_cons_self ..)
  have value : digitsValue (first :: others) = d.coefficient := by
    rw [← split, digitsValue_digits]
  let power := d.exponent + (digits d.coefficient).length - 1
  have exponent : power - others.length = d.exponent := by
    simp only [power, split, List.length_cons]
    omega
  have double : (⟨negative, [first], others, power⟩ : NumberParts).toFloat?.isSome := by
    apply toFloat?_isSome
    · exact all
    · change digitsValue (first :: others) < _
      omega
    · change (scaled? (digitsValue (first :: others)) (power - others.length)).isSome
      rw [value, exponent]
      exact scaled?_of_atMost pos short below
  obtain ⟨point, text, fraction⟩ := exists_point_scientificText split
  rw [text, ← List.append_assoc]
  refine ⟨first_of_minus all_first (List.cons_ne_nil _ _), _, double, fun rest ends => ?_⟩
  obtain ⟨ends_point, fraction⟩ := fraction rest
  rw [List.append_assoc _ _ rest, List.append_assoc point]
  exact readNumber?_of_parts all_first (List.cons_ne_nil _ _) (fun _ => rfl) ends_point fraction
    (readExponent?_signed power ends.endsDigits)

/-- The text of a finite double in a document is a number that is a double. -/
theorem spellsDouble_text {x : Float} (finite : x.isFinite) :
    SpellsDouble (documentFormat.text x).toList := by
  obtain ⟨negative, s, e, parts, small, exponent⟩ := exists_finite_of_isFinite finite
  have text : (documentFormat.text x).toList = minus negative ++ documentFormat.magnitude s e := by
    rw [FloatFormat.text, parts]
    simp only [String.toList_ofList]
    rfl
  rw [text, FloatFormat.magnitude]
  change SpellsDouble (minus negative ++ (if s = 0 || _ then _ else _))
  by_cases zero : s = 0
  · have none : shortest documentFormat.tie s e = ⟨0, 0⟩ := by rw [shortest, if_pos zero]
    simp only [zero, decide_true, Bool.true_or, if_true]
    rw [← zero, none]
    exact spellsDouble_positional negative (by decide) (by decide)
  · obtain ⟨pos, short, below⟩ :=
      shortest_bounds (Nat.pos_of_ne_zero zero) small exponent documentFormat.tie
    simp only [zero, decide_false, Bool.false_or]
    generalize shortest documentFormat.tie s e = d at pos short below ⊢
    split
    · rename_i positional
      refine spellsDouble_positional negative short fun nonneg => ?_
      have point : d.exponent + digitCount d.coefficient ≤ 16 := by
        simp only [documentFormat, Bool.and_eq_true, decide_eq_true_eq] at positional
        exact positional.2
      have some_digit : 0 < digitCount d.coefficient := by
        rw [digitCount, if_neg (by omega)]
        exact length_digits_pos _
      calc d.coefficient * 10 ^ d.exponent.toNat <
            10 ^ digitCount d.coefficient * 10 ^ d.exponent.toNat :=
          Nat.mul_lt_mul_of_pos_right ((digitCount_le_iff some_digit).1 (Nat.le_refl _))
            (Nat.pow_pos (by decide))
        _ = 10 ^ (digitCount d.coefficient + d.exponent.toNat) := (Nat.pow_add ..).symm
        _ ≤ 10 ^ 16 := Nat.pow_le_pow_right (by decide) (by omega)
    · exact spellsDouble_scientific negative pos short below

/-- A double is read from its document just if it is finite. -/
theorem float?_ofFloat_isSome_iff (x : Float) : (ofFloat x).float?.isSome ↔ x.isFinite := by
  constructor
  · intro read
    unfold ofFloat at read
    split at read
    · rename_i finite
      exact isFinite_of_ofFloat_eq_finite finite
    · cases read
  · intro finite
    obtain ⟨p, double, reads⟩ := (spellsDouble_text finite).reads
    obtain ⟨negative, s, e, parts, -⟩ := exists_finite_of_isFinite finite
    have read := reads [] endsNumber_nil
    rw [List.append_nil] at read
    rw [ofFloat, parts]
    simpa only [float?, read] using double

end Backtest.Format.Json
