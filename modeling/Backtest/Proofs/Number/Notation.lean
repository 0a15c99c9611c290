import Backtest.Number.Reading
import Backtest.Proofs.Number.Digits

/-!
# Texts that are numbers

Digits without a sign are a whole number, which is read if it fits into sixty-four bits (`readInt64?_of_digits`).
Digits with at most one point, and an exponent behind them or none, are a double whatever its magnitude
(`exists_readFloat?`): a point may come first or last, as long as there is a digit.
-/

namespace Backtest.Number

variable {ds body exponent cs : List Char}

/-- What has no sign in front is all digits. -/
theorem splitSign_of_unsigned (unsigned : ∀ c ∈ cs.head?, c ≠ '-' ∧ c ≠ '+') : splitSign cs = (false, cs) := by
  unfold splitSign
  split
  · exact absurd rfl (unsigned '-' rfl).1
  · exact absurd rfl (unsigned '+' rfl).2
  · rfl

/-- Digits are a number if it fits. -/
theorem readInt64?_of_digits (all : ∀ d ∈ ds, d.isDigit) (some_digit : ds ≠ []) :
    readInt64? ds =
      if (digitsValue ds : Int) ≤ Int64.maxValue.toInt then some (Int64.ofInt (digitsValue ds)) else none := by
  have unsigned : ∀ c ∈ ds.head?, c ≠ '-' ∧ c ≠ '+' := fun c first => by
    have digit := all c (List.mem_of_head? first)
    constructor <;> rintro rfl <;> contradiction
  have least : Int64.minValue.toInt ≤ (digitsValue ds : Int) :=
    Int.le_trans (by decide) (Int.natCast_nonneg _)
  have allDigits : ds.all Char.isDigit = true := List.all_eq_true.2 all
  have nonempty : ds.isEmpty = false := by simpa using some_digit
  rw [readInt64?, readInteger?, splitSign_of_unsigned unsigned]
  simp only [nonempty, allDigits, least, Bool.not_true, Bool.or_false, Bool.false_eq_true, if_false, true_and]
  split <;> rfl

/-- Where a run of characters ends. -/
theorem span_append {p : Char → Bool} {front rest : List Char} (all : ∀ c ∈ front, p c)
    (stop : ∀ c ∈ rest.head?, p c = false) :
    (front ++ rest).takeWhile p = front ∧ (front ++ rest).dropWhile p = rest := by
  rw [List.takeWhile_append_of_pos all, List.dropWhile_append_of_pos all]
  cases rest with
  | nil => simp
  | cons c rest => simp [stop c rfl]

/-- Digits with at most one point are those before the point and those behind it. -/
theorem exists_split_at_point (chars : ∀ c ∈ body, c.isDigit ∨ c = '.') (point : body.count '.' ≤ 1) :
    (∀ d ∈ body, d.isDigit) ∨ ∃ whole fraction, body = whole ++ '.' :: fraction ∧
      (∀ d ∈ whole, d.isDigit) ∧ ∀ d ∈ fraction, d.isDigit := by
  by_cases has : '.' ∈ body
  · obtain ⟨whole, fraction, rfl⟩ := List.append_of_mem has
    rw [List.count_append, List.count_cons_self] at point
    have apart {front : List Char} (inside : ∀ c ∈ front, c.isDigit ∨ c = '.') (none : front.count '.' = 0) :
        ∀ d ∈ front, d.isDigit := fun d hd =>
      (inside d hd).resolve_right fun same => List.count_eq_zero.1 none (same ▸ hd)
    exact .inr ⟨whole, fraction, rfl, apart (fun c hc => chars c (by simp [hc])) (by omega),
      apart (fun c hc => chars c (by simp [hc])) (by omega)⟩
  · exact .inl fun d hd => (chars d hd).resolve_right fun same => has (same ▸ hd)

/-- An exponent begins with its mark. -/
theorem head_of_readExponent? {e : Int} (power : readExponent? exponent = some e) :
    ∀ c ∈ exponent.head?, c.isDigit = false ∧ c ≠ '.' := by
  cases exponent with
  | nil => simp
  | cons c rest =>
    rw [readExponent?] at power
    split at power
    · rename_i mark
      rintro d ⟨⟩
      rcases mark with rfl | rfl <;> decide
    · contradiction

/-- A body of digits and a point has no sign in front, whatever exponent follows. -/
theorem splitSign_append (chars : ∀ c ∈ body, c.isDigit ∨ c = '.') (nonempty : body ≠ []) :
    splitSign (body ++ exponent) = (false, body ++ exponent) := by
  obtain ⟨first, others, rfl⟩ := List.exists_cons_of_ne_nil nonempty
  refine splitSign_of_unsigned fun c same => ?_
  obtain rfl : first = c := Option.some.inj same
  rcases chars first List.mem_cons_self with digit | rfl
  · constructor <;> rintro rfl <;> contradiction
  · decide

/-- Digits with an exponent behind them. -/
theorem readFloat?_of_digits {e : Int} (all : ∀ d ∈ ds, d.isDigit) (some_digit : ds ≠ [])
    (power : readExponent? exponent = some e) :
    readFloat? (ds ++ exponent) = some (nearestDecimal false (digitsValue ds) e) := by
  have behind := head_of_readExponent? power
  obtain ⟨taken, dropped⟩ := span_append all fun c first => (behind c first).1
  have nonempty : (ds ++ exponent).isEmpty = false := by simp [some_digit]
  rw [readFloat?, readFloat, splitSign_append (fun c hc => .inl (all c hc)) some_digit]
  simp only [nonempty, taken, dropped, Bool.false_eq_true, if_false]
  cases exponent with
  | nil => simp [some_digit, power, Except.toOption]
  | cons c rest =>
    have other : c ≠ '.' := (behind c rfl).2
    simp [some_digit, power, other, Except.toOption]

/-- Digits with a point among them and an exponent behind them. -/
theorem readFloat?_of_point {whole fraction : List Char} {e : Int} (front : ∀ d ∈ whole, d.isDigit)
    (back : ∀ d ∈ fraction, d.isDigit) (some_digit : whole ++ fraction ≠ [])
    (power : readExponent? exponent = some e) :
    readFloat? (whole ++ '.' :: fraction ++ exponent) =
      some (nearestDecimal false (digitsValue (whole ++ fraction)) (e - fraction.length)) := by
  have behind := head_of_readExponent? power
  have chars : ∀ c ∈ whole ++ '.' :: fraction, c.isDigit ∨ c = '.' := by
    intro c hc
    rcases List.mem_append.1 hc with hc | hc
    · exact .inl (front c hc)
    · rcases List.mem_cons.1 hc with rfl | hc
      · exact .inr rfl
      · exact .inl (back c hc)
  have sign : splitSign (whole ++ '.' :: fraction ++ exponent) = (false, whole ++ '.' :: fraction ++ exponent) :=
    splitSign_append chars (by simp)
  rw [List.append_assoc, List.cons_append] at sign ⊢
  have point : ∀ c ∈ ('.' :: (fraction ++ exponent)).head?, c.isDigit = false := by
    rintro c ⟨⟩
    decide
  obtain ⟨taken, dropped⟩ := span_append front point
  obtain ⟨taken', dropped'⟩ := span_append back fun c first => (behind c first).1
  have nonempty : (whole ++ '.' :: (fraction ++ exponent)).isEmpty = false := by simp
  rw [readFloat?, readFloat, sign]
  simp only [nonempty, taken, dropped, taken', dropped', power, List.isEmpty_eq_false_iff.2 some_digit]
  simp [Except.toOption]

/-- Digits with at most one point are a double, and so they are with an exponent. -/
theorem exists_readFloat? (chars : ∀ c ∈ body, c.isDigit ∨ c = '.') (point : body.count '.' ≤ 1)
    (digit : ∃ d ∈ body, d.isDigit) (power : (readExponent? exponent).isSome) :
    ∃ x, readFloat? (body ++ exponent) = some x := by
  obtain ⟨e, power⟩ := Option.isSome_iff_exists.1 power
  obtain ⟨d, hd, digit⟩ := digit
  rcases exists_split_at_point chars point with all | ⟨whole, fraction, rfl, front, back⟩
  · exact ⟨_, readFloat?_of_digits all (List.ne_nil_of_mem hd) power⟩
  · refine ⟨_, readFloat?_of_point front back (fun none => ?_) power⟩
    obtain ⟨rfl, rfl⟩ := List.append_eq_nil_iff.1 none
    obtain rfl := List.mem_singleton.1 hd
    exact absurd digit (by decide)

end Backtest.Number
