import Backtest.Calendar.DateText
import Backtest.Proofs.Language.Tokens

/-!
# Dates and their texts

The year, the month and the day of a date give the date back, and so does its text, for every date of the
calendar.
-/

namespace Backtest.Calendar

open Backtest.Number

/-! ### Months -/

/-- The length of a month depends on the year only by its leap day. -/
theorem daysInMonth_of_isLeap {year other : Int} (same : isLeap year = isLeap other) :
    daysInMonth year = daysInMonth other := by
  funext month
  unfold daysInMonth
  rw [same]

/-- So do the days before a month. -/
theorem daysBeforeMonth_of_isLeap {year other : Int} (same : isLeap year = isLeap other) :
    daysBeforeMonth year = daysBeforeMonth other := by
  funext month
  induction month with
  | zero => rfl
  | succ month ih =>
    cases month with
    | zero => rfl
    | succ month => rw [daysBeforeMonth, daysBeforeMonth, ih, daysInMonth_of_isLeap same]

/-- A year has the months of the first year or of the fourth. -/
theorem exists_sample (year : Int) : ∃ sample ∈ [1, 4], isLeap year = isLeap sample := by
  cases leap : isLeap year with
  | false => exact ⟨1, by decide, by decide⟩
  | true => exact ⟨4, by decide, by decide⟩

/-- The month of a day within a year. -/
def monthOfDay (year : Int) (n : Nat) : Nat :=
  1 + ((List.range 11).filter fun m => daysBeforeMonth year (m + 2) < n).length

/-- In a common year and in a leap year the month of a day begins before it and ends after it. -/
theorem monthOfDay_sample : ∀ sample ∈ [(1 : Int), 4], ∀ n ≤ daysBeforeMonth sample 13, 0 < n →
    monthOfDay sample n ≤ 12 ∧ daysBeforeMonth sample (monthOfDay sample n) < n ∧
      n ≤ daysBeforeMonth sample (monthOfDay sample n) + daysInMonth sample (monthOfDay sample n) := by
  decide +kernel

/-- A day within a year lies in its month. -/
theorem monthOfDay_bounds {year : Int} {n : Nat} (pos : 0 < n) (within : n ≤ daysBeforeMonth year 13) :
    monthOfDay year n ≤ 12 ∧ daysBeforeMonth year (monthOfDay year n) < n ∧
      n ≤ daysBeforeMonth year (monthOfDay year n) + daysInMonth year (monthOfDay year n) := by
  obtain ⟨sample, mem, same⟩ := exists_sample year
  have before := daysBeforeMonth_of_isLeap same
  have month : monthOfDay year n = monthOfDay sample n := by
    unfold monthOfDay
    rw [before]
  rw [month, before, daysInMonth_of_isLeap same]
  exact monthOfDay_sample sample mem n (before ▸ within) pos

/-- A year has a day more if it is a leap year. -/
theorem daysBeforeYear_succ (year : Int) :
    daysBeforeYear (year + 1) = daysBeforeYear year + daysBeforeMonth year 13 := by
  have length : daysBeforeMonth year 13 = if isLeap year then 366 else 365 := by
    cases leap : isLeap year with
    | false =>
      have same : isLeap year = isLeap 1 := by rw [leap]; decide
      rw [daysBeforeMonth_of_isLeap same]
      decide
    | true =>
      have same : isLeap year = isLeap 4 := by rw [leap]; decide
      rw [daysBeforeMonth_of_isLeap same]
      decide
  rw [length]
  unfold daysBeforeYear isLeap
  split
  · rename_i leap
    simp only [Bool.and_eq_true, Bool.or_eq_true, beq_iff_eq, bne_iff_ne] at leap
    omega
  · rename_i common
    simp only [Bool.and_eq_true, Bool.or_eq_true, beq_iff_eq, bne_iff_ne] at common
    omega

/-! ### Parts of a date -/

namespace Date

variable {d : Date}

/-- A date lies between the day before its year and the last day of its year. -/
theorem year_bounds (d : Date) :
    daysBeforeYear d.year < d.number ∧ d.number ≤ daysBeforeYear (d.year + 1) := by
  unfold year daysBeforeYear
  simp only
  generalize d.number = n
  split
  · omega
  · split <;> omega

/-- A day of a year is one of the days of its months. -/
theorem dayOfYear_bounds (d : Date) : 0 < d.dayOfYear ∧ d.dayOfYear ≤ daysBeforeMonth d.year 13 := by
  have bounds := d.year_bounds
  rw [daysBeforeYear_succ] at bounds
  unfold dayOfYear
  omega

/-- The day of a date lies within its month, and with its year and month it gives the date. -/
theorem parts_spec (d : Date) :
    1 ≤ d.month ∧ d.month ≤ 12 ∧ 1 ≤ d.day ∧ d.day ≤ daysInMonth d.year d.month ∧
      ofParts d.year d.month d.day = d := by
  obtain ⟨pos, within⟩ := d.dayOfYear_bounds
  obtain ⟨december, after, before⟩ := monthOfDay_bounds pos within
  have month : d.month = monthOfDay d.year d.dayOfYear := rfl
  have january : 1 ≤ d.month := Nat.le_add_right 1 _
  rw [← month] at december after before
  have day : d.day = d.dayOfYear - daysBeforeMonth d.year d.month := rfl
  refine ⟨january, december, by omega, by omega, ?_⟩
  have bounds := d.year_bounds
  have number : d.dayOfYear = (d.number - daysBeforeYear d.year).toNat := rfl
  have same : daysBeforeYear d.year + daysBeforeMonth d.year d.month + d.day = d.number := by omega
  rw [ofParts, same]

/-- The month and the day of a date have two digits at most. -/
theorem parts_lt (d : Date) : d.month < 10 ^ 2 ∧ d.day < 10 ^ 2 := by
  obtain ⟨-, december, -, last, -⟩ := d.parts_spec
  have days : daysInMonth d.year d.month ≤ 31 := by
    unfold daysInMonth
    split
    · split <;> decide
    all_goals decide
  omega

/-- Whether a date is one of the calendar. -/
def InCalendar (d : Date) : Prop :=
  ofParts firstYear 1 1 ≤ d ∧ d ≤ last

/-- The year of a date of the calendar is one of its years. -/
theorem InCalendar.year (h : d.InCalendar) : firstYear ≤ d.year ∧ d.year ≤ lastYear := by
  obtain ⟨first, last⟩ := h
  obtain ⟨after, before⟩ := d.year_bounds
  have first_number : daysBeforeYear firstYear < d.number := by
    have start : (ofParts firstYear 1 1).number = daysBeforeYear firstYear + 1 := by decide
    have : (ofParts firstYear 1 1).number ≤ d.number := first
    omega
  have last_number : d.number ≤ daysBeforeYear (lastYear + 1) := by
    have stop : Date.last.number = daysBeforeYear (lastYear + 1) := by decide
    have : d.number ≤ Date.last.number := last
    omega
  unfold daysBeforeYear at *
  omega

/-- A date is made of its year, month and day. -/
theorem ofParts?_parts (h : d.InCalendar) : ofParts? d.year d.month d.day = some d := by
  obtain ⟨january, december, first, last, parts⟩ := d.parts_spec
  obtain ⟨least, greatest⟩ := h.year
  rw [ofParts?, if_pos ⟨least, greatest, january, december, first, last⟩, parts]

end Date

/-! ### Texts -/

/-- Nothing is dropped from a text that does not begin with a blank. -/
theorem dropBlanks_of_head? {cs : List Char} (ink : ∀ c ∈ cs.head?, Text.isBlank c = false) :
    Text.dropBlanks cs = cs := by
  cases cs with
  | nil => rfl
  | cons c cs => rw [Text.dropBlanks, List.dropWhile_cons_of_neg (by simp [ink c rfl])]

/-- Nothing is dropped in front of a digit or a sign. -/
theorem dropBlanks_cons {c : Char} (h : c.isDigit ∨ c = '-' ∨ c = '+') (cs : List Char) :
    Text.dropBlanks (c :: cs) = c :: cs := by
  refine dropBlanks_of_head? fun d front => ?_
  cases front
  rcases h with digit | rfl | rfl
  · exact Language.isBlank_eq_false (Or.inr digit)
  · decide
  · decide

/-- Nothing is dropped in front of digits. -/
theorem dropBlanks_digits {ds : List Char} (all : ∀ d ∈ ds, d.isDigit) (some_digit : ds ≠ [])
    (cs : List Char) : Text.dropBlanks (ds ++ cs) = ds ++ cs := by
  obtain ⟨d, ds, rfl⟩ := List.exists_cons_of_ne_nil some_digit
  exact dropBlanks_cons (Or.inl (all d (List.mem_cons_self ..))) _

/-- Every number has a digit. -/
theorem paddedDigits_ne_nil (k n : Nat) : paddedDigits k n ≠ [] := by
  intro none
  have length := length_paddedDigits k n
  have := length_digits_pos n
  rw [none, List.length_nil] at length
  omega

/-- Digits are taken up to a character that is none, if there are no more than may be taken. -/
theorem spanDigits_digits {ds : List Char} (all : ∀ d ∈ ds, d.isDigit) {most : Nat}
    (enough : ds.length ≤ most) {rest : List Char}
    (ends : ds.length < most → ∀ c ∈ rest.head?, ¬c.isDigit) :
    spanDigits most (ds ++ rest) = (ds, rest) := by
  have taken : ((ds ++ rest).take most).takeWhile Char.isDigit = ds := by
    rw [List.take_append, List.take_of_length_le enough, List.takeWhile_append_of_pos all]
    by_cases full : ds.length = most
    · rw [full, Nat.sub_self, List.take_zero, List.takeWhile_nil, List.append_nil]
    · have some_left : 0 < most - ds.length := by omega
      have stop := ends (by omega)
      cases rest with
      | nil => rw [List.take_nil, List.takeWhile_nil, List.append_nil]
      | cons c rest =>
        obtain ⟨left, hleft⟩ : ∃ left, most - ds.length = left + 1 :=
          ⟨most - ds.length - 1, by omega⟩
        rw [hleft, List.take_succ_cons, List.takeWhile_cons_of_neg (stop c rfl), List.append_nil]
  rw [spanDigits, taken, List.drop_left]

/-- A number that fits into some digits is read back from them. -/
theorem readDigits?_paddedDigits {k n : Nat} (fits : n < 10 ^ k) (pos : 0 < k) (rest : List Char) :
    readDigits? k (paddedDigits k n ++ rest) = some (n, rest) := by
  have all : ∀ d ∈ paddedDigits k n, d.isDigit := fun _ => isDigit_of_mem_paddedDigits
  have length := length_paddedDigits_of_lt fits pos
  have some_digit := paddedDigits_ne_nil k n
  rw [readDigits?, dropBlanks_digits all some_digit,
    spanDigits_digits all (Nat.le_of_eq length) (fun short => absurd short (by omega))]
  split
  · rename_i none
    exact absurd (Prod.mk.inj none).1 some_digit
  · rename_i taken
    obtain ⟨rfl, rfl⟩ := Prod.mk.inj taken
    rw [digitsValue_paddedDigits]

/-- The digits of a year behind its sign. -/
theorem spanDigits_year (n : Nat) (rest : List Char) :
    spanDigits (paddedDigits 4 n ++ '-' :: rest).length (paddedDigits 4 n ++ '-' :: rest) =
      (paddedDigits 4 n, '-' :: rest) := by
  refine spanDigits_digits (fun _ => isDigit_of_mem_paddedDigits) ?_ fun _ c hc => ?_
  · rw [List.length_append]
    omega
  · cases hc
    decide

/-- A year without a sign is a number of four digits at most. -/
theorem readYear?_of_isDigit {c : Char} (digit : c.isDigit) (cs : List Char) :
    readYear? (c :: cs) = (readDigits? 4 (c :: cs)).map fun read => ((read.1 : Int), read.2) := by
  rw [readYear?, dropBlanks_cons (Or.inl digit)]
  split
  · rename_i same
    cases same
    exact absurd digit (by decide)
  · rename_i same
    cases same
    exact absurd digit (by decide)
  · rfl

/-- A year is read as it is written. -/
theorem readYear?_yearText (year : Int) (rest : List Char) :
    readYear? (yearText year ++ '-' :: rest) = some (year, '-' :: rest) := by
  obtain ⟨d, ds, digits⟩ := List.exists_cons_of_ne_nil (paddedDigits_ne_nil 4 year.natAbs)
  have value : digitsValue (d :: ds) = year.natAbs := by rw [← digits, digitsValue_paddedDigits]
  have span := spanDigits_year year.natAbs rest
  rw [digits] at span
  by_cases negative : year < 0
  · have text : yearText year ++ '-' :: rest = '-' :: (d :: ds ++ '-' :: rest) := by
      simp only [yearText, if_pos negative, digits, List.cons_append, List.nil_append]
    rw [text, readYear?, dropBlanks_cons (Or.inr (Or.inl rfl))]
    simp only [span, value]
    congr 2
    omega
  by_cases long : 9999 < year
  · have text : yearText year ++ '-' :: rest = '+' :: (d :: ds ++ '-' :: rest) := by
      simp only [yearText, if_neg negative, if_pos long, digits, List.cons_append, List.nil_append]
    rw [text, readYear?, dropBlanks_cons (Or.inr (Or.inr rfl))]
    simp only [span, value]
    congr 2
    omega
  · have text : yearText year ++ '-' :: rest = d :: ds ++ '-' :: rest := by
      simp only [yearText, if_neg negative, if_neg long, digits, List.nil_append]
    have digit : d.isDigit := isDigit_of_mem_paddedDigits (digits ▸ List.mem_cons_self ..)
    rw [text, List.cons_append, readYear?_of_isDigit digit, ← List.cons_append, ← digits,
      readDigits?_paddedDigits (by omega) (by decide)]
    simp only [Option.map_some]
    congr 2
    omega

/-- A date of the calendar is read as it is written, whatever follows it. -/
theorem readDateWith?_chars {skip : List Char → List Char} (keeps : ∀ cs, skip ('-' :: cs) = '-' :: cs)
    {d : Date} (h : d.InCalendar) (rest : List Char) :
    readDateWith? skip (d.chars ++ rest) = some (d, rest) := by
  obtain ⟨month, day⟩ := d.parts_lt
  have shape : d.chars ++ rest = yearText d.year ++ '-' :: (paddedDigits 2 d.month ++
      '-' :: (paddedDigits 2 d.day ++ rest)) := by
    simp only [Date.chars, List.cons_append, List.append_assoc]
  rw [shape, readDateWith?, readYear?_yearText]
  simp only [Option.bind_eq_bind, Option.bind_some, keeps, expect?, if_true,
    readDigits?_paddedDigits month (by decide), readDigits?_paddedDigits day (by decide), Date.ofParts?_parts h]
  rfl

/-- A date of the calendar is read as it is written. -/
theorem Date.ofLenientChars?_chars {d : Date} (h : d.InCalendar) :
    Date.ofLenientChars? d.chars = some d := by
  have read := readDateWith?_chars (fun _ => dropBlanks_cons (Or.inr (Or.inl rfl)) _) h []
  rw [List.append_nil] at read
  rw [Date.ofLenientChars?, read]
  rfl

end Backtest.Calendar
