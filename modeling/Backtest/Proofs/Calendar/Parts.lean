import Backtest.Proofs.Calendar.DateText

/-!
# Dates by their parts

A year with a month and a day that it has are the parts of the date they make up, so that a date made from
parts lies in its year and dates of one year are ordered by month and day. The day of the week goes round with
the number of a date.
-/

namespace Backtest.Calendar

/-! ### Days of the week -/

/-- There are seven weekdays. -/
theorem Weekday.index_lt (w : Weekday) : w.index < 7 := by
  cases w <;> decide

/-- A weekday is told by its index. -/
theorem Weekday.ofIndex_index (w : Weekday) : ofIndex w.index = w := by
  cases w <;> rfl

/-- An index below seven is that of its weekday. -/
theorem Weekday.index_ofIndex : ∀ n < 7, (ofIndex n).index = n := by
  decide

namespace Date

variable {d : Date} {w : Weekday}

/-- The number of a day is made up by the years, the months and the days before it. -/
@[simp] theorem number_ofParts (year : Int) (month day : Nat) :
    (ofParts year month day).number = daysBeforeYear year + daysBeforeMonth year month + day :=
  rfl

/-- Adding days adds to the number of a day. -/
@[simp] theorem number_addDays (d : Date) (n : Int) : (d.addDays n).number = d.number + n :=
  rfl

/-- Days are added in two steps as in one. -/
theorem addDays_addDays (d : Date) (m n : Int) : (d.addDays m).addDays n = d.addDays (m + n) := by
  simp only [addDays, Int.add_assoc]

/-- The index of a weekday is a remainder of the number of its day. -/
theorem index_weekday (d : Date) : (d.weekday.index : Int) = (d.number - 1) % 7 := by
  rw [weekday, Weekday.index_ofIndex _ (by omega)]
  omega

/-- A day has a weekday if and only if its number has the remainder of that weekday. -/
theorem weekday_eq_iff : d.weekday = w ↔ (d.number - 1) % 7 = w.index := by
  rw [← index_weekday]
  constructor
  · rintro rfl
    rfl
  · intro same
    rw [← d.weekday.ofIndex_index, ← w.ofIndex_index, Int.ofNat_inj.1 same]

/-- Days on which an exchange may trade. -/
def IsWorkday (d : Date) : Prop :=
  d.weekday ≠ .saturday ∧ d.weekday ≠ .sunday

/-- A day on a weekday other than Saturday and Sunday is a workday. -/
theorem isWorkday_of_weekday (weekday : d.weekday = w) (work : w ≠ .saturday ∧ w ≠ .sunday) : d.IsWorkday := by
  rwa [IsWorkday, weekday]

/-- A day is a workday if and only if its number has one of the first five remainders. -/
theorem isWorkday_iff : d.IsWorkday ↔ (d.number - 1) % 7 < 5 := by
  rw [IsWorkday, ne_eq, ne_eq, weekday_eq_iff, weekday_eq_iff, Weekday.index, Weekday.index]
  omega

end Date

/-! ### Years -/

/-- No year begins before an earlier one. -/
theorem daysBeforeYear_mono {year other : Int} (h : year ≤ other) : daysBeforeYear year ≤ daysBeforeYear other := by
  unfold daysBeforeYear
  omega

/-- A date lies in the year whose days are around its number. -/
theorem Date.year_eq_of_bounds {d : Date} {year : Int} (after : daysBeforeYear year < d.number)
    (before : d.number ≤ daysBeforeYear (year + 1)) : d.year = year := by
  obtain ⟨start, stop⟩ := d.year_bounds
  rcases Int.lt_trichotomy d.year year with earlier | same | later
  · have := daysBeforeYear_mono (Int.add_one_le_of_lt earlier)
    omega
  · exact same
  · have := daysBeforeYear_mono (Int.add_one_le_of_lt later)
    omega

/-! ### Months -/

/-- In a common year and in a leap year every day of a month lies in the year and in that month. -/
theorem month_sample : ∀ sample ∈ [(1 : Int), 4], ∀ month ≤ 12, 0 < month → ∀ day ≤ daysInMonth sample month,
    0 < day → daysBeforeMonth sample month + day ≤ daysBeforeMonth sample 13 ∧
      monthOfDay sample (daysBeforeMonth sample month + day) = month := by
  decide +kernel

/-- A month and a day of it that a year has. -/
structure HasDay (year : Int) (month day : Nat) : Prop where
  january : 1 ≤ month
  december : month ≤ 12
  first : 1 ≤ day
  last : day ≤ daysInMonth year month

namespace HasDay

variable {year : Int} {month day : Nat} (h : HasDay year month day)

include h

/-- The day is one of the year, and its month is the one given. -/
theorem spec : daysBeforeMonth year month + day ≤ daysBeforeMonth year 13 ∧
    monthOfDay year (daysBeforeMonth year month + day) = month := by
  obtain ⟨sample, mem, same⟩ := exists_sample year
  have before := daysBeforeMonth_of_isLeap same
  have last := h.last
  rw [daysInMonth_of_isLeap same] at last
  have spec := month_sample sample mem month h.december h.january day last h.first
  unfold monthOfDay at spec ⊢
  rwa [before]

/-- A day that is made of parts has the year that it is made of. -/
theorem year_ofParts : (Date.ofParts year month day).year = year := by
  have within := h.spec.1
  have first := h.first
  refine Date.year_eq_of_bounds ?_ ?_
  · rw [Date.number_ofParts]
    omega
  · rw [daysBeforeYear_succ, Date.number_ofParts]
    omega

/-- Its place in the year is told by its month and day. -/
theorem dayOfYear_ofParts : (Date.ofParts year month day).dayOfYear = daysBeforeMonth year month + day := by
  rw [Date.dayOfYear, h.year_ofParts, Date.number_ofParts]
  omega

/-- It has the month that it is made of. -/
theorem month_ofParts : (Date.ofParts year month day).month = month := by
  have unfolded : (Date.ofParts year month day).month =
      monthOfDay (Date.ofParts year month day).year (Date.ofParts year month day).dayOfYear := rfl
  rw [unfolded, h.year_ofParts, h.dayOfYear_ofParts, h.spec.2]

/-- It has the day of the month that it is made of. -/
theorem day_ofParts : (Date.ofParts year month day).day = day := by
  rw [Date.day, h.month_ofParts, h.year_ofParts, h.dayOfYear_ofParts, Nat.add_sub_cancel_left]

/-- Parts of a day in a year of the calendar make a date. -/
theorem ofParts?_eq (least : firstYear ≤ year) (greatest : year ≤ lastYear) :
    Date.ofParts? year month day = some (Date.ofParts year month day) := by
  rw [Date.ofParts?, if_pos ⟨least, greatest, h.january, h.december, h.first, h.last⟩]

end HasDay

/-- The days of a month that every year has. -/
theorem HasDay.of_le {month day : Nat} (january : 1 ≤ month) (december : month ≤ 12) (first : 1 ≤ day)
    (short : day ≤ 28) (year : Int) : HasDay year month day := by
  refine ⟨january, december, first, Nat.le_trans short ?_⟩
  unfold daysInMonth
  split
  · split <;> decide
  all_goals decide

end Backtest.Calendar
