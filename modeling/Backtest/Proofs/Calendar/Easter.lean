import Backtest.Calendar.Holiday
import Backtest.Proofs.Calendar.Parts

/-!
# Easter

The month and day of Easter are those of the ecclesiastical computus, which goes from the golden number by the
epact to the full moon of spring and on to the Sunday behind it. Both ways come down to the same two remainders:
by thirty, how late that full moon is, and by seven, how far it is from there to a Saturday. Where the two are
greatest, the computus moves the full moon a day earlier and the other way takes a week off.
-/

namespace Backtest.Calendar

/-! ### The computus -/

/-- The day of Easter by the ecclesiastical computus, counted from the first of March. -/
def computusDay (year : Int) : Int :=
  let golden := year % 19 + 1
  let century := year / 100 + 1
  let dropped := 3 * century / 4 - 12
  let correction := (8 * century + 5) / 25 - 5
  let sunday := 5 * year / 4 - dropped - 10
  let epact := (11 * golden + 20 + correction - dropped) % 30
  let epact := if epact = 24 ∨ epact = 25 ∧ 11 < golden then epact + 1 else epact
  let full := 44 - epact
  let full := if full < 21 then full + 30 else full
  full + 7 - (sunday + full) % 7

/-- The month and day of a day that is counted from the first of March. -/
def marchParts (day : Int) : Int × Int :=
  if day ≤ 31 then (3, day) else (4, day - 31)

/-! ### The two remainders -/

/-- How many days behind the twenty-first of March the full moon of spring is, exceptions apart. -/
def moonDelay (year : Int) : Int :=
  (19 * (year % 19) + 3 * (year / 100 + 1) / 4 - (8 * (year / 100 + 1) + 5) / 25 + 15) % 30

/-- How many days it is from that full moon to a Saturday. -/
def saturdayDelay (year : Int) : Int :=
  (32 + 2 * (year / 100 % 4) + 2 * (year % 100 / 4) - moonDelay year - year % 100 % 4) % 7

/-- The weeks that are taken off, of which there is one at most. -/
def weeksOff (year : Int) : Int :=
  (year % 19 + 11 * moonDelay year + 22 * saturdayDelay year) / 451

/-- The day of Easter by the two remainders, counted from the first of March. -/
def easterDay (year : Int) : Int :=
  moonDelay year + saturdayDelay year - 7 * weeksOff year + 22

variable {year : Int}

/-- The moon is late by less than thirty days. -/
theorem moonDelay_bounds (year : Int) : 0 ≤ moonDelay year ∧ moonDelay year < 30 := by
  unfold moonDelay
  omega

/-- A Saturday is at most six days away. -/
theorem saturdayDelay_bounds (year : Int) : 0 ≤ saturdayDelay year ∧ saturdayDelay year < 7 := by
  unfold saturdayDelay
  omega

/-- A week is taken off if Easter would be behind the twenty-fifth of April, and late in the moon's cycle also
if it would be on that day. -/
theorem weeksOff_eq (year : Int) :
    weeksOff year =
      if saturdayDelay year = 6 ∧ (moonDelay year = 29 ∨ moonDelay year = 28 ∧ 11 ≤ year % 19) then 1 else 0 := by
  have moon := moonDelay_bounds year
  have saturday := saturdayDelay_bounds year
  unfold weeksOff
  split <;> omega

/-- Easter is between the twenty-second of March and the twenty-fifth of April. -/
theorem easterDay_bounds (year : Int) : 22 ≤ easterDay year ∧ easterDay year ≤ 56 := by
  have moon := moonDelay_bounds year
  have saturday := saturdayDelay_bounds year
  rw [easterDay, weeksOff_eq]
  split <;> omega

/-- The years of whole centuries that are no leap years. -/
theorem droppedDays_eq (century : Int) : century - century / 4 = 3 * (century + 1) / 4 := by
  omega

/-- From the year zero on, divisions that drop the fraction toward zero give the two remainders. -/
theorem easterParts_eq (era : 0 ≤ year) : easterParts year = marchParts (easterDay year) := by
  have moon := moonDelay_bounds year
  have saturday := saturdayDelay_bounds year
  have easter := easterDay_bounds year
  have century : 0 ≤ year / 100 := by omega
  have a : year.tmod 19 = year % 19 := Int.tmod_eq_emod_of_nonneg era
  have b : year.tdiv 100 = year / 100 := Int.tdiv_eq_ediv_of_nonneg era
  have c : year.tmod 100 = year % 100 := Int.tmod_eq_emod_of_nonneg era
  have d : (year / 100).tdiv 4 = year / 100 / 4 := Int.tdiv_eq_ediv_of_nonneg century
  have e : (year / 100).tmod 4 = year / 100 % 4 := Int.tmod_eq_emod_of_nonneg century
  have f : (year / 100 + 8).tdiv 25 = (year / 100 + 8) / 25 := Int.tdiv_eq_ediv_of_nonneg (by omega)
  have g : (year / 100 - (year / 100 + 8) / 25 + 1).tdiv 3 = (8 * (year / 100 + 1) + 5) / 25 := by
    rw [Int.tdiv_eq_ediv_of_nonneg (by omega)]
    omega
  have h : (19 * (year % 19) + year / 100 - year / 100 / 4 - (8 * (year / 100 + 1) + 5) / 25 + 15).tmod 30 =
      moonDelay year := by
    rw [moonDelay, ← droppedDays_eq, ← Int.add_sub_assoc]
    exact Int.tmod_eq_emod_of_nonneg (by omega)
  have i : (year % 100).tdiv 4 = year % 100 / 4 := Int.tdiv_eq_ediv_of_nonneg (by omega)
  have k : (year % 100).tmod 4 = year % 100 % 4 := Int.tmod_eq_emod_of_nonneg (by omega)
  have l : (32 + 2 * (year / 100 % 4) + 2 * (year % 100 / 4) - moonDelay year - year % 100 % 4).tmod 7 =
      saturdayDelay year := Int.tmod_eq_emod_of_nonneg (by omega)
  have m : (year % 19 + 11 * moonDelay year + 22 * saturdayDelay year).tdiv 451 = weeksOff year :=
    Int.tdiv_eq_ediv_of_nonneg (by omega)
  have n : moonDelay year + saturdayDelay year - 7 * weeksOff year + 114 = easterDay year + 92 := by
    rw [easterDay]
    omega
  simp only [easterParts, a, b, c, d, e, f, g, h, i, k, l, m, n]
  rw [Int.tdiv_eq_ediv_of_nonneg (by omega), Int.tmod_eq_emod_of_nonneg (by omega), marchParts]
  split <;> ext <;> omega

/-- A full moon is later by as much as the epact is smaller. -/
theorem epact_eq (year : Int) :
    (11 * (year % 19 + 1) + 20 + ((8 * (year / 100 + 1) + 5) / 25 - 5) - (3 * (year / 100 + 1) / 4 - 12)) % 30 =
      (23 - moonDelay year) % 30 := by
  unfold moonDelay
  omega

/-- The Sunday of the computus, from which the days of the week are counted: the weeks in four centuries, in a
century and in four years are whole but for a remainder. -/
theorem sunday_eq (year : Int) :
    (5 * year / 4 - (3 * (year / 100 + 1) / 4 - 12) - 10) % 7 =
      (6 - moonDelay year - saturdayDelay year) % 7 := by
  have days : 5 * year / 4 = 125 * (year / 100) + year % 100 + year % 100 / 4 := by omega
  have centuries : year / 100 = 4 * (year / 100 / 4) + year / 100 % 4 := by omega
  have years : year % 100 = 4 * (year % 100 / 4) + year % 100 % 4 := by omega
  rw [days, ← droppedDays_eq, saturdayDelay]
  generalize moonDelay year = moon
  generalize year / 100 / 4 = d at *
  generalize year / 100 % 4 = e at *
  generalize year % 100 / 4 = i at *
  generalize year % 100 % 4 = k at *
  rw [centuries, years]
  clear centuries years days
  omega

/-- The two ways to Easter meet. -/
theorem easterDay_eq_computusDay (year : Int) : easterDay year = computusDay year := by
  have moon := moonDelay_bounds year
  have saturday := saturdayDelay_bounds year
  have sunday := sunday_eq year
  simp only [computusDay, epact_eq]
  rw [easterDay, weeksOff_eq]
  generalize 5 * year / 4 - (3 * (year / 100 + 1) / 4 - 12) - 10 = counted at sunday ⊢
  generalize moonDelay year = h at *
  generalize saturdayDelay year = l at *
  split <;> split <;> split <;> omega

/-! ### The day of the week -/

/-- The number of the last day of February. -/
theorem daysBeforeMarch_eq (year : Int) :
    daysBeforeYear year + daysBeforeMonth year 3 = 365 * year + year / 4 - year / 100 + year / 400 - 306 := by
  have length : daysBeforeMonth year 3 = if isLeap year then 60 else 59 := by
    simp only [daysBeforeMonth, daysInMonth]
    split <;> rfl
  rw [length, daysBeforeYear, isLeap]
  split
  · rename_i leap
    simp only [Bool.and_eq_true, Bool.or_eq_true, beq_iff_eq, bne_iff_ne] at leap
    omega
  · rename_i common
    simp only [Bool.and_eq_true, Bool.or_eq_true, beq_iff_eq, bne_iff_ne] at common
    omega

/-- Counted from the first of March, the day of Easter is a Sunday. -/
theorem easterDay_sunday (year : Int) :
    (daysBeforeYear year + daysBeforeMonth year 3 + easterDay year) % 7 = 0 := by
  have sunday := sunday_eq year
  have days : 5 * year / 4 = year + year / 4 := by omega
  have centuries : year / 400 = year / 100 / 4 := by omega
  rw [days, ← droppedDays_eq] at sunday
  rw [daysBeforeMarch_eq, centuries, easterDay]
  generalize year / 100 / 4 = four at *
  generalize moonDelay year = h at *
  generalize saturdayDelay year = l at *
  clear days centuries
  omega

/-- Easter with its parts. -/
structure IsEaster (year : Int) (d : Date) : Prop where
  year_eq : d.year = year
  parts : ((d.month : Int), (d.day : Int)) = marchParts (easterDay year)
  number : d.number = daysBeforeYear year + daysBeforeMonth year 3 + easterDay year

/-- Easter is a Sunday. -/
theorem IsEaster.sunday {d : Date} (easter : IsEaster year d) : d.weekday = .sunday := by
  have sunday := easterDay_sunday year
  rw [Date.weekday_eq_iff, easter.number, Weekday.index]
  omega

/-- A month and a day that are those of Easter make up Easter. -/
theorem isEaster_of_parts (era : 0 ≤ year) (last : year ≤ lastYear) {month day : Nat} (has : HasDay year month day)
    (parts : marchParts (easterDay year) = (↑month, ↑day))
    (number : (daysBeforeMonth year month + day : Int) = daysBeforeMonth year 3 + easterDay year) :
    ∃ d, easter? year = some d ∧ IsEaster year d := by
  have first : firstYear ≤ year := Int.le_trans (by decide) era
  refine ⟨.ofParts year month day, ?_, has.year_ofParts, ?_, ?_⟩
  · simp only [easter?, easterParts_eq era, parts, Int.toNat_natCast]
    rw [if_pos ⟨Int.natCast_nonneg _, Int.natCast_nonneg _⟩]
    exact has.ofParts?_eq first last
  · rw [has.month_ofParts, has.day_ofParts, parts]
  · rw [Date.number_ofParts]
    omega

/-- In the years of the calendar from the year zero on there is an Easter. -/
theorem exists_isEaster (era : 0 ≤ year) (last : year ≤ lastYear) :
    ∃ d, easter? year = some d ∧ IsEaster year d := by
  obtain ⟨least, greatest⟩ := easterDay_bounds year
  have march : daysInMonth year 3 = 31 := rfl
  have april : daysInMonth year 4 = 30 := rfl
  have behind : daysBeforeMonth year 4 = daysBeforeMonth year 3 + 31 := rfl
  by_cases early : easterDay year ≤ 31
  · obtain ⟨day, same⟩ := Int.eq_ofNat_of_zero_le (show 0 ≤ easterDay year by omega)
    have has : HasDay year 3 day := ⟨by decide, by decide, by omega, by omega⟩
    refine isEaster_of_parts era last has ?_ (by omega)
    rw [marchParts, if_pos early, same]
    rfl
  · obtain ⟨day, same⟩ := Int.eq_ofNat_of_zero_le (show 0 ≤ easterDay year - 31 by omega)
    have has : HasDay year 4 day := ⟨by decide, by decide, by omega, by omega⟩
    refine isEaster_of_parts era last has ?_ (by omega)
    rw [marchParts, if_neg early, same]
    rfl

/-- Easter is what the computus gives. In every year of the Gregorian calendar the month and day are those of
the computus, between the twenty-second of March and the twenty-fifth of April; and in every one whose days are
dates, they make up a Sunday. -/
theorem easter_by_computus (gregorian : 1583 ≤ year) :
    easterParts year = marchParts (computusDay year) ∧ (22 ≤ computusDay year ∧ computusDay year ≤ 56) ∧
      (year ≤ lastYear → ∃ d, easter? year = some d ∧ d.year = year ∧
        ((d.month : Int), (d.day : Int)) = marchParts (computusDay year) ∧ d.weekday = .sunday) := by
  have era : 0 ≤ year := Int.le_trans (by decide) gregorian
  have bounds := easterDay_bounds year
  rw [← easterDay_eq_computusDay]
  refine ⟨easterParts_eq era, bounds, fun last => ?_⟩
  obtain ⟨d, found, easter⟩ := exists_isEaster era last
  exact ⟨d, found, easter.year_eq, easter.parts, easter.sunday⟩

/-- A year whose golden number moves the full moon: the eighteenth of April instead of the twenty-fifth. -/
theorem easter_by_computus_moved :
    (1583 : Int) ≤ 1954 ∧ moonDelay 1954 = 28 ∧ weeksOff 1954 = 1 ∧
      easterParts 1954 = marchParts (computusDay 1954) ∧
      (22 ≤ computusDay 1954 ∧ computusDay 1954 ≤ 56) ∧
      (1954 ≤ lastYear → ∃ d, easter? 1954 = some d ∧ d.year = 1954 ∧
        ((d.month : Int), (d.day : Int)) = marchParts (computusDay 1954) ∧ d.weekday = .sunday) :=
  ⟨by decide, by decide, by decide, easter_by_computus (by decide)⟩

end Backtest.Calendar
