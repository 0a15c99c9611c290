import Backtest.Proofs.Calendar.Easter
import Backtest.Proofs.Calendar.Sessions

/-!
# The holidays of a year

Every holiday of the New York exchange has a season, the few days of the year that it can fall on, and the
seasons do not meet. So the holidays of a year are in order and lie in it, wherever the year begins in the week
and however late its Easter is; and whoever looks only at the holidays of a day's own year misses none.
-/

namespace Backtest.Calendar

variable {year : Int} {month day : Nat} {d : Date} {w : Weekday}

/-! ### Seasons -/

/-- The days of a year from one to another, each given by its month and its day of the month. -/
structure Season where
  firstMonth : Nat
  firstDay : Nat
  lastMonth : Nat
  lastDay : Nat

/-- A day lies in a season of a year. -/
def Season.Contains (s : Season) (year : Int) (d : Date) : Prop :=
  Date.ofParts year s.firstMonth s.firstDay ≤ d ∧ d ≤ Date.ofParts year s.lastMonth s.lastDay

/-- A season is over by the end of a year, whether it is a leap year or not. -/
def Season.IsWithinYear (s : Season) : Prop :=
  0 < s.firstDay ∧
    ∀ sample ∈ [(1 : Int), 4], daysBeforeMonth sample s.lastMonth + s.lastDay ≤ daysBeforeMonth sample 13

instance (s : Season) : Decidable s.IsWithinYear :=
  inferInstanceAs (Decidable (_ ∧ ∀ sample ∈ [(1 : Int), 4], _))

/-- A season within the year has days of that year only. -/
theorem Season.Contains.year_eq {s : Season} (inside : s.Contains year d) (within : s.IsWithinYear) :
    d.year = year := by
  obtain ⟨sample, mem, same⟩ := exists_sample year
  obtain ⟨first, stop⟩ := within
  have last := stop sample mem
  rw [← daysBeforeMonth_of_isLeap same] at last
  obtain ⟨after, before⟩ := inside
  simp only [Date.le_iff, Date.number_ofParts] at after before
  refine Date.year_eq_of_bounds (by omega) ?_
  rw [daysBeforeYear_succ]
  omega

/-- A season ends before another one begins. -/
def Season.Before (s t : Season) : Prop :=
  ∀ sample ∈ [(1 : Int), 4],
    daysBeforeMonth sample s.lastMonth + s.lastDay < daysBeforeMonth sample t.firstMonth + t.firstDay

instance (s t : Season) : Decidable (s.Before t) :=
  inferInstanceAs (Decidable (∀ sample ∈ [(1 : Int), 4], _))

/-- Days of an earlier season come before those of a later one. -/
theorem Season.Before.lt {s t : Season} (before : s.Before t) {e : Date} (here : s.Contains year d)
    (there : t.Contains year e) : d < e := by
  obtain ⟨sample, mem, same⟩ := exists_sample year
  have less := before sample mem
  rw [← daysBeforeMonth_of_isLeap same] at less
  have stop := here.2
  have start := there.1
  simp only [Date.le_iff, Date.number_ofParts] at stop start
  rw [Date.lt_iff]
  omega

/-! ### Holidays that are moved -/

/-- A holiday is kept on a workday, a day away at most. -/
theorem observed_spec (d : Date) :
    (observed d).IsWorkday ∧ d.number - 1 ≤ (observed d).number ∧ (observed d).number ≤ d.number + 1 := by
  have index := d.index_weekday
  rw [Date.isWorkday_iff, observed]
  cases weekday : d.weekday <;> simp only [weekday, Weekday.index, Date.addDays] at index ⊢ <;> omega

/-- What does not fall on a Saturday is not observed before its day. -/
theorem observed_of_ne_saturday (h : d.weekday ≠ .saturday) : d ≤ observed d := by
  rw [observed, Date.le_iff]
  cases weekday : d.weekday with
  | saturday => exact absurd weekday h
  | sunday => exact Int.le_add_of_nonneg_right (by decide)
  | _ => exact Int.le_refl _

/-! ### Days of the week in a month -/

/-- The first four of a day of the week are in every month, one in each seven days. -/
theorem exists_nthWeekday? (first : firstYear ≤ year) (last : year ≤ lastYear) (january : 1 ≤ month)
    (december : month ≤ 12) {n : Nat} (pos : 1 ≤ n) (four : n ≤ 4) (w : Weekday) :
    ∃ d, nthWeekday? year month w n = some d ∧ d.weekday = w ∧
      Date.ofParts year month (7 * n - 6) ≤ d ∧ d ≤ Date.ofParts year month (7 * n) := by
  have start := (HasDay.of_le january december (Nat.le_refl 1) (by decide) year).ofParts?_eq first last
  have index := (Date.ofParts year month 1).index_weekday
  have week := w.index_lt
  rw [nthWeekday?, start]
  dsimp only
  generalize hoffset : (w.index + 7 - (Date.ofParts year month 1).weekday.index) % 7 = offset
  have has : HasDay year month (1 + offset + 7 * (n - 1)) := .of_le january december (by omega) (by omega) year
  refine ⟨_, has.ofParts?_eq first last, ?_, ?_, ?_⟩
  · rw [Date.weekday_eq_iff]
    rw [Date.number_ofParts] at index ⊢
    omega
  · simp only [Date.le_iff, Date.number_ofParts]
    omega
  · simp only [Date.le_iff, Date.number_ofParts]
    omega

/-- The last day of a month is one of it. -/
theorem hasDay_last (january : 1 ≤ month) (december : month ≤ 12) (year : Int) :
    HasDay year month (daysInMonth year month) := by
  refine ⟨january, december, ?_, Nat.le_refl _⟩
  unfold daysInMonth
  split
  · split <;> decide
  all_goals decide

/-- The last of a day of the week is among the last seven days of the month. -/
theorem exists_lastWeekday? (first : firstYear ≤ year) (last : year ≤ lastYear) (january : 1 ≤ month)
    (december : month ≤ 12) (w : Weekday) :
    ∃ d, lastWeekday? year month w = some d ∧ d.weekday = w ∧
      Date.ofParts year month (daysInMonth year month) ≤ d.addDays 6 ∧
      d ≤ Date.ofParts year month (daysInMonth year month) := by
  have stop := (hasDay_last january december year).ofParts?_eq first last
  have index := (Date.ofParts year month (daysInMonth year month)).index_weekday
  have week := w.index_lt
  rw [lastWeekday?, stop, Option.map_some]
  refine ⟨_, rfl, ?_, ?_, ?_⟩
  · rw [Date.weekday_eq_iff]
    rw [Date.number_addDays]
    omega
  · simp only [Date.le_iff, Date.number_addDays]
    omega
  · simp only [Date.le_iff, Date.number_addDays]
    omega

/-- Goes back day by day to a day of the week, and gives up after a number of days that are not it. -/
def Date.backTo? (w : Weekday) : Nat → Date → Option Date
  | 0, _ => none
  | n + 1, d => if d.weekday = w then some d else backTo? w n (d.addDays (-1))

/-- How many days ago a day of the week was. -/
def Date.daysSince (w : Weekday) (d : Date) : Nat :=
  (d.weekday.index + 7 - w.index) % 7

/-- No day has passed since a weekday that is today. -/
theorem daysSince_eq_zero (here : d.weekday = w) : d.daysSince w = 0 := by
  rw [Date.daysSince, here, Nat.add_sub_cancel_left]

/-- The day before, one day less has passed since the last weekday of some name. -/
theorem daysSince_previous (other : d.weekday ≠ w) : (d.addDays (-1)).daysSince w + 1 = d.daysSince w := by
  have index := d.index_weekday
  have before := (d.addDays (-1)).index_weekday
  have week := w.index_lt
  rw [ne_eq, Date.weekday_eq_iff] at other
  rw [Date.number_addDays] at before
  unfold Date.daysSince
  omega

/-- The way back to a day of the week is as long as the days since then. -/
theorem backTo?_eq {n : Nat} (within : d.daysSince w < n) :
    d.backTo? w n = some (d.addDays (-(d.daysSince w : Int))) := by
  induction n generalizing d with
  | zero => contradiction
  | succ n ih =>
    rw [Date.backTo?]
    split
    · rename_i here
      rw [daysSince_eq_zero here]
      exact congrArg (fun number => some (Date.mk number)) (Int.add_zero d.number).symm
    · rename_i other
      have previous := daysSince_previous other
      have further : -1 + -((d.addDays (-1)).daysSince w : Int) = -(d.daysSince w : Int) := by omega
      rw [ih (by omega), Date.addDays_addDays, further]

/-! ### Rules -/

/-- A rule for a holiday: the season that it falls in, the years that have it, and its day in a year. -/
structure HolidayRule where
  season : Season
  isKept : Int → Bool
  day? : Int → Option Date

namespace HolidayRule

/-- In a year, a rule gives a workday of its season, or nothing if the year does not have the holiday. -/
structure HoldsIn (rule : HolidayRule) (year : Int) : Prop where
  isSome : (rule.day? year).isSome = rule.isKept year
  inside : ∀ d, rule.day? year = some d → rule.season.Contains year d ∧ d.IsWorkday

/-- New Year's Day. -/
def newYear : HolidayRule :=
  ⟨⟨1, 1, 1, 2⟩, fun year => (Date.ofParts year 1 1).weekday ≠ .saturday, newYear?⟩

/-- A date that is moved off the weekend. -/
def fixed (month day : Nat) : HolidayRule :=
  ⟨⟨month, day - 1, month, day + 1⟩, fun _ => true, fun year => (Date.ofParts? year month day).map observed⟩

/-- The `n`th of a day of the week in a month. -/
def numbered (month : Nat) (w : Weekday) (n : Nat) : HolidayRule :=
  ⟨⟨month, 7 * n - 6, month, 7 * n⟩, fun _ => true, fun year => nthWeekday? year month w n⟩

/-- The last of a day of the week in a month of some length. -/
def ofLast (month length : Nat) (w : Weekday) : HolidayRule :=
  ⟨⟨month, length - 6, month, length⟩, fun _ => true, fun year => lastWeekday? year month w⟩

/-- The Friday before Easter. -/
def goodFriday : HolidayRule :=
  ⟨⟨3, 20, 4, 23⟩, fun _ => true, fun year => (easter? year).map (·.addDays (-2))⟩

/-- A holiday that there is from some year on. -/
def since (start : Int) (rule : HolidayRule) : HolidayRule :=
  ⟨rule.season, fun year => decide (start ≤ year) && rule.isKept year,
    fun year => if start ≤ year then rule.day? year else none⟩

/-- What a rule gives is one workday of its season. -/
theorem HoldsIn.of_some {rule : HolidayRule} (kept : rule.isKept year = true) (given : rule.day? year = some d)
    (inside : rule.season.Contains year d) (workday : d.IsWorkday) : rule.HoldsIn year := by
  refine ⟨by rw [given, kept]; rfl, fun e same => ?_⟩
  rw [given] at same
  cases same
  exact ⟨inside, workday⟩

/-- A rule that is kept from some year on is as good as without a beginning. -/
theorem HoldsIn.since {rule : HolidayRule} (holds : rule.HoldsIn year) (start : Int) :
    (rule.since start).HoldsIn year := by
  simp only [HolidayRule.since]
  by_cases begun : start ≤ year
  · refine ⟨?_, fun d given => holds.inside d ?_⟩
    · dsimp only
      rw [if_pos begun, decide_eq_true begun, Bool.true_and, holds.isSome]
    · dsimp only at given
      rwa [if_pos begun] at given
  · refine ⟨?_, fun d given => ?_⟩
    · dsimp only
      rw [if_neg begun, decide_eq_false begun, Bool.false_and, Option.isSome_none]
    · dsimp only at given
      rw [if_neg begun] at given
      contradiction

section Holds

variable (first : firstYear ≤ year) (last : year ≤ lastYear)

include first last

/-- New Year is in its season and on a workday, unless it falls on a Saturday and is not kept. -/
theorem HoldsIn.newYear : HolidayRule.newYear.HoldsIn year := by
  have start := (HasDay.of_le (Nat.le_refl 1) (by decide) (Nat.le_refl 1) (by decide) year).ofParts?_eq first last
  by_cases saturday : (Date.ofParts year 1 1).weekday = .saturday
  · have none : newYear? year = none := by simp only [newYear?, start, if_pos saturday]
    refine ⟨?_, fun d given => ?_⟩
    · simp [HolidayRule.newYear, none, saturday]
    · exact absurd given (none ▸ Option.some_ne_none d).symm
  · have given : newYear? year = some (observed (.ofParts year 1 1)) := by
      simp only [newYear?, start, if_neg saturday]
    obtain ⟨workday, -, after⟩ := observed_spec (.ofParts year 1 1)
    have kept : HolidayRule.newYear.isKept year = true := decide_eq_true saturday
    refine .of_some kept given ⟨observed_of_ne_saturday saturday, ?_⟩ workday
    simp only [HolidayRule.newYear, Date.le_iff, Date.number_ofParts] at after ⊢
    omega

/-- A fixed day is observed within a day of it and on a workday. -/
theorem HoldsIn.fixed (january : 1 ≤ month) (december : month ≤ 12) (early : 2 ≤ day) (late : day ≤ 28) :
    (HolidayRule.fixed month day).HoldsIn year := by
  have has : HasDay year month day := .of_le january december (Nat.le_of_succ_le early) late year
  have given : (HolidayRule.fixed month day).day? year = some (observed (.ofParts year month day)) :=
    congrArg (Option.map observed) (has.ofParts?_eq first last)
  obtain ⟨workday, before, after⟩ := observed_spec (.ofParts year month day)
  refine .of_some rfl given ?_ workday
  simp only [HolidayRule.fixed, Season.Contains, Date.le_iff, Date.number_ofParts] at before after ⊢
  omega

/-- One of the first four weekdays of a name in a month is in the weeks that its number says. -/
theorem HoldsIn.numbered (january : 1 ≤ month) (december : month ≤ 12) {n : Nat} (pos : 1 ≤ n) (four : n ≤ 4)
    (work : w ≠ .saturday ∧ w ≠ .sunday) : (HolidayRule.numbered month w n).HoldsIn year := by
  obtain ⟨d, given, weekday, inside⟩ := exists_nthWeekday? first last january december pos four w
  exact .of_some rfl given inside (Date.isWorkday_of_weekday weekday work)

/-- The last weekday of a name in a month is in the last seven days of the month. -/
theorem HoldsIn.ofLast (january : 1 ≤ month) (december : month ≤ 12) {length : Nat}
    (long : daysInMonth year month = length) (week : 6 ≤ length) (work : w ≠ .saturday ∧ w ≠ .sunday) :
    (HolidayRule.ofLast month length w).HoldsIn year := by
  obtain ⟨d, given, weekday, after, before⟩ := exists_lastWeekday? first last january december w
  rw [long] at after before
  refine .of_some rfl given ⟨?_, before⟩ (Date.isWorkday_of_weekday weekday work)
  simp only [HolidayRule.ofLast, Date.le_iff, Date.number_ofParts, Date.number_addDays] at after ⊢
  omega

omit first

/-- Good Friday is two days before Easter and in its season. -/
theorem exists_goodFriday (era : 0 ≤ year) :
    ∃ d, easter? year = some (d.addDays 2) ∧ goodFriday.day? year = some d ∧ d.weekday = .friday ∧
      goodFriday.season.Contains year d := by
  obtain ⟨e, found, easter⟩ := exists_isEaster era last
  obtain ⟨least, greatest⟩ := easterDay_bounds year
  have sunday := easter.sunday
  have number := easter.number
  have april : daysBeforeMonth year 4 = daysBeforeMonth year 3 + 31 := rfl
  refine ⟨e.addDays (-2), ?_, ?_, ?_, ?_⟩
  · rw [found, Date.addDays_addDays]
    exact congrArg (fun number => some (Date.mk number)) (Int.add_zero e.number).symm
  · exact congrArg (Option.map (·.addDays (-2))) found
  · rw [Date.weekday_eq_iff] at sunday ⊢
    simp only [Weekday.index, Date.number_addDays] at sunday ⊢
    omega
  · simp only [goodFriday, Season.Contains, Date.le_iff, Date.number_ofParts, Date.number_addDays]
    omega

/-- Good Friday is kept in every year and is a workday. -/
theorem HoldsIn.goodFriday (era : 0 ≤ year) : HolidayRule.goodFriday.HoldsIn year := by
  obtain ⟨d, -, given, weekday, inside⟩ := exists_goodFriday last era
  exact .of_some rfl given inside (Date.isWorkday_of_weekday weekday (by decide))

end Holds

end HolidayRule

/-! ### The list of a year -/

/-- The rules of the New York exchange, in the order of the year. -/
def nyseRules : List HolidayRule :=
  [.newYear, (HolidayRule.numbered 1 .monday 3).since 1998, .numbered 2 .monday 3, .goodFriday,
    .ofLast 5 31 .monday, (HolidayRule.fixed 6 19).since 2022, .fixed 7 4, .numbered 9 .monday 1,
    .numbered 11 .thursday 4, .fixed 12 25]

/-- The holidays of a year are the days of the rules that are kept in it. -/
theorem nyseHolidays_eq (year : Int) : nyseHolidays year = nyseRules.filterMap (·.day? year) := by
  rw [nyseHolidays]
  rfl

/-- The seasons of the rules follow each other. -/
theorem nyseRules_before : nyseRules.Pairwise fun r s => r.season.Before s.season := by
  decide

/-- Every season lies within the year. -/
theorem nyseRules_withinYear : ∀ rule ∈ nyseRules, rule.season.IsWithinYear := by
  decide

section Year

variable (era : 1 ≤ year) (last : year ≤ lastYear)

include era last

/-- Every rule has its day in its season in every year of the era. -/
theorem nyseRules_holdIn : ∀ rule ∈ nyseRules, rule.HoldsIn year := by
  have first : firstYear ≤ year := Int.le_trans (by decide) era
  have kingsDay : (HolidayRule.numbered 1 .monday 3).HoldsIn year :=
    .numbered first last (by decide) (by decide) (by decide) (by decide) (by decide)
  have presidentsDay : (HolidayRule.numbered 2 .monday 3).HoldsIn year :=
    .numbered first last (by decide) (by decide) (by decide) (by decide) (by decide)
  have memorialDay : (HolidayRule.ofLast 5 31 .monday).HoldsIn year :=
    .ofLast first last (by decide) (by decide) rfl (by decide) (by decide)
  have juneteenth : (HolidayRule.fixed 6 19).HoldsIn year :=
    .fixed first last (by decide) (by decide) (by decide) (by decide)
  have independenceDay : (HolidayRule.fixed 7 4).HoldsIn year :=
    .fixed first last (by decide) (by decide) (by decide) (by decide)
  have laborDay : (HolidayRule.numbered 9 .monday 1).HoldsIn year :=
    .numbered first last (by decide) (by decide) (by decide) (by decide) (by decide)
  have thanksgiving : (HolidayRule.numbered 11 .thursday 4).HoldsIn year :=
    .numbered first last (by decide) (by decide) (by decide) (by decide) (by decide)
  have christmas : (HolidayRule.fixed 12 25).HoldsIn year :=
    .fixed first last (by decide) (by decide) (by decide) (by decide)
  simp only [nyseRules, List.forall_mem_cons]
  exact ⟨.newYear first last, kingsDay.since 1998, presidentsDay, .goodFriday last (Int.le_trans (by decide) era),
    memorialDay, juneteenth.since 2022, independenceDay, laborDay, thanksgiving, christmas, List.forall_mem_nil _⟩

/-- The holidays of a year are in order. -/
theorem nyseHolidays_pairwise : (nyseHolidays year).Pairwise (· < ·) := by
  have holds := nyseRules_holdIn era last
  rw [nyseHolidays_eq]
  refine List.pairwise_filterMap.2 (nyseRules_before.imp_of_mem fun {r s} hr hs before d hd e he => ?_)
  exact before.lt ((holds r hr).inside d hd).1 ((holds s hs).inside e he).1

/-- A holiday of a year lies in it and is a workday. -/
theorem mem_nyseHolidays_spec (h : d ∈ nyseHolidays year) : d.year = year ∧ d.IsWorkday := by
  rw [nyseHolidays_eq, List.mem_filterMap] at h
  obtain ⟨rule, mem, given⟩ := h
  obtain ⟨inside, workday⟩ := (nyseRules_holdIn era last rule mem).inside d given
  exact ⟨inside.year_eq (nyseRules_withinYear rule mem), workday⟩

/-- There are as many holidays in a year as rules that the year has. -/
theorem length_nyseHolidays : (nyseHolidays year).length = nyseRules.countP (·.isKept year) := by
  rw [nyseHolidays_eq, List.length_filterMap_eq_countP]
  exact List.countP_congr fun rule mem => by rw [(nyseRules_holdIn era last rule mem).isSome]

end Year

/-- The number of rules that are kept in a year. -/
theorem countP_isKept (year : Int) :
    nyseRules.countP (·.isKept year) =
      7 + (if (Date.ofParts year 1 1).weekday = .saturday then 0 else 1) + (if 1998 ≤ year then 1 else 0) +
        (if 2022 ≤ year then 1 else 0) := by
  simp only [nyseRules, List.countP_cons, List.countP_nil, HolidayRule.newYear, HolidayRule.since,
    HolidayRule.numbered, HolidayRule.fixed, HolidayRule.ofLast, HolidayRule.goodFriday, Bool.and_true,
    decide_eq_true_eq, ne_eq, ite_not, if_true]
  omega

/-- The backward search from the last day of May for a Monday needs seven days at most. -/
theorem backTo?_lastMonday (first : firstYear ≤ year) (last : year ≤ lastYear) :
    ((Date.ofParts year 6 1).addDays (-1)).backTo? .monday 7 = lastWeekday? year 5 .monday := by
  have may : (Date.ofParts year 6 1).addDays (-1) = .ofParts year 5 31 := by
    have length : daysBeforeMonth year 6 = daysBeforeMonth year 5 + 31 := rfl
    simp only [Date.addDays, Date.ofParts, Date.mk.injEq]
    omega
  have has : HasDay year 5 31 := hasDay_last (by decide) (by decide) year
  have given : Date.ofParts? year 5 (daysInMonth year 5) = some (.ofParts year 5 31) := has.ofParts?_eq first last
  rw [may, backTo?_eq (Nat.mod_lt _ (by decide)), lastWeekday?, given]
  rfl

/-- The holidays of a year are complete and well formed. -/
structure CompleteHolidays (year : Int) : Prop where
  ordered : (nyseHolidays year).Pairwise (· < ·)
  ofYear : ∀ d ∈ nyseHolidays year, d.year = year
  workdays : ∀ d ∈ nyseHolidays year, d.IsWorkday
  goodFriday : ∃ d ∈ nyseHolidays year, easter? year = some (d.addDays 2) ∧ d.weekday = .friday ∧
    Date.ofParts year 3 20 ≤ d ∧ d ≤ Date.ofParts year 4 23
  length : (nyseHolidays year).length =
    7 + (if (Date.ofParts year 1 1).weekday = .saturday then 0 else 1) + (if 1998 ≤ year then 1 else 0) +
      (if 2022 ≤ year then 1 else 0)
  /-- Whoever looks at the holidays of a day's own year misses none. -/
  noticed : ∀ d ∈ nyseHolidays year, WeekdayCalendar.xnys.isHoliday d = true
  closed_iff : ∀ d, d.year = year → d.IsWorkday →
    (TradingCalendar.xnys.isSession d = false ↔ d ∈ nyseHolidays year)
  /-- The way back from the day before June to a Monday is over within seven days. -/
  lastMonday : ∃ d, ((Date.ofParts year 6 1).addDays (-1)).backTo? .monday 7 = some d ∧
    lastWeekday? year 5 .monday = some d

/-- The New York exchange keeps the holidays of the day's own year. -/
theorem isHoliday_xnys (d : Date) : WeekdayCalendar.xnys.isHoliday d = (nyseHolidays d.year).contains d :=
  rfl

/-- From the year one on, the holidays of every year whose days are dates are complete and well formed. -/
theorem completeHolidays (era : 1 ≤ year) (last : year ≤ lastYear) : CompleteHolidays year where
  ordered := nyseHolidays_pairwise era last
  ofYear _ h := (mem_nyseHolidays_spec era last h).1
  workdays _ h := (mem_nyseHolidays_spec era last h).2
  goodFriday := by
    obtain ⟨d, easter, given, weekday, inside⟩ := HolidayRule.exists_goodFriday last (Int.le_trans (by decide) era)
    have mem : d ∈ nyseHolidays year := by
      rw [nyseHolidays_eq, List.mem_filterMap]
      exact ⟨.goodFriday, by simp [nyseRules], given⟩
    exact ⟨d, mem, easter, weekday, inside⟩
  length := (length_nyseHolidays era last).trans (countP_isKept year)
  noticed d h := by
    rw [isHoliday_xnys, (mem_nyseHolidays_spec era last h).1, List.contains_iff_mem]
    exact h
  closed_iff d own workday := by
    obtain ⟨saturday, sunday⟩ := workday
    have session := WeekdayCalendar.xnys.isSession_toTradingCalendar saturday sunday
    rw [show TradingCalendar.xnys.isSession d = _ from session, isHoliday_xnys, own, Bool.not_eq_false',
      List.contains_iff_mem]
  lastMonday := by
    have first : firstYear ≤ year := Int.le_trans (by decide) era
    have may : (1 : Nat) ≤ 5 ∧ 5 ≤ 12 := by decide
    obtain ⟨d, found, -⟩ := exists_lastWeekday? first last may.1 may.2 .monday
    exact ⟨d, (backTo?_lastMonday first last).trans found, found⟩

/-- The first year with all of the rules, whose first day is a Saturday. -/
theorem completeHolidays_2022 :
    (1 : Int) ≤ 2022 ∧ 2022 ≤ lastYear ∧ (nyseHolidays 2022).length = 9 ∧ CompleteHolidays 2022 :=
  ⟨by decide, by decide, by decide, completeHolidays (by decide) (by decide)⟩

end Backtest.Calendar
