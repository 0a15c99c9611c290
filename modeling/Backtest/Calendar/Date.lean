/-!
# Dates

Days of the Gregorian calendar, extended to all years. A date is its number in the count of days that
gives the first of January of the year one the number one, so that neighbouring days and the order of
days are those of the numbers.
-/

namespace Backtest.Calendar

/-- A day. -/
structure Date where
  number : Int
  deriving DecidableEq, Repr

instance : Inhabited Date := ⟨⟨1⟩⟩

namespace Date

instance : Ord Date := ⟨fun a b => compare a.number b.number⟩

instance : LT Date := ⟨fun a b => a.number < b.number⟩

instance : LE Date := ⟨fun a b => a.number ≤ b.number⟩

instance (a b : Date) : Decidable (a < b) := inferInstanceAs (Decidable (a.number < b.number))

instance (a b : Date) : Decidable (a ≤ b) := inferInstanceAs (Decidable (a.number ≤ b.number))

/-- Days are ordered by their numbers. -/
theorem lt_iff {a b : Date} : a < b ↔ a.number < b.number := Iff.rfl

/-- So they are when they may be equal. -/
theorem le_iff {a b : Date} : a ≤ b ↔ a.number ≤ b.number := Iff.rfl

instance : Std.LawfulEqOrd Date where
  compare_self {a} := by
    change compare a.number a.number = .eq
    exact Std.ReflCmp.compare_self
  eq_of_compare {a b} h := by
    cases a with | mk m =>
    cases b with | mk n =>
    change compare m n = .eq at h
    rw [Std.LawfulEqCmp.eq_of_compare h]

instance : Std.TransOrd Date where
  eq_swap {a b} := by
    change compare a.number b.number = (compare b.number a.number).swap
    exact Std.OrientedCmp.eq_swap
  isLE_trans {a b c} hab hbc := by
    change (compare a.number c.number).isLE
    exact Std.TransCmp.isLE_trans (b := b.number) hab hbc

/-- The day that lies a number of days later. -/
def addDays (d : Date) (n : Int) : Date :=
  ⟨d.number + n⟩

end Date

/-- Years with a twenty-ninth of February. -/
def isLeap (year : Int) : Bool :=
  year % 4 == 0 && (year % 100 != 0 || year % 400 == 0)

/-- The number of the last day before a year. -/
def daysBeforeYear (year : Int) : Int :=
  365 * (year - 1) + (year - 1) / 4 - (year - 1) / 100 + (year - 1) / 400

/-- The number of days in a month. -/
def daysInMonth (year : Int) (month : Nat) : Nat :=
  match month with
  | 2 => if isLeap year then 29 else 28
  | 4 | 6 | 9 | 11 => 30
  | _ => 31

/-- The number of days of a year that lie before a month. -/
def daysBeforeMonth (year : Int) : Nat → Nat
  | 0 => 0
  | 1 => 0
  | month + 2 => daysBeforeMonth year (month + 1) + daysInMonth year (month + 1)

/-- Days of the week, by their distance from Monday. -/
inductive Weekday where
  | monday
  | tuesday
  | wednesday
  | thursday
  | friday
  | saturday
  | sunday
  deriving DecidableEq, Repr

/-- The distance of a day of the week from Monday. -/
def Weekday.index : Weekday → Nat
  | monday => 0
  | tuesday => 1
  | wednesday => 2
  | thursday => 3
  | friday => 4
  | saturday => 5
  | sunday => 6

/-- The day of the week at a distance from Monday. -/
def Weekday.ofIndex : Nat → Weekday
  | 0 => monday
  | 1 => tuesday
  | 2 => wednesday
  | 3 => thursday
  | 4 => friday
  | 5 => saturday
  | _ => sunday

/-- The first year whose days are dates of this calendar. -/
def firstYear : Int := -262143

/-- The last year whose days are dates of this calendar. -/
def lastYear : Int := 262142

namespace Date

/-- The day with a year, a month and a day of the month, which need not exist. -/
def ofParts (year : Int) (month day : Nat) : Date :=
  ⟨daysBeforeYear year + daysBeforeMonth year month + day⟩

/-- The day with a year, a month and a day of the month, if there is one. -/
def ofParts? (year : Int) (month day : Nat) : Option Date :=
  if firstYear ≤ year ∧ year ≤ lastYear ∧ 1 ≤ month ∧ month ≤ 12 ∧ 1 ≤ day ∧
      day ≤ daysInMonth year month then
    some (ofParts year month day)
  else none

/-- The last day of the calendar. -/
def last : Date :=
  ofParts lastYear 12 31

/-- The day of the week. The first day of the year one is a Monday. -/
def weekday (d : Date) : Weekday :=
  .ofIndex ((d.number - 1) % 7).toNat

/-- The year of a day. The mean length of a year gives it up to one year, and the days before the
years around that settle it. -/
def year (d : Date) : Int :=
  let guess := 400 * (d.number - 1) / 146097 + 1
  if d.number ≤ daysBeforeYear guess then guess - 1
  else if daysBeforeYear (guess + 1) < d.number then guess + 1
  else guess

/-- The number of a day within its year, from one. -/
def dayOfYear (d : Date) : Nat :=
  (d.number - daysBeforeYear d.year).toNat

/-- The month of a day: the last that begins before it in its year. -/
def month (d : Date) : Nat :=
  1 + ((List.range 11).filter fun m => daysBeforeMonth d.year (m + 2) < d.dayOfYear).length

/-- The day of the month. -/
def day (d : Date) : Nat :=
  d.dayOfYear - daysBeforeMonth d.year d.month

/-- The days from one to another, both included. -/
def upTo (first last : Date) : List Date :=
  (List.range (last.number - first.number + 1).toNat).map fun (i : Nat) => first.addDays i

/-- The days from one to another are those between them. -/
theorem mem_upTo {d first last : Date} : d ∈ first.upTo last ↔ first ≤ d ∧ d ≤ last := by
  simp only [upTo, addDays, List.mem_map, List.mem_range, le_iff]
  constructor
  · rintro ⟨i, inside, rfl⟩
    dsimp only
    omega
  · rintro ⟨after, before⟩
    refine ⟨(d.number - first.number).toNat, by omega, ?_⟩
    congr 1
    omega

/-- The days from one to another are in order, and none comes twice. -/
theorem upTo_pairwise (first last : Date) : (first.upTo last).Pairwise (· < ·) := by
  refine List.pairwise_map.2 (List.pairwise_lt_range.imp fun {m n} later => ?_)
  simp only [lt_iff, addDays]
  omega

end Date

end Backtest.Calendar
