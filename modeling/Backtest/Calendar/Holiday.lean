import Backtest.Calendar.Date

/-!
# Holidays

The full-day holidays of the New York exchange in a year: fixed dates moved off the weekend, numbered
and last weekdays of a month, and Good Friday.
-/

namespace Backtest.Calendar

/-- The `n`th given day of the week in a month, if the month has so many. -/
def nthWeekday? (year : Int) (month : Nat) (weekday : Weekday) (n : Nat) : Option Date :=
  match Date.ofParts? year month 1 with
  | none => none
  | some first =>
    let offset := (weekday.index + 7 - first.weekday.index) % 7
    Date.ofParts? year month (1 + offset + 7 * (n - 1))

/-- The last given day of the week in a month. -/
def lastWeekday? (year : Int) (month : Nat) (weekday : Weekday) : Option Date :=
  (Date.ofParts? year month (daysInMonth year month)).map fun last =>
    last.addDays (-(((last.weekday.index + 7 - weekday.index) % 7 : Nat) : Int))

/-- The day on which a holiday is kept: a Saturday's on the Friday before, a Sunday's on the Monday
after. -/
def observed (d : Date) : Date :=
  match d.weekday with
  | .saturday => d.addDays (-1)
  | .sunday => d.addDays 1
  | _ => d

/-- The month and day of Easter in a year, with divisions that drop the fraction toward zero. -/
def easterParts (year : Int) : Int × Int :=
  let a := year.tmod 19
  let b := year.tdiv 100
  let c := year.tmod 100
  let d := b.tdiv 4
  let e := b.tmod 4
  let f := (b + 8).tdiv 25
  let g := (b - f + 1).tdiv 3
  let h := (19 * a + b - d - g + 15).tmod 30
  let i := c.tdiv 4
  let k := c.tmod 4
  let l := (32 + 2 * e + 2 * i - h - k).tmod 7
  let m := (a + 11 * h + 22 * l).tdiv 451
  let n := h + l - 7 * m + 114
  (n.tdiv 31, n.tmod 31 + 1)

/-- Easter Sunday, if its month and day make a date. -/
def easter? (year : Int) : Option Date :=
  let (month, day) := easterParts year
  if 0 ≤ month ∧ 0 ≤ day then Date.ofParts? year month.toNat day.toNat else none

/-- New Year's Day, which is not kept when it falls on a Saturday. -/
def newYear? (year : Int) : Option Date :=
  match Date.ofParts? year 1 1 with
  | none => none
  | some d => if d.weekday = .saturday then none else some (observed d)

/-- The holidays of the New York exchange in a year, in order. -/
def nyseHolidays (year : Int) : List Date :=
  [ newYear? year,
    if 1998 ≤ year then nthWeekday? year 1 .monday 3 else none,
    nthWeekday? year 2 .monday 3,
    (easter? year).map (·.addDays (-2)),
    lastWeekday? year 5 .monday,
    if 2022 ≤ year then (Date.ofParts? year 6 19).map observed else none,
    (Date.ofParts? year 7 4).map observed,
    nthWeekday? year 9 .monday 1,
    nthWeekday? year 11 .thursday 4,
    (Date.ofParts? year 12 25).map observed ].filterMap id

end Backtest.Calendar
