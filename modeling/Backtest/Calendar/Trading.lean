import Backtest.Calendar.Holiday
import Backtest.Text.Casing

/-!
# Trading calendars

Which days are trading sessions. A calendar is anything that lists the sessions of a range in order and counts
them; those of an exchange are the weekdays, less its holidays if it keeps any.
-/

namespace Backtest.Calendar

/-- A count over a range, negated if the range is in reverse. -/
def signedCount (sessions : Date → Date → List Date) (first last : Date) : Int :=
  if first ≤ last then (sessions first last).length else -((sessions last first).length : Int)

/-- Which days are sessions, with what all calendars promise of the sessions that they list. -/
structure Schedule where
  /-- Whether there is trading on a day. -/
  isSession : Date → Bool
  /-- The sessions from one day to another, both included. -/
  sessionsInRange : Date → Date → List Date
  /-- The number of sessions from one day to another, negative if they are in reverse. -/
  sessionDistance : Date → Date → Int := signedCount sessionsInRange
  ascending : ∀ first last, (sessionsInRange first last).Pairwise (· < ·)
  within : ∀ first last, ∀ d ∈ sessionsInRange first last, first ≤ d ∧ d ≤ last ∧ d ≤ Date.last
  distance : ∀ first last, sessionDistance first last = signedCount sessionsInRange first last := by
    intros; rfl

/-- A trading calendar is a schedule under a name. -/
structure TradingCalendar where
  name : String
  schedule : Schedule

/-- Whose holidays close an exchange. -/
inductive HolidayRules where
  | none
  | nyse
  deriving DecidableEq, Repr

/-- The calendar of an exchange that trades on weekdays. -/
structure WeekdayCalendar where
  name : String
  rules : HolidayRules
  deriving DecidableEq, Repr

/-- The last day of a range that is listed. The last day of all never is, as it has no day after it. -/
def Date.lastListed (last : Date) : Date :=
  if last < Date.last then last else Date.last.addDays (-1)

/-- What is listed lies in the range and in the calendar. -/
theorem Date.le_of_le_lastListed {d last : Date} (h : d ≤ last.lastListed) : d ≤ last ∧ d ≤ Date.last := by
  unfold lastListed at h
  split at h
  · rename_i below
    exact ⟨h, Int.le_of_lt (Int.lt_of_le_of_lt h below)⟩
  · rename_i above
    simp only [Date.le_iff, Date.lt_iff, Date.addDays] at above h ⊢
    omega

/-- The schedule in which each day by itself is a session or is none. -/
def Schedule.ofDays (isSession : Date → Bool) : Schedule where
  isSession := isSession
  sessionsInRange first last := (first.upTo last.lastListed).filter isSession
  ascending first last := (first.upTo_pairwise last.lastListed).filter isSession
  within _ _ _ listed :=
    have inside := Date.mem_upTo.1 (List.mem_filter.1 listed).1
    ⟨inside.1, Date.le_of_le_lastListed inside.2⟩

namespace WeekdayCalendar

/-- The calendar of the New York exchange. -/
def xnys : WeekdayCalendar :=
  ⟨"XNYS", .nyse⟩

/-- The calendar without holidays. -/
def weekdays : WeekdayCalendar :=
  ⟨"WEEKDAYS", .none⟩

/-- The calendar that a name stands for, or the name in upper case if there is none. -/
def ofName (name : String) : Except String WeekdayCalendar :=
  let upper := Text.toUpper name
  if upper = "XNYS" ∨ upper = "NYSE" then .ok xnys
  else if upper = "WEEKDAYS" then .ok weekdays
  else .error upper

/-- Whether the exchange keeps a day as a holiday, going by the holidays of the day's own year. -/
def isHoliday (c : WeekdayCalendar) (d : Date) : Bool :=
  match c.rules with
  | .none => false
  | .nyse => (nyseHolidays d.year).contains d

/-- Whether the exchange trades on a day. -/
def isSession (c : WeekdayCalendar) (d : Date) : Bool :=
  d.weekday != .saturday && d.weekday != .sunday && !c.isHoliday d

/-- The sessions of an exchange as a trading calendar. -/
def toTradingCalendar (c : WeekdayCalendar) : TradingCalendar :=
  ⟨c.name, .ofDays c.isSession⟩

end WeekdayCalendar

/-- The weekdays without the holidays of New York. -/
def Schedule.nyse : Schedule :=
  .ofDays WeekdayCalendar.xnys.isSession

/-- All weekdays, without any holidays. -/
def Schedule.none : Schedule :=
  .ofDays WeekdayCalendar.weekdays.isSession

namespace TradingCalendar

/-- The sessions of the New York exchange. -/
def xnys : TradingCalendar :=
  ⟨"XNYS", .nyse⟩

/-- The sessions of an exchange without holidays. -/
def weekdays : TradingCalendar :=
  ⟨"WEEKDAYS", .none⟩

/-- A market that never closes. -/
def everyDay : TradingCalendar :=
  ⟨"24/7", .ofDays fun _ => true⟩

variable (c : TradingCalendar)

/-- Whether there is trading on a day. -/
def isSession (d : Date) : Bool :=
  c.schedule.isSession d

/-- The sessions from one day to another, both included. -/
def sessionsInRange (first last : Date) : List Date :=
  c.schedule.sessionsInRange first last

/-- The number of sessions from one day to another, negative if they are in reverse. -/
def sessionDistance (first last : Date) : Int :=
  c.schedule.sessionDistance first last

/-- Whether a calendar is closed on a weekday. -/
def isHoliday (d : Date) : Bool :=
  d.weekday != .saturday && d.weekday != .sunday && !c.isSession d

end TradingCalendar

end Backtest.Calendar
