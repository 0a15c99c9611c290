import Backtest.Calendar.Trading
import Mathlib.Data.List.Sort

/-!
# The sessions of a range

All calendars list the sessions of a range in order and count them, so that a range counts a session if and only
if it has one (`Schedule.sessionDistance_pos_iff`). Where each day by itself is a session or is none, the
sessions below the last day of all are exact (`Schedule.mem_sessionsInRange`). As a list in strict order is
settled by its members, ranges that meet without a gap then have the sessions of both together.
-/

namespace Backtest.Calendar

namespace Date

instance : Std.Irrefl (α := Date) (· < ·) :=
  ⟨fun _ => Int.lt_irrefl _⟩

instance : Std.Asymm (α := Date) (· < ·) :=
  ⟨fun _ _ => Int.lt_asymm⟩

end Date

namespace Schedule

variable {c : Schedule} {isSession : Date → Bool} {first last d : Date}

/-- A range in reverse has no sessions. -/
theorem sessionsInRange_of_reverse (reverse : last < first) : c.sessionsInRange first last = [] := by
  refine List.eq_nil_iff_forall_not_mem.2 fun d listed => ?_
  obtain ⟨after, before, -⟩ := c.within first last d listed
  exact Int.not_le.2 reverse (Int.le_trans after before)

/-- The number of sessions changes its sign when the range is reversed. -/
theorem sessionDistance_reverse (forward : first < last) :
    c.sessionDistance last first = -c.sessionDistance first last := by
  have backward : ¬last ≤ first := Int.not_le.2 forward
  have along : first ≤ last := Int.le_of_lt forward
  rw [c.distance, c.distance, signedCount, signedCount, if_neg backward, if_pos along]

/-- A range counts at least one session if and only if it has one. -/
theorem sessionDistance_pos_iff : 0 < c.sessionDistance first last ↔ c.sessionsInRange first last ≠ [] := by
  rw [c.distance, signedCount]
  split
  · rw [← List.length_pos_iff]
    omega
  · rename_i reverse
    rw [sessionsInRange_of_reverse (Int.not_le.1 reverse)]
    simp

/-- Below the last day of all, the sessions of a range are those of its days that are sessions by themselves. -/
theorem mem_sessionsInRange (below : last < Date.last) :
    d ∈ (ofDays isSession).sessionsInRange first last ↔
      first ≤ d ∧ d ≤ last ∧ isSession d = true := by
  simp only [ofDays, Date.lastListed]
  rw [if_pos below, List.mem_filter, Date.mem_upTo, and_assoc]

/-- Two ranges that meet have the sessions of both together: a day of the whole range lies up to the middle or
after it. -/
theorem sessionsInRange_append {middle : Date} (below : last < Date.last) (start : first ≤ middle)
    (stop : middle < last) :
    (ofDays isSession).sessionsInRange first last =
      (ofDays isSession).sessionsInRange first middle ++
        (ofDays isSession).sessionsInRange (middle.addDays 1) last := by
  generalize schedule : ofDays isSession = c
  have inner : middle < Date.last := Int.lt_trans stop below
  have before : ∀ x ∈ c.sessionsInRange first middle,
      ∀ y ∈ c.sessionsInRange (middle.addDays 1) last, x < y := by
    intro x hx y hy
    have here := (c.within _ _ x hx).2.1
    have there := (c.within _ _ y hy).1
    simp only [Date.le_iff, Date.lt_iff, Date.addDays] at here there ⊢
    omega
  refine List.Pairwise.eq_of_mem_iff (c.ascending first last)
    (List.pairwise_append.2 ⟨c.ascending _ _, c.ascending _ _, before⟩) fun d => ?_
  have split : first ≤ d ∧ d ≤ last ↔ first ≤ d ∧ d ≤ middle ∨ middle.addDays 1 ≤ d ∧ d ≤ last := by
    simp only [Date.le_iff, Date.lt_iff, Date.addDays] at start stop ⊢
    omega
  subst schedule
  rw [List.mem_append, mem_sessionsInRange below, mem_sessionsInRange inner, mem_sessionsInRange below,
    ← and_assoc, ← and_assoc, ← and_assoc, split, or_and_right]

end Schedule

namespace WeekdayCalendar

variable (c : WeekdayCalendar) {d : Date} (saturday : d.weekday ≠ .saturday) (sunday : d.weekday ≠ .sunday)

include saturday sunday

/-- On a weekday an exchange trades if it does not keep the day as a holiday. -/
theorem isSession_toTradingCalendar : c.toTradingCalendar.isSession d = !c.isHoliday d := by
  change c.isSession d = _
  rw [isSession, bne_iff_ne.2 saturday, bne_iff_ne.2 sunday, Bool.true_and, Bool.true_and]

/-- So its holidays can be told from its sessions. -/
theorem isHoliday_toTradingCalendar : c.toTradingCalendar.isHoliday d = c.isHoliday d := by
  rw [TradingCalendar.isHoliday, c.isSession_toTradingCalendar saturday sunday, bne_iff_ne.2 saturday,
    bne_iff_ne.2 sunday, Bool.true_and, Bool.true_and, Bool.not_not]

end WeekdayCalendar

end Backtest.Calendar
