import Backtest.Calendar.DateText

/-!
# Moments

Points in universal time, down to the nanosecond. A leap second is the second before it with a
thousand million nanoseconds more, so that moments are ordered by one number, their rank.
-/

namespace Backtest.Calendar

open Backtest.Number

/-- A point in time: a day, a second of the day, and nanoseconds. -/
structure Moment where
  date : Date
  second : Nat
  nanos : Nat
  deriving DecidableEq, Repr

namespace Moment

/-- A number that orders moments. -/
def rank (m : Moment) : Int :=
  (m.date.number * 86400 + m.second) * 2000000000 + m.nanos

instance : LE Moment := ⟨fun a b => a.rank ≤ b.rank⟩

instance (a b : Moment) : Decidable (a ≤ b) := inferInstanceAs (Decidable (a.rank ≤ b.rank))

/-- The moment with a time of day on a day, if there is one; the sixtieth second is a leap second. -/
def ofClock? (date : Date) (hour minute second nanos : Nat) : Option Moment :=
  if hour ≤ 23 ∧ minute ≤ 59 ∧ second ≤ 60 then
    if second = 60 then some ⟨date, hour * 3600 + minute * 60 + 59, 1000000000 + nanos⟩
    else some ⟨date, hour * 3600 + minute * 60 + second, nanos⟩
  else none

/-- The second shown on a clock, which is the sixtieth in a leap second. -/
def clockSecond (m : Moment) : Nat :=
  m.second % 60 + m.nanos / 1000000000

/-- The time of day with a separator between hour, minute and second. -/
def clockChars (separator : Char) (m : Moment) : List Char :=
  paddedDigits 2 (m.second / 3600) ++ separator :: paddedDigits 2 (m.second / 60 % 60) ++
    separator :: paddedDigits 2 m.clockSecond

/-- A point and the nanoseconds in three, six or nine digits; nothing for none. -/
def fractionChars (m : Moment) : List Char :=
  let nanos := m.nanos % 1000000000
  if nanos = 0 then []
  else if nanos % 1000000 = 0 then '.' :: paddedDigits 3 (nanos / 1000000)
  else if nanos % 1000 = 0 then '.' :: paddedDigits 6 (nanos / 1000)
  else '.' :: paddedDigits 9 nanos

/-- A moment with a `T` before its time and its offset of zero behind it. -/
def text (m : Moment) : String :=
  String.ofList (m.date.chars ++ 'T' :: m.clockChars ':' ++ m.fractionChars ++ "+00:00".toList)

/-- A moment as it stands in messages. -/
def display (m : Moment) : String :=
  String.ofList (m.date.chars ++ ' ' :: m.clockChars ':' ++ m.fractionChars ++ " UTC".toList)

/-- A moment in a form that can be a file name. -/
def stamp (m : Moment) : String :=
  String.ofList (m.date.chars ++ 'T' :: m.clockChars '-')

/-- The moment that a file name stands for; its numbers need no padding. -/
def ofStamp? (name : String) : Option Moment := do
  let (date, rest) ← readDateWith? id name.toList
  let rest ← expect? 'T' rest
  let (hour, rest) ← readDigits? 2 rest
  let rest ← expect? '-' rest
  let (minute, rest) ← readDigits? 2 rest
  let rest ← expect? '-' rest
  let (second, rest) ← readDigits? 2 rest
  if rest.isEmpty then ofClock? date hour minute second 0 else none

/-- Nanoseconds from a point and the digits behind it, of which nine count. -/
def readFraction? : List Char → Option (Nat × List Char)
  | '.' :: rest =>
    match spanDigits 9 rest with
    | ([], _) => none
    | (ds, after) =>
      some (digitsValue ds * Nat.pow 10 (9 - ds.length), after.dropWhile Char.isDigit)
  | rest => some (0, rest)

/-- Two digits, the first of them up to a limit, and the rest behind them. -/
def readPair? (most : Nat) : List Char → Option (Nat × List Char)
  | a :: b :: rest =>
    if a.isDigit && b.isDigit && digitValue a ≤ most then
      some (10 * digitValue a + digitValue b, rest)
    else none
  | _ => none

/-- The seconds that an offset lies ahead of universal time: `Z`, or a sign with hours and minutes. -/
def readOffset? (cs : List Char) : Option (Int × List Char) :=
  let signed (negative : Bool) (cs : List Char) : Option (Int × List Char) := do
    let (hours, rest) ← readPair? 9 cs
    let (minutes, rest) ← readPair? 5 (rest.dropWhile fun c => c == ':' || Text.isBlank c)
    let seconds : Int := hours * 3600 + minutes * 60
    return (if negative then -seconds else seconds, rest)
  match cs with
  | '+' :: rest => signed false rest
  | '-' :: rest => signed true rest
  | '\u2212' :: rest => signed true rest
  | c :: rest =>
    if c = 'Z' ∨ c = 'z' then some (0, rest)
    else if (cs.take 3).map Char.toUpper = ['U', 'T', 'C'] then some (0, cs.drop 3)
    else none
  | [] => none

/-- The moment that shows a clock time where clocks are ahead by an offset. -/
def ofLocal? (m : Moment) (offset : Int) : Option Moment :=
  let seconds := m.date.number * 86400 + m.second - offset
  let date : Date := ⟨seconds / 86400⟩
  if -86400 < offset ∧ offset < 86400 ∧ Date.ofParts firstYear 1 1 ≤ date ∧ date ≤ Date.last then
    some ⟨date, (seconds % 86400).toNat, m.nanos⟩
  else none

/-- The moment that a text gives as date, time and offset. -/
def ofText? (text : String) : Option Moment := do
  let (date, rest) ← readDateWith? Text.dropBlanks text.toList
  let rest ← match rest with
    | c :: rest => if c = 'T' ∨ c = 't' ∨ c = ' ' then some rest else none
    | [] => none
  let (hour, rest) ← readDigits? 2 rest
  let rest ← expect? ':' (Text.dropBlanks rest)
  let (minute, rest) ← readDigits? 2 rest
  let rest ← expect? ':' (Text.dropBlanks rest)
  let (second, rest) ← readDigits? 2 rest
  let (nanos, rest) ← readFraction? rest
  let (offset, rest) ← readOffset? (Text.dropBlanks rest)
  let clock ← ofClock? date hour minute second nanos
  if (Text.dropBlanks rest).isEmpty then clock.ofLocal? offset else none

end Moment

end Backtest.Calendar
