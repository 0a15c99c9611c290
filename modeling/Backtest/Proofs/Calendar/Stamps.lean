import Backtest.Calendar.Moment
import Backtest.Proofs.Calendar.Parts

/-!
# Moments and their stamps

Names stand for moments that a clock shows, and each of these is read back from its stamp
(`Moment.OnClock.ofStamp?_stamp`). The other way round a name need not be the stamp of the moment that it stands
for: its numbers may lack zeros or have blanks before them, and the year may have a sign. A name that is as long as
a stamp and has neither blanks nor a sign is the stamp (`IsPadded.eq_stamp`).
-/

namespace Backtest.Calendar

open Backtest.Number

/-! ### Dates from parts -/

/-- Parts make a date if and only if the year is in the calendar and has the day. -/
theorem Date.ofParts?_eq_some_iff {year : Int} {month day : Nat} {d : Date} :
    Date.ofParts? year month day = some d ↔
      (firstYear ≤ year ∧ year ≤ lastYear) ∧ HasDay year month day ∧ d = Date.ofParts year month day := by
  unfold Date.ofParts?
  split
  · rename_i h
    obtain ⟨least, greatest, january, december, first, last⟩ := h
    rw [Option.some.injEq, eq_comm]
    exact ⟨fun same => ⟨⟨least, greatest⟩, ⟨january, december, first, last⟩, same⟩, fun h => h.2.2⟩
  · rename_i h
    refine ⟨fun no => (nomatch no), fun ⟨⟨least, greatest⟩, day, _⟩ => ?_⟩
    exact absurd ⟨least, greatest, day.january, day.december, day.first, day.last⟩ h

/-- A day of a year of the calendar is one of its dates. -/
theorem HasDay.inCalendar {year : Int} {month day : Nat} (h : HasDay year month day) (least : firstYear ≤ year)
    (greatest : year ≤ lastYear) : (Date.ofParts year month day).InCalendar := by
  have start : (Date.ofParts firstYear 1 1).number = daysBeforeYear firstYear + 1 := by decide
  have stop : Date.last.number = daysBeforeYear (lastYear + 1) := by decide
  have after := daysBeforeYear_mono least
  have before := daysBeforeYear_mono (Int.add_le_add_right greatest 1)
  rw [daysBeforeYear_succ] at before
  have within := h.spec.1
  have first := h.first
  refine ⟨show (Date.ofParts firstYear 1 1).number ≤ _ from ?_, show _ ≤ Date.last.number from ?_⟩
  · rw [start, Date.number_ofParts]
    omega
  · rw [stop, Date.number_ofParts]
    omega

/-! ### Moments on a clock -/

namespace Moment

variable {m n : Moment}

/-- A moment that a clock shows, on a day of the calendar. -/
structure OnClock (m : Moment) : Prop where
  date : m.date.InCalendar
  second : m.second < 86400
  nanos : m.nanos = 0 ∨ m.nanos = 1000000000 ∧ m.second % 60 = 59

/-- Of two moments on the clock that are not after each other both are the same. -/
theorem OnClock.eq_of_le (hm : m.OnClock) (hn : n.OnClock) (before : m ≤ n) (after : n ≤ m) : m = n := by
  have same : m.rank = n.rank := Int.le_antisymm before after
  have second := hm.second
  have second' := hn.second
  have nanos := hm.nanos
  have nanos' := hn.nanos
  obtain ⟨⟨number⟩, s, k⟩ := m
  obtain ⟨⟨number'⟩, s', k'⟩ := n
  simp only [rank] at same second second' nanos nanos'
  congr 2 <;> omega

/-- The numbers on a clock have two digits at most. -/
theorem OnClock.clock_lt (h : m.OnClock) :
    m.second / 3600 < 10 ^ 2 ∧ m.second / 60 % 60 < 10 ^ 2 ∧ m.clockSecond < 10 ^ 2 := by
  have second := h.second
  have nanos := h.nanos
  unfold clockSecond
  omega

/-- The clock of a moment says when it is. -/
theorem OnClock.ofClock?_parts (h : m.OnClock) :
    ofClock? m.date (m.second / 3600) (m.second / 60 % 60) m.clockSecond 0 = some m := by
  have second := h.second
  unfold ofClock? clockSecond
  rcases h.nanos with none | ⟨leap, last⟩
  · rw [if_pos (by omega), if_neg (by omega)]
    obtain ⟨date, s, k⟩ := m
    simp only at none second ⊢
    congr 2
    · omega
    · exact none.symm
  · rw [if_pos (by omega), if_pos (by omega)]
    obtain ⟨date, s, k⟩ := m
    simp only at leap last second ⊢
    congr 2 <;> omega

/-- What a clock shows is a moment with that clock. -/
theorem ofClock?_eq_some {date : Date} {hour minute second : Nat}
    (h : ofClock? date hour minute second 0 = some m) (inCalendar : date.InCalendar) :
    m.OnClock ∧ m.date = date ∧ m.second / 3600 = hour ∧ m.second / 60 % 60 = minute ∧
      m.clockSecond = second := by
  unfold ofClock? at h
  split at h
  · split at h
    · cases h
      refine ⟨⟨inCalendar, ?_, .inr ⟨rfl, ?_⟩⟩, rfl, ?_, ?_, ?_⟩
      all_goals simp only [clockSecond]; omega
    · cases h
      refine ⟨⟨inCalendar, ?_, .inl rfl⟩, rfl, ?_, ?_, ?_⟩
      all_goals simp only [clockSecond]; omega
  · cases h

/-! ### Reading stamps -/

/-- The characters of a stamp. -/
theorem toList_stamp (m : Moment) :
    m.stamp.toList = m.date.chars ++ 'T' :: (paddedDigits 2 (m.second / 3600) ++
      '-' :: (paddedDigits 2 (m.second / 60 % 60) ++ '-' :: (paddedDigits 2 m.clockSecond ++ []))) := by
  simp only [stamp, String.toList_ofList, clockChars, List.append_assoc, List.cons_append, List.append_nil]

/-- A stamp has digits, hyphens, a `T` and perhaps a sign. -/
theorem mem_stamp {c : Char} (h : c ∈ m.stamp.toList) : c.isDigit ∨ c = '-' ∨ c = '+' ∨ c = 'T' := by
  have digit (k n : Nat) (here : c ∈ paddedDigits k n) : c.isDigit := isDigit_of_mem_paddedDigits here
  have year (here : c ∈ yearText m.date.year) : c.isDigit ∨ c = '-' ∨ c = '+' := by
    unfold yearText at here
    simp only [List.mem_append] at here
    grind
  rw [toList_stamp, Date.chars] at h
  simp only [List.mem_append, List.mem_cons, List.not_mem_nil] at h
  grind

/-- There is a hyphen in every stamp. -/
theorem hyphen_mem_stamp (m : Moment) : '-' ∈ m.stamp.toList := by
  rw [toList_stamp, Date.chars]
  simp

/-- A moment on a clock is read from its stamp. -/
theorem OnClock.ofStamp?_stamp (h : m.OnClock) : ofStamp? m.stamp = some m := by
  obtain ⟨hour, minute, second⟩ := h.clock_lt
  rw [ofStamp?, toList_stamp, readDateWith?_chars (fun _ => rfl) h.date]
  simp only [Option.bind_eq_bind, Option.bind_some, expect?, if_true, readDigits?_paddedDigits hour (by decide),
    readDigits?_paddedDigits minute (by decide), readDigits?_paddedDigits second (by decide), h.ofClock?_parts]
  rfl

end Moment

/-- A character is expected where it stands in front. -/
theorem expect?_eq_some_iff {c : Char} {cs rest : List Char} : expect? c cs = some rest ↔ cs = c :: rest := by
  cases cs with
  | nil => simp [expect?]
  | cons d cs => simp [expect?]

/-- The parts of a date that is read, each with what is left behind it. -/
theorem readDateWith?_eq_some {cs rest : List Char} {d : Date} (h : readDateWith? id cs = some (d, rest)) :
    ∃ year month day afterYear afterMonth, readYear? cs = some (year, '-' :: afterYear) ∧
      readDigits? 2 afterYear = some (month, '-' :: afterMonth) ∧ readDigits? 2 afterMonth = some (day, rest) ∧
      Date.ofParts? year month day = some d := by
  simp only [readDateWith?, Option.bind_eq_bind, Option.bind_eq_some_iff, Prod.exists, id_eq,
    expect?_eq_some_iff] at h
  obtain ⟨year, _, hyear, afterYear, rfl, month, _, hmonth, afterMonth, rfl, day, _, hday, d, hd, read⟩ := h
  cases read
  exact ⟨year, month, day, afterYear, afterMonth, hyear, hmonth, hday, hd⟩

/-- The parts of a name that stands for a moment, each with what is left behind it. -/
theorem Moment.ofStamp?_eq_some {name : String} {m : Moment} (h : Moment.ofStamp? name = some m) :
    ∃ date hour minute second afterDate afterHour afterMinute,
      readDateWith? id name.toList = some (date, 'T' :: afterDate) ∧
      readDigits? 2 afterDate = some (hour, '-' :: afterHour) ∧
      readDigits? 2 afterHour = some (minute, '-' :: afterMinute) ∧
      readDigits? 2 afterMinute = some (second, []) ∧
      Moment.ofClock? date hour minute second 0 = some m := by
  simp only [Moment.ofStamp?, Option.bind_eq_bind, Option.bind_eq_some_iff, Prod.exists,
    expect?_eq_some_iff] at h
  obtain ⟨date, _, hdate, afterDate, rfl, hour, _, hhour, afterHour, rfl, minute, _, hminute, afterMinute, rfl,
    second, rest, hsecond, h⟩ := h
  cases rest with
  | nil => exact ⟨date, hour, minute, second, afterDate, afterHour, afterMinute, hdate, hhour, hminute, hsecond, h⟩
  | cons c rest => cases h

/-- Only moments on a clock are read from names. -/
theorem Moment.onClock_of_ofStamp? {name : String} {m : Moment} (h : Moment.ofStamp? name = some m) :
    m.OnClock := by
  obtain ⟨date, _, _, _, _, _, _, hdate, -, -, -, clock⟩ := Moment.ofStamp?_eq_some h
  obtain ⟨_, _, _, _, _, -, -, -, parts⟩ := readDateWith?_eq_some hdate
  obtain ⟨⟨least, greatest⟩, day, rfl⟩ := Date.ofParts?_eq_some_iff.1 parts
  exact (Moment.ofClock?_eq_some clock (day.inCalendar least greatest)).1

/-! ### Names as stamps are written -/

/-- A name as the stamps of years of four digits are written: as long, and without blanks or a sign. -/
structure IsPadded (name : String) : Prop where
  length : name.toList.length = 19
  unblanked : ∀ c ∈ name.toList, Text.isBlank c = false
  unsigned : ∀ c ∈ name.toList.head?, c.isDigit

/-- Where there are no blanks, a number is read from its digits, which have its width if there are as many of them
as can be taken. -/
theorem exists_digits_of_readDigits? {k n : Nat} {cs rest : List Char} (read : readDigits? k cs = some (n, rest))
    (unblanked : ∀ c ∈ cs, Text.isBlank c = false) :
    ∃ ds, cs = ds ++ rest ∧ (∀ c ∈ rest, Text.isBlank c = false) ∧ ds.length ≤ k ∧
      (ds.length = k → n < 10 ^ k ∧ ds = paddedDigits k n) := by
  have kept := dropBlanks_of_head? fun c front => unblanked c (List.mem_of_mem_head? front)
  unfold readDigits? at read
  rw [kept] at read
  split at read
  · cases read
  rename_i ds left some_digit taken
  cases read
  obtain ⟨digits, left⟩ := Prod.mk.inj taken
  have all : ∀ d ∈ ds, d.isDigit := by
    rw [← digits]
    exact List.all_eq_true.1 (List.all_takeWhile ..)
  have front : ds <+: cs := digits ▸ (List.takeWhile_prefix _).trans (List.take_prefix _ _)
  have split : cs = ds ++ rest := by
    rw [← left, digits]
    exact (List.prefix_iff_eq_append.1 front).symm
  refine ⟨ds, split, fun c here => unblanked c (split ▸ List.mem_append_right _ here), ?_, fun full => ?_⟩
  · rw [← digits]
    exact Nat.le_trans (List.takeWhile_prefix _).length_le (List.length_take_le ..)
  · rw [← full]
    exact ⟨digitsValue_lt all, (paddedDigits_digitsValue all (fun none => some_digit none)).symm⟩

/-- A year without a sign is read as a number. -/
theorem exists_number_of_readYear? {year : Int} {cs rest : List Char} (read : readYear? cs = some (year, rest))
    (some_character : cs ≠ []) (unsigned : ∀ c ∈ cs.head?, c.isDigit) :
    ∃ n : Nat, year = n ∧ readDigits? 4 cs = some (n, rest) := by
  obtain ⟨c, cs, rfl⟩ := List.exists_cons_of_ne_nil some_character
  rw [readYear?_of_isDigit (unsigned c rfl)] at read
  obtain ⟨⟨n, _⟩, number, same⟩ := Option.map_eq_some_iff.1 read
  cases same
  exact ⟨n, rfl, number⟩

/-- A padded name is the stamp of the moment that it stands for, as its six numbers make up its length only if each
has its full width. -/
theorem IsPadded.eq_stamp {name : String} {m : Moment} (padded : IsPadded name)
    (h : Moment.ofStamp? name = some m) : name = m.stamp := by
  obtain ⟨length, unblanked, unsigned⟩ := padded
  obtain ⟨date, hour, minute, second, afterDate, afterHour, afterMinute, hdate, hhour, hminute, hsecond, clock⟩ :=
    Moment.ofStamp?_eq_some h
  obtain ⟨year, month, day, afterYear, afterMonth, hyear, hmonth, hday, parts⟩ := readDateWith?_eq_some hdate
  have some_character : name.toList ≠ [] := fun none => by
    rw [none] at length
    cases length
  obtain ⟨n, rfl, number⟩ := exists_number_of_readYear? hyear some_character unsigned
  obtain ⟨ys, split, unblanked, yearShort, yearFull⟩ := exists_digits_of_readDigits? number unblanked
  obtain ⟨ms, rfl, unblanked, monthShort, monthFull⟩ :=
    exists_digits_of_readDigits? hmonth (List.forall_mem_cons.1 unblanked).2
  obtain ⟨ds, rfl, unblanked, dayShort, dayFull⟩ :=
    exists_digits_of_readDigits? hday (List.forall_mem_cons.1 unblanked).2
  obtain ⟨hs, rfl, unblanked, hourShort, hourFull⟩ :=
    exists_digits_of_readDigits? hhour (List.forall_mem_cons.1 unblanked).2
  obtain ⟨is, rfl, unblanked, minuteShort, minuteFull⟩ :=
    exists_digits_of_readDigits? hminute (List.forall_mem_cons.1 unblanked).2
  obtain ⟨ss, rfl, -, secondShort, secondFull⟩ :=
    exists_digits_of_readDigits? hsecond (List.forall_mem_cons.1 unblanked).2
  rw [split] at length
  simp only [List.length_append, List.length_cons, List.length_nil] at length
  obtain ⟨fourDigits, rfl⟩ := yearFull (by omega)
  obtain ⟨-, rfl⟩ := monthFull (by omega)
  obtain ⟨-, rfl⟩ := dayFull (by omega)
  obtain ⟨-, rfl⟩ := hourFull (by omega)
  obtain ⟨-, rfl⟩ := minuteFull (by omega)
  obtain ⟨-, rfl⟩ := secondFull (by omega)
  obtain ⟨⟨least, greatest⟩, hasDay, rfl⟩ := Date.ofParts?_eq_some_iff.1 parts
  obtain ⟨-, dated, rfl, rfl, rfl⟩ := Moment.ofClock?_eq_some clock (hasDay.inCalendar least greatest)
  have written : yearText (n : Int) = paddedDigits 4 n := by
    rw [yearText, if_neg (by omega), if_neg (by omega)]
    rfl
  rw [← String.toList_inj, split, Moment.toList_stamp, dated, Date.chars, hasDay.year_ofParts,
    hasDay.month_ofParts, hasDay.day_ofParts, written]
  simp only [List.append_assoc, List.cons_append]

example : Moment.ofStamp? "+2024-1- 1T0-0-0" = Moment.ofStamp? "2024-01-01T00-00-00" := by decide +kernel

/-- The stamp of a moment in a year of four digits is padded. -/
theorem Moment.OnClock.isPadded_stamp {m : Moment} (h : m.OnClock) (least : 0 ≤ m.date.year)
    (greatest : m.date.year ≤ 9999) : IsPadded m.stamp := by
  obtain ⟨hour, minute, second⟩ := h.clock_lt
  obtain ⟨month, day⟩ := m.date.parts_lt
  have year : m.date.year.natAbs < 10 ^ 4 := by omega
  have written : m.stamp.toList = paddedDigits 4 m.date.year.natAbs ++ '-' :: (paddedDigits 2 m.date.month ++
      '-' :: (paddedDigits 2 m.date.day ++ 'T' :: (paddedDigits 2 (m.second / 3600) ++
      '-' :: (paddedDigits 2 (m.second / 60 % 60) ++ '-' :: (paddedDigits 2 m.clockSecond ++ []))))) := by
    rw [Moment.toList_stamp, Date.chars, yearText, if_neg (by omega), if_neg (by omega)]
    simp only [List.append_assoc, List.cons_append, List.nil_append]
  refine ⟨?_, fun c here => ?_, fun c front => ?_⟩
  · rw [written]
    simp only [List.length_append, List.length_cons, List.length_nil, length_paddedDigits_of_lt, year, month, day,
      hour, minute, second, Nat.zero_lt_succ]
  · rcases Moment.mem_stamp here with digit | rfl | rfl | rfl
    · exact Language.isBlank_eq_false (.inr digit)
    all_goals decide
  · obtain ⟨d, ds, digits⟩ := List.exists_cons_of_ne_nil (paddedDigits_ne_nil 4 m.date.year.natAbs)
    rw [written, digits] at front
    cases front
    exact isDigit_of_mem_paddedDigits (digits ▸ List.mem_cons_self)

end Backtest.Calendar
