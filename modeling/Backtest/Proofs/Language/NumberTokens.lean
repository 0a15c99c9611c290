import Backtest.Language.Lexeme
import Backtest.Proofs.Number.Notation

/-!
# Number tokens

What is read of a number, told by its characters. Its digits go on as far as they can (`Mantissa`), and perhaps an
exponent stands behind them (`ExponentFront`). A token with a point or an exponent is a double whenever it has a
digit and its exponent has one; only a token of digits and separators can be refused for its value, and is if that
does not fit (`readNumber_eq_invalidNumber_iff`).
-/

namespace Backtest.Language

open Backtest.Number

variable {cs before digits rest token after body : List Char} {c : Char}

/-! ### Digits, separators and a point -/

/-- What goes on with the digits of a number: a digit, a separator behind a digit, and a point if there is none. -/
def GoesOn (front : List Char) (c : Char) : Prop :=
  c.isDigit ∨ (c = '_' ∧ ∃ d ∈ front, d.isDigit) ∨ (c = '.' ∧ '.' ∉ front)

/-- Characters that go on, behind some others, with the digits of a number, as far as that is possible. -/
structure DigitRun (before digits rest : List Char) : Prop where
  goesOn : ∀ front c back, digits = front ++ c :: back → GoesOn (before ++ front) c
  ends : ∀ c ∈ rest.head?, ¬GoesOn (before ++ digits) c

/-- The digits of the number at the front of a text, with separators and a point, and what stands behind them. -/
structure Mantissa (cs digits rest : List Char) : Prop where
  split : cs = digits ++ rest
  run : DigitRun [] digits rest

namespace DigitRun

/-- A run without digits ends at once. -/
theorem nil (ends : ∀ c ∈ rest.head?, ¬GoesOn before c) : DigitRun before [] rest where
  goesOn front c back split := by cases List.append_eq_nil_iff.1 split.symm |>.2
  ends := by rwa [List.append_nil]

/-- A character that goes on comes in front of a run. -/
theorem cons (first : GoesOn before c) (run : DigitRun (before ++ [c]) digits rest) :
    DigitRun before (c :: digits) rest where
  goesOn front d back split := by
    rcases List.cons_eq_append_iff.1 split with ⟨rfl, same⟩ | ⟨front, rfl, same⟩
    · cases same
      rwa [List.append_nil]
    · rw [List.append_cons]
      exact run.goesOn front d back same
  ends d here := by
    rw [List.append_cons]
    exact run.ends d here

/-- The first character of a run goes on. -/
theorem head (run : DigitRun before (c :: digits) rest) : GoesOn before c := by
  have first := run.goesOn [] c digits rfl
  rwa [List.append_nil] at first

/-- Behind it the run goes on. -/
theorem tail (run : DigitRun before (c :: digits) rest) : DigitRun (before ++ [c]) digits rest where
  goesOn front d back split := by
    have inside := run.goesOn (c :: front) d back (congrArg (c :: ·) split)
    rwa [List.append_cons] at inside
  ends d first := by
    have stop := run.ends d first
    rwa [List.append_cons] at stop

end DigitRun

/-- Every text begins with a run, if only an empty one. -/
theorem exists_digitRun (before cs : List Char) :
    ∃ digits rest, cs = digits ++ rest ∧ DigitRun before digits rest := by
  induction cs generalizing before with
  | nil => exact ⟨[], [], rfl, .nil (by simp)⟩
  | cons c cs ih =>
    by_cases more : GoesOn before c
    · obtain ⟨digits, rest, split, run⟩ := ih (before ++ [c])
      exact ⟨c :: digits, rest, congrArg (c :: ·) split, run.cons more⟩
    · refine ⟨[], c :: cs, rfl, .nil fun d first => ?_⟩
      obtain rfl := Option.some.inj first
      exact more

/-- Every text has digits at its front, of which there may be none. -/
theorem exists_mantissa (cs : List Char) : ∃ digits rest, Mantissa cs digits rest := by
  obtain ⟨digits, rest, split, run⟩ := exists_digitRun [] cs
  exact ⟨digits, rest, split, run⟩

/-- Scanning takes the digits as far as they go. Its flags are those of the characters before. -/
theorem scanNumber_of_run (run : DigitRun before digits rest) :
    scanNumber (before.contains '.') (before.any Char.isDigit) (digits ++ rest) =
      ⟨digits.filter (· != '_'), (before ++ digits).contains '.', (before ++ digits).any Char.isDigit, rest⟩ := by
  induction digits generalizing before with
  | nil =>
    cases rest with
    | nil => simp [scanNumber]
    | cons c rest =>
      have stop := run.ends c rfl
      simp only [GoesOn, List.append_nil, not_or, not_and] at stop
      obtain ⟨digit, separator, point⟩ := stop
      have separator' : ¬(c = '_' ∧ before.any Char.isDigit = true) := by simpa using separator
      have point' : ¬(c = '.' ∧ (!before.contains '.') = true) := by simpa using point
      rw [List.nil_append, scanNumber, if_neg digit, if_neg separator', if_neg point']
      simp
  | cons c digits ih =>
    have next := ih run.tail
    rw [List.cons_append, scanNumber]
    rcases run.head with digit | ⟨rfl, some_digit⟩ | ⟨rfl, no_point⟩
    · have point : c ≠ '.' := by
        rintro rfl
        contradiction
      have separator : c ≠ '_' := by
        rintro rfl
        contradiction
      have unmoved : (before ++ [c]).contains '.' = before.contains '.' := by simp [point.symm]
      have seen : (before ++ [c]).any Char.isDigit = true := by simp [digit]
      rw [unmoved, seen] at next
      rw [if_pos digit, next]
      simp [digit, separator, point.symm]
    · have unmoved : (before ++ ['_']).contains '.' = before.contains '.' := by simp
      have seen : before.any Char.isDigit = true := by simpa using some_digit
      have still : (before ++ ['_']).any Char.isDigit = before.any Char.isDigit := by simp
      rw [unmoved, still] at next
      rw [if_neg (by decide), if_pos ⟨rfl, seen⟩, next]
      simp
    · have unseen : before.contains '.' = false := by simpa using no_point
      have moved : (before ++ ['.']).contains '.' = true := by simp
      have still : (before ++ ['.']).any Char.isDigit = before.any Char.isDigit := by simp
      rw [moved, still] at next
      rw [if_neg (by decide), if_neg (by simp), if_pos ⟨rfl, by rw [unseen]; rfl⟩, next]
      simp

/-- The digits of a number hold digits, separators and points. -/
theorem DigitRun.mem_cases (run : DigitRun before digits rest) :
    ∀ c ∈ digits, c.isDigit ∨ c = '_' ∨ c = '.' := by
  intro c here
  obtain ⟨front, back, split⟩ := List.append_of_mem here
  rcases run.goesOn front c back split with digit | ⟨separator, -⟩ | ⟨point, -⟩
  · exact .inl digit
  · exact .inr (.inl separator)
  · exact .inr (.inr point)

/-- A run has one point at most. -/
theorem DigitRun.count_point_le (run : DigitRun before digits rest) (one : before.count '.' ≤ 1) :
    (before ++ digits).count '.' ≤ 1 := by
  induction digits generalizing before with
  | nil => rwa [List.append_nil]
  | cons c digits ih =>
    rw [List.append_cons]
    refine ih run.tail ?_
    rw [List.count_append, List.count_singleton]
    split
    · rename_i same
      obtain rfl := beq_iff_eq.1 same
      have absent : '.' ∉ before := by
        rcases run.head with digit | ⟨separator, -⟩ | ⟨-, absent⟩
        · contradiction
        · contradiction
        · exact absent
      exact Nat.le_of_eq (congrArg (· + 1) (List.count_eq_zero.2 absent))
    · exact one

/-! ### Exponents -/

/-- What stands before the digits of an exponent, a mark and perhaps a sign, and what stands behind that. -/
inductive ExponentFront : List Char → List Char → List Char → Prop where
  | unsigned {mark : Char} {body : List Char} (isMark : mark = 'e' ∨ mark = 'E')
      (noSign : ∀ c ∈ body.head?, ¬(c = '+' ∨ c = '-')) : ExponentFront (mark :: body) [mark] body
  | signed {mark sign : Char} {body : List Char} (isMark : mark = 'e' ∨ mark = 'E')
      (isSign : sign = '+' ∨ sign = '-') : ExponentFront (mark :: sign :: body) [mark, sign] body

/-- Whether a text begins with the mark of an exponent. -/
def BeginsExponent (rest : List Char) : Prop :=
  ∃ c ∈ rest.head?, c = 'e' ∨ c = 'E'

variable {front : List Char}

/-- Where the mark of an exponent stands there is the front of one. -/
theorem exists_exponentFront (begins : BeginsExponent rest) : ∃ front body, ExponentFront rest front body := by
  obtain ⟨mark, first, isMark⟩ := begins
  obtain ⟨tail, rfl⟩ := List.head?_eq_some_iff.1 first
  by_cases unsigned : ∀ c ∈ tail.head?, ¬(c = '+' ∨ c = '-')
  · exact ⟨_, _, .unsigned isMark unsigned⟩
  · simp only [Classical.not_forall, Classical.not_not] at unsigned
    obtain ⟨sign, first, isSign⟩ := unsigned
    obtain ⟨body, rfl⟩ := List.head?_eq_some_iff.1 first
    exact ⟨_, _, .signed isMark isSign⟩

/-- Without a mark there is no exponent. -/
theorem scanExponent_of_unmarked (unmarked : ¬BeginsExponent rest) : scanExponent rest = .ok ([], rest) := by
  cases rest with
  | nil => rfl
  | cons c rest =>
    have other : ¬(c = 'e' ∨ c = 'E') := fun mark => unmarked ⟨c, rfl, mark⟩
    rw [scanExponent, if_neg other]

/-- An exponent is its front with the digits behind it, which must not be missing. -/
theorem scanExponent_of_front (marked : ExponentFront rest front body) :
    scanExponent rest =
      if (body.takeWhile Char.isDigit).isEmpty then .error ⟨.expectedExponentDigits, body⟩
      else .ok (front ++ body.takeWhile Char.isDigit, body.dropWhile Char.isDigit) := by
  cases marked with
  | unsigned isMark noSign =>
    have span : spanSign body = ([], body) := by
      cases body with
      | nil => rfl
      | cons c body => rw [spanSign, if_neg (noSign c rfl)]
    rw [scanExponent, if_pos isMark, span]
  | signed isMark isSign =>
    rw [scanExponent, if_pos isMark, spanSign, if_pos isSign]

/-- A mark with digits behind it is an exponent. -/
theorem isSome_readExponent? {ds : List Char} (marked : ExponentFront rest front body)
    (all : ∀ d ∈ ds, d.isDigit) (some_digit : ds ≠ []) : (readExponent? (front ++ ds)).isSome := by
  have allDigits : ds.all Char.isDigit = true := List.all_eq_true.2 all
  have nonempty : ds.isEmpty = false := by simpa using some_digit
  have unsigned : splitSign ds = (false, ds) := by
    have chars : ∀ c ∈ ds, c.isDigit ∨ c = '.' := fun c here => .inl (all c here)
    have alone : splitSign (ds ++ []) = (false, ds ++ []) := splitSign_append chars some_digit
    rwa [List.append_nil] at alone
  cases marked with
  | unsigned isMark noSign =>
    rw [List.singleton_append, readExponent?, if_pos isMark, unsigned]
    simp [nonempty, allDigits]
  | @signed mark sign body isMark isSign =>
    have split : splitSign (sign :: ds) = (sign == '-', ds) := by
      rcases isSign with rfl | rfl <;> rfl
    rw [List.cons_append, List.singleton_append, readExponent?, if_pos isMark, split]
    simp [nonempty, allDigits]

/-- The front of an exponent is the front of the text. -/
theorem ExponentFront.split (marked : ExponentFront rest front body) : rest = front ++ body := by
  cases marked <;> rfl

/-- A mark of an exponent is followed by its digits, or they are missed. -/
theorem scanExponent_cases (begins : BeginsExponent rest) :
    (∃ front body, ExponentFront rest front body ∧ (∀ c ∈ body.head?, ¬c.isDigit) ∧
        scanExponent rest = .error ⟨.expectedExponentDigits, body⟩) ∨
      ∃ exponent after, rest = exponent ++ after ∧ exponent ≠ [] ∧ (readExponent? exponent).isSome ∧
        scanExponent rest = .ok (exponent, after) := by
  obtain ⟨front, body, marked⟩ := exists_exponentFront begins
  have scanned := scanExponent_of_front marked
  by_cases lacking : ∀ c ∈ body.head?, ¬c.isDigit
  · have none : body.takeWhile Char.isDigit = [] := by
      cases body with
      | nil => rfl
      | cons c body => exact List.takeWhile_cons_of_neg (lacking c rfl)
    rw [none, List.isEmpty_nil, if_pos rfl] at scanned
    exact .inl ⟨front, body, marked, lacking, scanned⟩
  · simp only [Classical.not_forall, Classical.not_not] at lacking
    obtain ⟨d, first, isDigit⟩ := lacking
    obtain ⟨tail, rfl⟩ := List.head?_eq_some_iff.1 first
    have some_digit : (d :: tail).takeWhile Char.isDigit ≠ [] := by simp [isDigit]
    have power := isSome_readExponent? marked (List.all_eq_true.1 List.all_takeWhile) some_digit
    rw [if_neg (by simpa using some_digit)] at scanned
    refine .inr ⟨_, _, ?_, List.append_ne_nil_of_right_ne_nil _ some_digit, power, scanned⟩
    rw [List.append_assoc, List.takeWhile_append_dropWhile]
    exact marked.split

/-! ### Tokens -/

namespace Mantissa

variable (mantissa : Mantissa cs digits rest)

include mantissa

/-- Scanning takes the digits of a mantissa without their separators. -/
theorem scanNumber_eq : scanNumber false false cs =
    ⟨digits.filter (· != '_'), digits.contains '.', digits.any Char.isDigit, rest⟩ := by
  rw [mantissa.split]
  exact scanNumber_of_run mantissa.run

/-- Without a digit there is no number. -/
theorem readNumber_of_no_digit (none : ∀ d ∈ digits, ¬d.isDigit) :
    readNumber cs = .error ⟨.expectedNumber, cs⟩ := by
  have unseen : digits.any Char.isDigit = false := by simpa using none
  rw [readNumber, mantissa.scanNumber_eq]
  simp only [unseen, Bool.not_false, if_true]

/-- Behind a digit, an exponent without digits is the failure of the number. -/
theorem readNumber_of_scanExponent_error (digit : ∃ d ∈ digits, d.isDigit) {failure : Failure}
    (lacking : scanExponent rest = .error failure) : readNumber cs = .error failure := by
  have seen : digits.any Char.isDigit = true := by simpa using digit
  rw [readNumber, mantissa.scanNumber_eq]
  simp only [seen, lacking, Bool.not_true, Bool.false_eq_true, if_false]

/-- Without its separators, a token with a digit, and with a point or an exponent, is a double. -/
theorem readNumber_of_scanExponent_ok (digit : ∃ d ∈ digits, d.isDigit) {exponent : List Char}
    (scanned : scanExponent rest = .ok (exponent, after)) (power : (readExponent? exponent).isSome)
    (decimal : '.' ∈ digits ∨ exponent ≠ []) :
    ∃ x, readFloat? (digits.filter (· != '_') ++ exponent) = some x ∧ readNumber cs = .ok (.float x, after) := by
  have chars : ∀ c ∈ digits.filter (· != '_'), c.isDigit ∨ c = '.' := by
    intro c here
    obtain ⟨inside, other⟩ := List.mem_filter.1 here
    rcases mantissa.run.mem_cases c inside with isDigit | rfl | point
    · exact .inl isDigit
    · contradiction
    · exact .inr point
  have point : (digits.filter (· != '_')).count '.' ≤ 1 :=
    Nat.le_trans (List.filter_sublist.count_le _) (mantissa.run.count_point_le (by decide))
  have kept : ∃ d ∈ digits.filter (· != '_'), d.isDigit := by
    obtain ⟨d, here, isDigit⟩ := digit
    refine ⟨d, List.mem_filter.2 ⟨here, ?_⟩, isDigit⟩
    rw [bne_iff_ne]
    rintro rfl
    contradiction
  obtain ⟨x, read⟩ := exists_readFloat? chars point kept power
  have seen : digits.any Char.isDigit = true := by simpa using digit
  have float : (digits.contains '.' || !exponent.isEmpty) = true := by simpa using decimal
  refine ⟨x, read, ?_⟩
  rw [readNumber, mantissa.scanNumber_eq]
  simp only [seen, scanned, float, read, Bool.not_true, Bool.false_eq_true, if_false, if_true, Option.map_some]

/-- A token with a point or an exponent is a double, unless it has no digit or its exponent has none. -/
theorem readNumber_decimal (decimal : '.' ∈ digits ∨ BeginsExponent rest) :
    ((∀ d ∈ digits, ¬d.isDigit) ∧ readNumber cs = .error ⟨.expectedNumber, cs⟩) ∨
      ((∃ d ∈ digits, d.isDigit) ∧ ∃ front body, ExponentFront rest front body ∧
        (∀ c ∈ body.head?, ¬c.isDigit) ∧ readNumber cs = .error ⟨.expectedExponentDigits, body⟩) ∨
      ∃ exponent after x, rest = exponent ++ after ∧
        readFloat? (digits.filter (· != '_') ++ exponent) = some x ∧
        readNumber cs = .ok (.float x, after) := by
  by_cases digit : ∃ d ∈ digits, d.isDigit
  · refine .inr ?_
    by_cases begins : BeginsExponent rest
    · rcases scanExponent_cases begins with
        ⟨front, body, marked, lacking, scanned⟩ | ⟨exponent, after, split, some_char, power, scanned⟩
      · exact .inl ⟨digit, front, body, marked, lacking, mantissa.readNumber_of_scanExponent_error digit scanned⟩
      · obtain ⟨x, read, answer⟩ := mantissa.readNumber_of_scanExponent_ok digit scanned power (.inr some_char)
        exact .inr ⟨exponent, after, x, split, read, answer⟩
    · obtain ⟨x, read, answer⟩ := mantissa.readNumber_of_scanExponent_ok digit (scanExponent_of_unmarked begins)
        rfl (.inl (decimal.resolve_right begins))
      exact .inr ⟨[], rest, x, rfl, read, answer⟩
  · have none : ∀ d ∈ digits, ¬d.isDigit := fun d here isDigit => digit ⟨d, here, isDigit⟩
    exact .inl ⟨none, mantissa.readNumber_of_no_digit none⟩

end Mantissa

/-! ### Whole numbers -/

/-- A token of a whole number: a digit, and behind it digits and separators. -/
structure IsInteger (token : List Char) : Prop where
  first : ∃ d ∈ token.head?, d.isDigit
  chars : ∀ c ∈ token, c.isDigit ∨ c = '_'

/-- A token is an integer if it begins with a digit and has digits and separators only. -/
theorem isInteger_iff :
    IsInteger token ↔ token.head?.any Char.isDigit ∧ token.all fun c => c.isDigit || c == '_' := by
  constructor
  · rintro ⟨first, chars⟩
    exact ⟨(Option.any_eq_true ..).2 first, by simpa using chars⟩
  · rintro ⟨first, chars⟩
    exact ⟨(Option.any_eq_true ..).1 first, by simpa using chars⟩

instance : DecidablePred IsInteger := fun _ => decidable_of_iff' _ isInteger_iff

/-- Nothing at the front of a text goes on with a whole number or makes it a double. -/
def EndsInteger (after : List Char) : Prop :=
  ∀ c ∈ after.head?, ¬(c.isDigit ∨ c = '_' ∨ c = '.' ∨ c = 'e' ∨ c = 'E')

/-- The digits of a token in order. -/
def integerDigits (token : List Char) : List Char :=
  token.filter Char.isDigit

/-- The number whose decimal digits are those of a token, in order. -/
def integerValue (token : List Char) : Nat :=
  Nat.ofDigitChars 10 (integerDigits token) 0

/-- Behind an integer there is no exponent. -/
theorem EndsInteger.unmarked (ends : EndsInteger after) : ¬BeginsExponent after := fun ⟨c, first, mark⟩ =>
  ends c first (.inr (.inr (.inr mark)))

namespace IsInteger

variable (integer : IsInteger token)

include integer

/-- An integer has a digit. -/
theorem exists_digit : ∃ d ∈ token, d.isDigit := by
  obtain ⟨d, first, digit⟩ := integer.first
  exact ⟨d, List.mem_of_head? first, digit⟩

/-- An integer has no point. -/
theorem no_point : '.' ∉ token := by
  intro point
  rcases integer.chars '.' point with digit | separator <;> contradiction

/-- Without its separators, a whole number is left with its digits. -/
theorem filter_separators : token.filter (· != '_') = integerDigits token := by
  refine List.filter_congr fun c here => ?_
  rcases integer.chars c here with digit | rfl
  · rw [digit, bne_iff_ne]
    rintro rfl
    contradiction
  · rfl

/-- The digits of an integer are read as its value, if that fits. -/
theorem readInt64?_eq : readInt64? (integerDigits token) =
    if (integerValue token : Int) ≤ Int64.maxValue.toInt then some (Int64.ofInt (integerValue token)) else none := by
  have all : ∀ c ∈ integerDigits token, c.isDigit := fun c here => (List.mem_filter.1 here).2
  obtain ⟨d, here, digit⟩ := integer.exists_digit
  have read := readInt64?_of_digits all (List.ne_nil_of_mem (List.mem_filter.2 ⟨here, digit⟩))
  rwa [digitsValue_eq] at read

end IsInteger

/-- The digits of a whole number are its token. -/
theorem IsInteger.mantissa (integer : IsInteger token) (ends : EndsInteger after) :
    Mantissa (token ++ after) token after where
  split := rfl
  run :=
    { goesOn := fun front c back split => by
        rcases integer.chars c (by simp [split]) with digit | rfl
        · exact .inl digit
        · obtain ⟨d, first, digit⟩ := integer.first
          cases front with
          | nil =>
            rw [split] at first
            cases first
            contradiction
          | cons d' front =>
            rw [split] at first
            obtain rfl : d' = d := Option.some.inj first
            exact .inr (.inl ⟨rfl, d', by simp, digit⟩)
      ends := fun c first more => by
        rcases more with digit | ⟨separator, -⟩ | ⟨point, -⟩
        · exact ends c first (.inl digit)
        · exact ends c first (.inr (.inl separator))
        · exact ends c first (.inr (.inr (.inl point))) }

/-- Digits of a number without a point, of which there are some, are a whole number. -/
theorem Mantissa.isInteger (mantissa : Mantissa cs digits rest) (digit : ∃ d ∈ digits, d.isDigit)
    (no_point : '.' ∉ digits) : IsInteger digits where
  first := by
    obtain ⟨d, here, -⟩ := digit
    cases digits with
    | nil => cases here
    | cons c digits =>
      rcases mantissa.run.head with isDigit | ⟨-, d, none, -⟩ | ⟨rfl, -⟩
      · exact ⟨c, rfl, isDigit⟩
      · cases none
      · exact absurd List.mem_cons_self no_point
  chars c here := by
    rcases mantissa.run.mem_cases c here with isDigit | separator | rfl
    · exact .inl isDigit
    · exact .inr separator
    · exact absurd here no_point

/-- Digits without a point and without an exponent behind them are an integer that ends there. -/
theorem Mantissa.endsInteger (mantissa : Mantissa cs digits rest) (digit : ∃ d ∈ digits, d.isDigit)
    (no_point : '.' ∉ digits) (unmarked : ¬BeginsExponent rest) : EndsInteger rest := by
  rintro c first (isDigit | separator | point | mark)
  · exact mantissa.run.ends c first (.inl isDigit)
  · exact mantissa.run.ends c first (.inr (.inl ⟨separator, digit⟩))
  · exact mantissa.run.ends c first (.inr (.inr ⟨point, no_point⟩))
  · exact unmarked ⟨c, first, mark⟩

/-- A whole number is read as the number that its digits are, if that fits. -/
theorem IsInteger.readNumber_eq (integer : IsInteger token) (ends : EndsInteger after) :
    readNumber (token ++ after) =
      if (integerValue token : Int) ≤ Int64.maxValue.toInt then
        .ok (.int (Int64.ofInt (integerValue token)), after)
      else .error ⟨.invalidNumber (String.ofList (integerDigits token)), token ++ after⟩ := by
  have mantissa := integer.mantissa ends
  have seen : token.any Char.isDigit = true := List.any_eq_true.2 integer.exists_digit
  have no_point : token.contains '.' = false := by simpa using integer.no_point
  rw [readNumber, mantissa.scanNumber_eq]
  simp only [seen, scanExponent_of_unmarked ends.unmarked, no_point, integer.filter_separators, List.append_nil,
    List.isEmpty_nil, integer.readInt64?_eq, Bool.not_true, Bool.or_false, Bool.false_eq_true, if_false]
  by_cases fits : (integerValue token : Int) ≤ Int64.maxValue.toInt
  · simp only [fits, if_true, Option.map_some]
  · simp only [fits, if_false, Option.map_none]

/-- A whole number that does not fit stands at the front of a text; the word is its digits. -/
def BeginsTooLarge (cs : List Char) (word : String) : Prop :=
  ∃ token after, cs = token ++ after ∧ IsInteger token ∧ EndsInteger after ∧
    word = String.ofList (integerDigits token) ∧ Int64.maxValue.toInt < integerValue token

/-- A number is refused for its value if and only if it is a whole number that does not fit. -/
theorem readNumber_eq_invalidNumber_iff {word : String} :
    readNumber cs = .error ⟨.invalidNumber word, rest⟩ ↔ rest = cs ∧ BeginsTooLarge cs word := by
  constructor
  · intro refused
    obtain ⟨digits, behind, mantissa⟩ := exists_mantissa cs
    by_cases decimal : '.' ∈ digits ∨ BeginsExponent behind
    · rcases mantissa.readNumber_decimal decimal with
        ⟨-, answer⟩ | ⟨-, front, body, -, -, answer⟩ | ⟨exponent, after, x, -, -, answer⟩
      all_goals
        rw [answer] at refused
        cases refused
    obtain ⟨no_point, unmarked⟩ := not_or.1 decimal
    by_cases digit : ∃ d ∈ digits, d.isDigit
    · have integer := mantissa.isInteger digit no_point
      have ends := mantissa.endsInteger digit no_point unmarked
      obtain rfl := mantissa.split
      rw [integer.readNumber_eq ends] at refused
      split at refused
      · cases refused
      · rename_i large
        cases refused
        exact ⟨rfl, digits, behind, rfl, integer, ends, rfl, Int.not_le.1 large⟩
    · have none : ∀ d ∈ digits, ¬d.isDigit := fun d here isDigit => digit ⟨d, here, isDigit⟩
      rw [mantissa.readNumber_of_no_digit none] at refused
      cases refused
  · rintro ⟨rfl, token, after, rfl, integer, ends, rfl, large⟩
    rw [integer.readNumber_eq ends, if_neg (Int.not_le.2 large)]

end Backtest.Language
