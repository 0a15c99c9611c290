import Backtest.Proofs.Language.Printer
import Backtest.Proofs.Language.Quotation
import Backtest.Proofs.Number.Digits

/-!
# Tokens as characters

How the readers of lexemes treat tokens that stand with a blank before each. A token is read whole, since
what follows it is a blank or the end, and an operator is not mistaken for another that it begins with.
-/

namespace Backtest.Language

open Backtest.Text

/-- Tokens with a blank before each. -/
def spaced (tokens : List String) : List Char :=
  tokens.flatMap fun t => ' ' :: t.toList

/-- Without tokens there are no characters. -/
@[simp] theorem spaced_nil : spaced [] = [] :=
  rfl

/-- A token stands behind a blank. -/
@[simp] theorem spaced_cons (t : String) (ts : List String) :
    spaced (t :: ts) = ' ' :: (t.toList ++ spaced ts) :=
  rfl

/-- What follows a token does not go on with it. -/
theorem spaced_cases (ts : List String) : spaced ts = [] ∨ ∃ cs, spaced ts = ' ' :: cs := by
  cases ts with
  | nil => exact .inl rfl
  | cons t ts => exact .inr ⟨_, rfl⟩

/-- A blank is skipped. -/
theorem skipBlank_space (cs : List Char) : skipBlank (' ' :: cs) = skipBlank cs :=
  rfl

/-- What is no blank and begins no comment is not skipped. -/
theorem skipBlank_cons {c : Char} (blank : isBlank c = false) (comment : c ≠ '#') (cs : List Char) :
    skipBlank (c :: cs) = c :: cs := by
  simp [skipBlank, blank, comment]

/-- Symbols are found alike where only the blanks in front differ. -/
theorem symbol?_congr {cs ds : List Char} (h : skipBlank cs = skipBlank ds) (text : String) :
    symbol? text cs = symbol? text ds := by
  rw [symbol?, symbol?, h]

/-- So are keywords. -/
theorem keyword?_congr {cs ds : List Char} (h : skipBlank cs = skipBlank ds) (word : String) :
    keyword? word cs = keyword? word ds := by
  rw [keyword?, keyword?, symbol?_congr h]

/-- A text that is found stands in front of its rest. -/
theorem eq_append_of_afterText? {ts cs rest : List Char} (h : afterText? ts cs = some rest) :
    cs = ts ++ rest := by
  induction ts generalizing cs with
  | nil => simpa [afterText?] using h
  | cons t ts ih =>
    cases cs with
    | nil => contradiction
    | cons c cs =>
      rw [afterText?] at h
      split at h
      · rename_i same
        rw [same, ih h, List.cons_append]
      · contradiction

/-- A symbol that is found stands in front, once blanks are skipped. -/
theorem skipBlank_of_symbol? {text : String} {cs rest : List Char} (h : symbol? text cs = some rest) :
    skipBlank cs = text.toList ++ rest :=
  eq_append_of_afterText? h

/-- Behind a keyword no word goes on. -/
theorem word_of_keyword? {word : String} {cs rest : List Char} (h : keyword? word cs = some rest) :
    ∀ c ∈ rest.head?, isWordChar c = false := by
  unfold keyword? at h
  split at h
  · split at h
    · contradiction
    · rename_i other
      cases h
      simpa using other
  · rename_i other
    cases rest with
    | nil => simp
    | cons c rest => exact absurd h (other c rest)

section Characters

/-- A property that fails at every character of some ranges. -/
theorem eq_false_of_has (ranges : CharRanges) (p : Char → Bool)
    (h : ranges.all fun r => (List.range' r.1 (r.2 + 1 - r.1)).all fun n => !p (Char.ofNat n))
    {c : Char} (hc : ranges.has c) : p c = false := by
  obtain ⟨r, hr, bounds⟩ := List.any_eq_true.1 hc
  rw [Bool.and_eq_true, decide_eq_true_eq, decide_eq_true_eq] at bounds
  have inside := List.all_eq_true.1 (List.all_eq_true.1 h r hr) c.toNat
    (List.mem_range'_1.2 ⟨bounds.1, by omega⟩)
  simpa using inside

/-- Characters that a number or a word begins with are no blanks. -/
theorem isBlank_eq_false {c : Char} (h : isWordStart c ∨ c.isDigit) : isBlank c = false := by
  cases blank : isBlank c with
  | false => rfl
  | true =>
    have neither := eq_false_of_has blankRanges (fun c => isWordStart c || c.isDigit)
      (by decide +kernel) blank
    rw [Bool.or_eq_false_iff] at neither
    simp_all

/-- A word begins with no digit. -/
theorem isDigit_eq_false_of_isWordStart {c : Char} (h : isWordStart c) : c.isDigit = false := by
  cases digit : c.isDigit with
  | false => rfl
  | true =>
    have range : CharRanges.has [(0x30, 0x39)] c := by
      simpa [CharRanges.has, Char.isDigit, UInt32.le_iff_toNat_le] using digit
    have := eq_false_of_has _ isWordStart (by decide) range
    simp_all

/-- A word begins with none of the marks that begin other atoms. -/
theorem isWordStart_apart {c : Char} (h : isWordStart c) :
    isNumberStart c = false ∧ ¬(c = '"' ∨ c = '\'') ∧ c ≠ '(' ∧ c ≠ '[' ∧ c ≠ '#' := by
  have other : ∀ {d}, isWordStart d = false → c ≠ d := by
    rintro d hd rfl
    simp_all
  refine ⟨?_, not_or.2 ⟨other (by decide), other (by decide)⟩, other (by decide), other (by decide),
    other (by decide)⟩
  have point : c ≠ '.' := other (by decide)
  simp [isNumberStart, isDigit_eq_false_of_isWordStart h, point]

end Characters

section Operators

/-- An operator of a chain is read as itself. -/
theorem chainOp?_spaced {c : Chain} {op : BinaryOp} (h : op.level = .chain c) (ts : List String) :
    chainOp? c (spaced (op.symbol :: ts)) = some (op, spaced ts) := by
  cases op with
  | arithmetic op => cases op <;> cases h <;> cases ts <;> rfl
  | equality op => cases h
  | order op => cases h
  | logic op => cases op <;> cases h <;> cases ts <;> rfl

/-- A comparison is read as itself. -/
theorem comparisonOp?_spaced {op : BinaryOp} (h : op.level = .comparison) (ts : List String) :
    comparisonOp? (spaced (op.symbol :: ts)) = some (op, spaced ts) := by
  cases op with
  | arithmetic op => cases op <;> cases h
  | equality op => cases op <;> cases ts <;> rfl
  | order op => cases op <;> cases ts <;> rfl
  | logic op => cases op <;> cases h

/-- What may follow an expression that is read at a level: the end, a closing mark, or an operator that is
looser than the level. -/
inductive Follows (level : Level) : List String → Prop where
  | nil : Follows level []
  | closing {t : String} (h : t ∈ [")", "]", ","]) (ts : List String) : Follows level (t :: ts)
  | operator {op : BinaryOp} (h : level.rank < op.level.rank) (ts : List String) :
      Follows level (op.symbol :: ts)

variable {ts : List String}

/-- The closing marks are two brackets and the comma. -/
theorem closing_cases {t : String} (h : t ∈ [")", "]", ","]) : t = ")" ∨ t = "]" ∨ t = "," := by
  simpa using h

/-- What may follow a level may follow the tighter ones. -/
theorem Follows.mono {level looser : Level} (follows : Follows looser ts)
    (h : level.rank ≤ looser.rank) : Follows level ts := by
  cases follows with
  | nil => exact .nil
  | closing ht ts => exact .closing ht ts
  | operator hop ts => exact .operator (Nat.lt_of_le_of_lt h hop) ts

/-- What may follow a power may follow a sign, for there is no operator between the two. -/
theorem Follows.sign (follows : Follows .power ts) : Follows .sign ts := by
  cases follows with
  | nil => exact .nil
  | closing ht ts => exact .closing ht ts
  | @operator op hop ts =>
    have looser : Level.sign.rank < op.level.rank := by
      rcases op with op | op | op | op <;> cases op <;> first | contradiction | decide
    exact .operator looser ts

/-- Nothing at the front of the characters goes on with what was read at a level. -/
def Level.Ended : Level → List Char → Prop
  | .chain c, cs => chainOp? c cs = none
  | .comparison, cs => comparisonOp? cs = none
  | .power, cs => symbol? "**" cs = none
  | _, _ => True

/-- What may follow an expression neither goes on with it nor calls it. -/
theorem Follows.excludes {level : Level} (follows : Follows level ts) :
    level.Ended (spaced ts) ∧ (skipBlank (spaced ts)).head? ≠ some '(' := by
  rcases level with (_ | _ | _ | _) | _ | _ | _ | _ | _ <;> cases follows with
  | nil => exact ⟨by first | rfl | trivial, by decide⟩
  | closing ht ts =>
    rcases closing_cases ht with rfl | rfl | rfl <;>
      exact ⟨by first | rfl | trivial, fun h => absurd (Option.some.inj h) (by decide)⟩
  | @operator op hop ts =>
    rcases op with op | op | op | op <;> cases op <;> first
      | contradiction
      | exact ⟨by cases ts <;> first | rfl | trivial, fun h => absurd (Option.some.inj h) (by decide)⟩

end Operators

section Numbers

open Backtest.Number

/-- Digits stay with the digits of a number. -/
theorem scanNumber_digits {ds : List Char} (digits : ∀ d ∈ ds, d.isDigit) (hasPoint hasDigit : Bool)
    (rest : List Char) :
    scanNumber hasPoint hasDigit (ds ++ rest) =
      let scan := scanNumber hasPoint (hasDigit || !ds.isEmpty) rest
      { scan with kept := ds ++ scan.kept } := by
  induction ds generalizing hasDigit with
  | nil => simp
  | cons d ds ih =>
    have digit : d.isDigit := digits d List.mem_cons_self
    rw [List.cons_append, scanNumber, if_pos digit, ih fun e he => digits e (List.mem_cons_of_mem _ he)]
    simp

/-- A number ends where its token ends. -/
theorem scanNumber_spaced (hasPoint hasDigit : Bool) (ts : List String) :
    scanNumber hasPoint hasDigit (spaced ts) = ⟨[], hasPoint, hasDigit, spaced ts⟩ := by
  cases ts with
  | nil => rfl
  | cons t ts => simp [scanNumber]

/-- Behind a token there is no exponent. -/
theorem scanExponent_spaced (ts : List String) : scanExponent (spaced ts) = .ok ([], spaced ts) := by
  cases ts with
  | nil => rfl
  | cons t ts => rfl

/-- Digits have no sign. -/
theorem splitSign_digits (n : Nat) : splitSign (digits n) = (false, digits n) := by
  cases h : digits n with
  | nil => rfl
  | cons d ds =>
    have digit : d.isDigit := isDigit_of_mem_digits (h ▸ List.mem_cons_self)
    unfold splitSign
    split
    · simp_all
    · simp_all
    · rfl

/-- A whole number of 64 bits is read back from its digits. -/
theorem readInt64?_digits {n : Int64} (nonneg : 0 ≤ n.toInt) :
    readInt64? (digits n.toInt.natAbs) = some n := by
  have nonempty : (digits n.toInt.natAbs).isEmpty = false := by
    simp [digits, Nat.toDigits_ne_nil]
  have all : (digits n.toInt.natAbs).all Char.isDigit := by
    rw [List.all_eq_true]
    exact fun d hd => isDigit_of_mem_digits hd
  have value : ((n.toInt.natAbs : Nat) : Int) = n.toInt := Int.natAbs_of_nonneg nonneg
  have range : Int64.minValue.toInt ≤ n.toInt ∧ n.toInt ≤ Int64.maxValue.toInt :=
    ⟨n.minValue_le_toInt, n.toInt_le⟩
  rw [readInt64?, readInteger?, splitSign_digits]
  simp only [nonempty, all, digitsValue_digits, value, Bool.not_true, Bool.or_false,
    Bool.false_eq_true, if_false, if_pos range, Option.map_some, Int64.ofInt_toInt]

/-- What does not go on with a number. -/
structure EndsNumber (rest : List Char) : Prop where
  digits : ∀ hasPoint hasDigit, scanNumber hasPoint hasDigit rest = ⟨[], hasPoint, hasDigit, rest⟩
  exponent : scanExponent rest = .ok ([], rest)

/-- A number ends with its token. -/
theorem endsNumber_spaced (ts : List String) : EndsNumber (spaced ts) :=
  ⟨fun hasPoint hasDigit => scanNumber_spaced hasPoint hasDigit ts, scanExponent_spaced ts⟩

/-- A number is read from its digits if it fits. -/
theorem readNumber_digits (m : Nat) {rest : List Char} (ends : EndsNumber rest) :
    readNumber (digits m ++ rest) =
      match readInt64? (digits m) with
      | some n => .ok (.int n, rest)
      | none => .error ⟨.invalidNumber (String.ofList (digits m)), digits m ++ rest⟩ := by
  have isDigit : ∀ d ∈ digits m, d.isDigit := fun d hd => isDigit_of_mem_digits hd
  have nonempty : (digits m).isEmpty = false := by simp [digits, Nat.toDigits_ne_nil]
  have scanned : scanNumber false false (digits m ++ rest) = ⟨digits m, false, true, rest⟩ := by
    simp [scanNumber_digits isDigit, ends.digits, nonempty]
  simp only [readNumber, scanned, ends.exponent]
  cases h : readInt64? (digits m) <;> simp [h]

/-- Digits begin with one that is neither a blank nor a comment. -/
theorem exists_front_digits (m : Nat) (rest : List Char) :
    ∃ d ds, digits m ++ rest = d :: ds ∧ d.isDigit ∧ skipBlank (digits m ++ rest) = d :: ds := by
  cases h : digits m with
  | nil => exact absurd h Nat.toDigits_ne_nil
  | cons d ds =>
    have digit : d.isDigit := isDigit_of_mem_digits (h ▸ List.mem_cons_self)
    have comment : d ≠ '#' := by
      rintro rfl
      contradiction
    exact ⟨d, ds ++ rest, rfl, digit, skipBlank_cons (isBlank_eq_false (.inr digit)) comment _⟩

end Numbers

section Strings

/-- A text is read back from between its quotes. -/
theorem scanString_escaped (text rest : List Char) :
    scanString '"' (text.flatMap escapeChar ++ '"' :: rest) = some (text, rest) := by
  induction text with
  | nil =>
    rw [List.flatMap_nil, List.nil_append, scanString_close]
  | cons c text ih =>
    rw [List.flatMap_cons, List.append_assoc, escapeChar]
    by_cases special : c = '\\' ∨ c = '"'
    · have known : escaped? c = some c := by rcases special with rfl | rfl <;> rfl
      rw [if_pos special, List.cons_append, List.singleton_append, scanString_known known, ih,
        Option.map_some]
    · have plain : ∀ d ∈ [c], d ≠ '"' ∧ d ≠ '\\' := by simpa [and_comm] using special
      rw [if_neg special, scanString_plain plain, ih]
      rfl

end Strings

section Words

/-- A word ends where its characters end. -/
theorem spanWord_append {word rest : List Char} (h : ∀ c ∈ word, isWordChar c)
    (stop : ∀ c ∈ rest.head?, isWordChar c = false) : spanWord (word ++ rest) = (word, rest) := by
  rw [spanWord, List.takeWhile_append_of_pos h, List.dropWhile_append_of_pos h]
  cases rest with
  | nil => simp
  | cons c rest => simp [stop c rfl]

/-- No word goes on behind its token. -/
theorem isWordChar_head_spaced (ts : List String) :
    ∀ c ∈ (spaced ts).head?, isWordChar c = false := by
  intro c hc
  rcases spaced_cases ts with none | ⟨cs, some⟩
  · rw [none] at hc
    contradiction
  · rw [some] at hc
    cases hc
    decide

/-- Texts that are read as one word. -/
structure IsWord (word : String) : Prop where
  start : ∃ c cs, word.toList = c :: cs ∧ isWordStart c
  chars : ∀ c ∈ word.toList, isWordChar c

/-- A reserved word is a word. -/
theorem isWord_of_reserved {word : String} (h : word ∈ reservedWords) : IsWord word := by
  simp only [reservedWords, List.mem_cons, List.not_mem_nil, or_false] at h
  rcases h with rfl | rfl | rfl | rfl | rfl | rfl <;>
    exact ⟨⟨_, _, rfl, by decide⟩, List.all_eq_true.1 (by decide)⟩

/-- An identifier is a word. -/
theorem isWord_of_isIdentifier {name : String} (h : isIdentifier name) : IsWord name := by
  unfold isIdentifier at h
  split at h
  · contradiction
  · rename_i c cs split
    simp only [Bool.and_eq_true, List.all_eq_true] at h
    obtain ⟨⟨start, chars⟩, -⟩ := h
    refine ⟨⟨c, cs, split, start⟩, ?_⟩
    rw [split]
    exact List.forall_mem_cons.2 ⟨isWordChar_of_isWordStart start, chars⟩

/-- It is neither a constant nor an operator. -/
theorem not_reserved_of_isIdentifier {name : String} (h : isIdentifier name) :
    constant? name = none ∧ isOperatorWord name = false := by
  have other : ∀ word ∈ reservedWords, name ≠ word := by
    unfold isIdentifier at h
    split at h
    · contradiction
    · simp only [Bool.and_eq_true, Bool.not_eq_true', List.contains_eq_mem, decide_eq_false_iff_not] at h
      rintro word hword rfl
      exact h.2 hword
  constructor
  · simp [constant?, other "True" (by decide), other "False" (by decide), other "None" (by decide)]
  · simp [isOperatorWord, other "and" (by decide), other "or" (by decide), other "not" (by decide)]

/-- A word is neither a blank nor a comment. -/
theorem IsWord.skipBlank_append {word : String} (h : IsWord word) (rest : List Char) :
    skipBlank (word.toList ++ rest) = word.toList ++ rest := by
  obtain ⟨c, cs, split, start⟩ := h.start
  rw [split, List.cons_append,
    skipBlank_cons (isBlank_eq_false (.inl start)) (isWordStart_apart start).2.2.2.2]

/-- What stands at the front of tokens that begin with a word. -/
structure WordFront (word : String) (ts : List String) (c : Char) (tail : List Char) : Prop where
  start : isWordStart c
  span : spanWord (c :: tail) = (word.toList, spaced ts)
  front : skipBlank (spaced (word :: ts)) = c :: tail

/-- A word in front of tokens is found there. -/
theorem IsWord.exists_front {word : String} (h : IsWord word) (ts : List String) :
    ∃ c tail, WordFront word ts c tail := by
  obtain ⟨c, cs, split, start⟩ := h.start
  have span := spanWord_append h.chars (isWordChar_head_spaced ts)
  rw [split, List.cons_append] at span
  refine ⟨c, cs ++ spaced ts, start, split ▸ span, ?_⟩
  rw [spaced_cons, skipBlank_space, h.skipBlank_append, split, List.cons_append]

end Words

end Backtest.Language
