import Backtest.Proofs.Language.Boundaries
import Backtest.Proofs.Language.Literals
import Backtest.Proofs.Language.NumberTokens
import Backtest.Proofs.Language.ReadTrees

/-!
# Numbers refused for their value

A whole text of digits and separators is the number that its digits are, or is refused at its beginning
(`IsInteger.readExpr_eq`). Wherever in a text a number is refused for its value, a whole number that does not fit
begins there (`RefusesTooLarge`): numbers are met in the depths of the descent, whose levels fail as what they read
does, or for faults of their own.
-/

namespace Backtest.Language

open Backtest.Text

variable {α : Type} {cs : List Char}

/-! ### Whole texts -/

/-- An atom that begins as a number does is read as one. -/
theorem attempt_atom_of_number {c : Char} {tail : List Char} (front : skipBlank cs = c :: tail)
    (start : isNumberStart c) :
    attempt .atom cs = (readNumber (c :: tail)).map fun (value, rest) => (.literal value, rest) := by
  rw [attempt_atom, front, attemptFront, if_pos start]

/-- A text that is a whole number is read as the number that its digits are, if that fits. -/
theorem IsInteger.readExpr_eq (integer : IsInteger cs) :
    readExpr cs =
      if (integerValue cs : Int) ≤ Int64.maxValue.toInt then
        .ok (.literal (.int (Int64.ofInt (integerValue cs))))
      else .error ⟨.invalidNumber (String.ofList (integerDigits cs)), cs⟩ := by
  obtain ⟨d, first, digit⟩ := integer.first
  obtain ⟨tail, rfl⟩ := List.head?_eq_some_iff.1 first
  have front : skipBlank (d :: tail) = d :: tail := (begins_of_isDigit digit).front tail
  have other : d ∉ [')', ']', '-', '+', 'n'] := by
    intro here
    simp only [List.mem_cons, List.not_mem_nil, or_false] at here
    rcases here with rfl | rfl | rfl | rfl | rfl <;> contradiction
  have fronts := fronts_of_head front other
  have start : isNumberStart d := by simp [isNumberStart, digit]
  have atom := attempt_atom_of_number front start
  have ends : EndsInteger [] := by simp [EndsInteger]
  have number := integer.readNumber_eq ends
  rw [List.append_nil] at number
  rw [number] at atom
  split
  · rename_i fits
    rw [if_pos fits] at atom
    have read : read? .atom (d :: tail) =
        (some (Expr.literal (.int (Int64.ofInt (integerValue (d :: tail)))))).map (·, []) := by
      rw [read?_eq_toOption, atom]
      rfl
    rw [← toOption_eq_some, toOption_readExpr, Ends.nil.read?_loosen fronts (by decide) read]
    rfl
  · rename_i large
    rw [if_neg large] at atom
    exact readExpr_of_atom_error atom (fronts.affirmed (by decide)) (fronts.unsigned (by decide)).1
      (fronts.unsigned (by decide)).2

/-! ### Within texts -/

/-- If a number is refused for its value, a whole number that does not fit begins there. -/
def RefusesTooLarge (failure : Failure) : Prop :=
  ∀ word, failure.fault = .invalidNumber word → BeginsTooLarge failure.rest word

/-- The numbers of texts are refused so, and no other fault is a number refused for its value. -/
theorem admits_refusesTooLarge : Admits (fun _ => True) RefusesTooLarge where
  number cs := by
    cases read : readNumber cs with
    | error failure =>
      obtain ⟨fault, rest⟩ := failure
      intro word refused
      obtain rfl : fault = .invalidNumber word := refused
      obtain ⟨rfl, large⟩ := readNumber_eq_invalidNumber_iff.1 read
      exact large
    | ok found => trivial
  string _ := trivial
  constant _ := trivial
  other _ other word refused := absurd refused (other word)

/-- So are those of statements. -/
theorem readStatement_refusesTooLarge (cs : List Char) :
    Delivers (fun _ => True) RefusesTooLarge (readStatement cs) := by
  rw [readStatement]
  split
  · exact (admits_refusesTooLarge.readExpr _).map fun _ _ => trivial
  · exact (admits_refusesTooLarge.readExpr cs).map fun _ _ => trivial

/-- The position of a number that a text is refused for counts the bytes in front of it. -/
theorem exists_split_of_refused {good : α → Prop} {result : Except Failure α} {text word : String} {position : Nat}
    (delivers : Delivers good RefusesTooLarge result)
    (inside : ∀ failure, result = .error failure → failure.rest <:+ text.toList)
    (refused : result.mapError (·.toError text.toList) = .error ⟨.invalidNumber word, position⟩) :
    ∃ front back : String, text = front ++ back ∧ position = front.utf8ByteSize ∧
      BeginsTooLarge back.toList word := by
  rcases result with ⟨fault, rest⟩ | a
  · obtain ⟨front, split⟩ := inside _ rfl
    cases refused
    refine ⟨String.ofList front, String.ofList rest, ?_, ?_, ?_⟩
    · apply String.toList_injective
      simp [split]
    · rw [utf8ByteSize_eq, String.toList_ofList, ← split, byteLength_append, Nat.add_sub_cancel]
    · rw [String.toList_ofList]
      exact delivers word rfl
  · cases refused

/-! ### Exact reading -/

/-- Numbers are read exactly. A text of digits and separators is the number that its digits are, and is refused at
its beginning if that does not fit; only such a number is ever refused for its value, wherever it is met. With a
point or an exponent, what fails has no digit or no digit in its exponent. -/
theorem numbers_are_read_exactly :
    (∀ text : String, IsInteger text.toList →
      if (integerValue text.toList : Int) ≤ Int64.maxValue.toInt then
        ∃ n : Int64, n.toInt = integerValue text.toList ∧ parse text = .ok (.literal (.int n))
      else parse text = .error ⟨.invalidNumber (String.ofList (integerDigits text.toList)), 0⟩) ∧
    (∀ cs word rest,
      readNumber cs = .error ⟨.invalidNumber word, rest⟩ ↔ rest = cs ∧ BeginsTooLarge cs word) ∧
    (∀ text word position,
      (parse text = .error ⟨.invalidNumber word, position⟩ ∨
        parseStatement text = .error ⟨.invalidNumber word, position⟩) →
      ∃ front back : String, text = front ++ back ∧ position = front.utf8ByteSize ∧
        BeginsTooLarge back.toList word) ∧
    (∀ cs, ∃ digits rest, Mantissa cs digits rest) ∧
    ∀ cs digits rest, Mantissa cs digits rest → ('.' ∈ digits ∨ BeginsExponent rest) →
      ((∀ d ∈ digits, ¬d.isDigit) ∧ readNumber cs = .error ⟨.expectedNumber, cs⟩) ∨
      ((∃ d ∈ digits, d.isDigit) ∧ ∃ front body, ExponentFront rest front body ∧
        (∀ c ∈ body.head?, ¬c.isDigit) ∧ readNumber cs = .error ⟨.expectedExponentDigits, body⟩) ∨
      ∃ exponent after x, rest = exponent ++ after ∧
        Number.readFloat? (digits.filter (· != '_') ++ exponent) = some x ∧
        readNumber cs = .ok (.float x, after) := by
  refine ⟨fun text integer => ?_, fun cs word rest => readNumber_eq_invalidNumber_iff, ?_, exists_mantissa,
    fun cs digits rest mantissa => mantissa.readNumber_decimal⟩
  · split
    · rename_i fits
      refine ⟨Int64.ofInt (integerValue text.toList), Int64.toInt_ofInt_of_le ?_ ?_, ?_⟩
      · exact Int.le_trans (by decide) (Int.natCast_nonneg _)
      · exact Int.lt_of_le_of_lt fits (by decide)
      · rw [parse_eq_ok_iff, integer.readExpr_eq, if_pos fits]
    · rename_i large
      rw [parse, integer.readExpr_eq, if_neg large]
      simp [Except.mapError, Failure.toError]
  · rintro text word position (refused | refused)
    · exact exists_split_of_refused (admits_refusesTooLarge.readExpr _) (fun _ => suffix_of_readExpr_error) refused
    · exact exists_split_of_refused (readStatement_refusesTooLarge _) (fun _ => suffix_of_readStatement_error) refused

/-- Separators do not count, twenty nines do not fit, and an exponent needs a digit. -/
theorem numbers_are_read_exactly_of_separators :
    (∃ n : Int64, n.toInt = 1000 ∧ parse "1_000" = .ok (.literal (.int n))) ∧
      parse "99_999_999_999_999_999_999" = .error ⟨.invalidNumber "99999999999999999999", 0⟩ ∧
      BeginsTooLarge "99999999999999999999 * 2".toList "99999999999999999999" ∧
      ∃ front body, ExponentFront "e+".toList front body ∧ (∀ c ∈ body.head?, ¬c.isDigit) ∧
        readNumber "1.5e+".toList = .error ⟨.expectedExponentDigits, body⟩ := by
  obtain ⟨whole, refused, -, -, decimal⟩ := numbers_are_read_exactly
  refine ⟨?_, ?_, ?_, ?_⟩
  · have read := whole "1_000" (by decide)
    rwa [if_pos (by decide)] at read
  · have read := whole "99_999_999_999_999_999_999" (by decide)
    rwa [if_neg (by decide)] at read
  · exact ((refused _ _ "99999999999999999999 * 2".toList).1 rfl).2
  · have run : DigitRun [] ['1', '.', '5'] ['e', '+'] :=
      .cons (.inl rfl) (.cons (.inr (.inr ⟨rfl, by decide⟩)) (.cons (.inl rfl) (.nil (by simp [GoesOn]))))
    rcases decimal "1.5e+".toList _ _ ⟨rfl, run⟩ (.inl (by decide)) with
      ⟨none, -⟩ | ⟨-, fails⟩ | ⟨_, _, _, -, -, answer⟩
    · exact absurd rfl (none '1' (by decide))
    · exact fails
    · have lacking : readNumber "1.5e+".toList = .error ⟨.expectedExponentDigits, []⟩ := rfl
      rw [lacking] at answer
      cases answer

end Backtest.Language
