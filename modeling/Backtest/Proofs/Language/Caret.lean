import Backtest.Proofs.Language.Boundaries
import Backtest.Proofs.Language.RoundTrip

/-!
# The caret under a text

A text that cannot be read is shown with a caret on the line below it. The caret stands behind as many spaces
as bytes come before the fault, and not as characters do: it is under the fault if and only if no character
before the fault takes more than one byte.
-/

namespace Backtest.Language

open Backtest.Text

section Layout

/-- The line below the first one in the context of an error. -/
def ParseError.caretLine? (e : ParseError) (text : String) : Option (List Char) :=
  (pieces '\n' (e.context text).toList)[1]?

/-- A caret behind some spaces. -/
def caretBehind (spaces : Nat) : List Char :=
  List.replicate spaces ' ' ++ ['^']

/-- A caret tells the spaces in front of it. -/
theorem caretBehind_inj {m n : Nat} : caretBehind m = caretBehind n ↔ m = n := by
  constructor
  · intro same
    have lengths := congrArg List.length same
    simpa only [caretBehind, List.length_append, List.length_replicate, List.length_singleton,
      Nat.add_right_cancel_iff] using lengths
  · rintro rfl
    rfl

/-- A caret stands on one line. -/
theorem newline_not_mem_caretBehind (spaces : Nat) : '\n' ∉ caretBehind spaces := by
  simp [caretBehind, List.mem_replicate]

/-- Below a text of one line stands the caret, behind a space for each byte before the fault. -/
theorem ParseError.caretLine?_eq {text : String} (oneLine : '\n' ∉ text.toList) (e : ParseError) :
    e.caretLine? text = some (caretBehind e.position) := by
  have lines : (e.context text).toList =
      text.toList ++ '\n' :: (caretBehind e.position ++ '\n' :: e.message.toList) := by
    simp [context, caretBehind]
  rw [caretLine?, lines, pieces_append, pieces_append, pieces_of_not_mem oneLine,
    pieces_of_not_mem (newline_not_mem_caretBehind _)]
  rfl

end Layout

section Width

/-- Characters take as many bytes as they are if each of them takes one. -/
theorem byteLength_eq_length_iff {cs : List Char} : byteLength cs = cs.length ↔ ∀ c ∈ cs, c.val ≤ 127 := by
  induction cs with
  | nil => simp [byteLength]
  | cons c cs ih =>
    have least := length_le_byteLength cs
    have size := c.utf8Size_pos
    rw [List.forall_mem_cons, ← ih, ← Char.utf8Size_eq_one_iff, byteLength, List.length_cons]
    omega

end Width

/-- The error of a text is found behind whole characters of it. -/
theorem exists_before_fault {text : String} {e : ParseError} (rejected : parse text = .error e) :
    ∃ front back : String, text = front ++ back ∧ e.position = front.utf8ByteSize := by
  rw [parse] at rejected
  cases read : readExpr text.toList with
  | ok tree =>
    rw [read] at rejected
    contradiction
  | error failure =>
    rw [read] at rejected
    obtain ⟨front, split⟩ := suffix_of_readExpr_error read
    cases rejected
    refine Walk.exists_append_of_onBoundary ⟨front, failure.rest, split.symm, ?_⟩
    simp only [Failure.toError, ← split, byteLength_append, Nat.add_sub_cancel]

/-- Below a text of one line that is no expression, the caret stands behind a space for each byte before the
fault. It stands behind a space for each character, and so under the fault, if and only if no character
before the fault takes more than one byte. -/
theorem caret_under_fault_iff {text : String} (oneLine : '\n' ∉ text.toList) {e : ParseError}
    (rejected : parse text = .error e) :
    ∃ front back : String, text = front ++ back ∧ e.position = front.utf8ByteSize ∧
      e.caretLine? text = some (caretBehind front.utf8ByteSize) ∧
      (e.caretLine? text = some (caretBehind front.length) ↔ ∀ c ∈ front.toList, c.val ≤ 127) := by
  obtain ⟨front, back, split, position⟩ := exists_before_fault rejected
  have line := ParseError.caretLine?_eq oneLine e
  refine ⟨front, back, split, position, by rw [line, position], ?_⟩
  rw [line, Option.some_inj, caretBehind_inj, position, utf8ByteSize_eq, ← String.length_toList,
    byteLength_eq_length_iff]

/-- A name of two bytes before a parenthesis that nothing has opened. -/
theorem parse_accented : parse "é )" = .error ⟨.unexpectedInput ")", 3⟩ := by
  have follows : Follows .loosest [")"] := .closing (by decide) []
  have name : ReadsBack (.name "é") := .name (by decide +kernel)
  obtain ⟨_, read⟩ := name.loosest follows "é )".toList (by decide +kernel)
  have behind : skipBlank (spaced [")"]) = [')'] := by decide +kernel
  have position : byteLength "é )".toList - byteLength [')'] = 3 := by decide +kernel
  have ended : readEnd (spaced [")"]) = .error ⟨.unexpectedInput ")", [')']⟩ := by
    rw [readEnd, behind]
  rw [parse, readExpr, read]
  dsimp only
  rw [ended]
  exact congrArg (fun fault => Except.error (ParseError.mk (.unexpectedInput ")") fault)) position

/-- The caret of a text with a name of two bytes stands behind three spaces, and the fault behind two
characters. -/
theorem caret_under_fault_iff_of_accent :
    '\n' ∉ "é )".toList ∧ parse "é )" = .error ⟨.unexpectedInput ")", 3⟩ ∧
      ∃ front back : String, "é )" = front ++ back ∧ 3 = front.utf8ByteSize ∧
        ParseError.caretLine? ⟨.unexpectedInput ")", 3⟩ "é )" = some (caretBehind front.utf8ByteSize) ∧
        (ParseError.caretLine? ⟨.unexpectedInput ")", 3⟩ "é )" = some (caretBehind front.length) ↔
          ∀ c ∈ front.toList, c.val ≤ 127) := by
  have oneLine : '\n' ∉ "é )".toList := by decide +kernel
  exact ⟨oneLine, parse_accented, caret_under_fault_iff oneLine parse_accented⟩

/-- The caret is not always behind a space for each character. -/
theorem not_all_carets_under_faults :
    ¬∀ (text front back : String) (e : ParseError), '\n' ∉ text.toList → parse text = .error e →
      text = front ++ back → e.position = front.utf8ByteSize →
      e.caretLine? text = some (caretBehind front.length) := by
  intro always
  have oneLine : '\n' ∉ "é )".toList := by decide +kernel
  have under := always "é )" "é " ")" _ oneLine parse_accented (by decide +kernel) (by decide +kernel)
  rw [ParseError.caretLine?_eq oneLine, Option.some_inj, caretBehind_inj] at under
  revert under
  decide +kernel

end Backtest.Language
