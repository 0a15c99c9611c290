import Backtest.Proofs.Language.Boundaries
import Backtest.Proofs.Language.RoundTrip

/-!
# The margins of a text

White space before a text moves its faults and changes nothing else. White space and a comment behind a text
that can be read change nothing at all, whatever the comment holds: a quote, a line break or an operator in it
can only matter where something of the text is still open.
-/

namespace Backtest.Language

open Backtest.Text

/-- An error some bytes further on. -/
def ParseError.moved (bytes : Nat) (e : ParseError) : ParseError :=
  { e with position := e.position + bytes }

section Before

variable {ws : List Char}

/-- A failure in a text is found as many bytes further on as stand before the text. -/
theorem toError_append {cs : List Char} {failure : Failure} (suffix : failure.rest <:+ cs) (ws : List Char) :
    failure.toError (ws ++ cs) = (failure.toError cs).moved (byteLength ws) := by
  have within := byteLength_le_of_suffix suffix
  simp only [Failure.toError, ParseError.moved, byteLength_append]
  congr 1
  omega

/-- Statements are read alike where only the blanks in front differ. -/
theorem readStatement_congr {cs ds : List Char} (h : skipBlank cs = skipBlank ds) :
    readStatement cs = readStatement ds := by
  rw [readStatement, readStatement, assignee?_congr h, readExpr_congr h]

/-- The positions of errors move by the length of what is put in front. -/
theorem mapError_toError_append {α : Type} {result : Except Failure α} {cs : List Char}
    (suffix : ∀ failure, result = .error failure → failure.rest <:+ cs) (ws : List Char) :
    result.mapError (·.toError (ws ++ cs)) =
      (result.mapError (·.toError cs)).mapError (·.moved (byteLength ws)) := by
  cases result with
  | ok a => rfl
  | error failure => exact congrArg Except.error (toError_append (suffix failure rfl) ws)

end Before

section Behind

/-- A changed success was one before. -/
theorem exists_of_map_eq_ok {ε α β : Type} {x : Except ε α} {f : α → β} {b : β} (h : x.map f = .ok b) :
    ∃ a, x = .ok a ∧ f a = b := by
  cases x with
  | error failure => contradiction
  | ok a =>
    cases h
    exact ⟨a, rfl, rfl⟩

/-- Blanks and a comment behind a statement do not matter. -/
theorem readStatement_append {tail : List Char} (silent : Silent tail) {cs : List Char} {s : Statement}
    (read : readStatement cs = .ok s) : readStatement (cs ++ tail) = .ok s := by
  rw [readStatement] at read ⊢
  rw [silent.assignee?_append]
  generalize assignee? cs = assigned at read ⊢
  cases assigned with
  | none =>
    obtain ⟨e, alone, rfl⟩ := exists_of_map_eq_ok read
    simp only [Option.map_none, readExpr_append silent alone, Except.map]
  | some assignment =>
    obtain ⟨value, alone, rfl⟩ := exists_of_map_eq_ok read
    simp only [Option.map_some, readExpr_append silent alone, Except.map]

/-- White space and a comment are silent. -/
theorem silent_comment {ws : List Char} (blank : ∀ c ∈ ws, isBlank c) (comment : List Char) :
    Silent (ws ++ '#' :: comment) := by
  rw [Silent, skipBlank_append_of_blank blank]
  rfl

end Behind

/-- White space around a text and a comment behind it do not matter. Before any text, white space moves the
error by its bytes; behind a text that is an expression or a statement, white space and any comment leave
the same one. -/
theorem margins_do_not_matter (t comment : String) {w : String} (blank : ∀ c ∈ w.toList, isBlank c) :
    (parse (w ++ t) = (parse t).mapError (·.moved w.utf8ByteSize) ∧
      ∀ e, parse t = .ok e → parse (t ++ w ++ "#" ++ comment) = .ok e) ∧
    parseStatement (w ++ t) = (parseStatement t).mapError (·.moved w.utf8ByteSize) ∧
      ∀ s, parseStatement t = .ok s → parseStatement (t ++ w ++ "#" ++ comment) = .ok s := by
  have before := skipBlank_append_of_blank blank t.toList
  have silent := silent_comment blank comment.toList
  have behind : (t ++ w ++ "#" ++ comment).toList = t.toList ++ (w.toList ++ '#' :: comment.toList) := by
    simp
  have size := utf8ByteSize_eq w
  refine ⟨⟨?_, fun e read => ?_⟩, ?_, fun s read => ?_⟩
  · rw [parse, parse, String.toList_append, readExpr_congr before, size]
    exact mapError_toError_append (fun _ => suffix_of_readExpr_error) w.toList
  · rw [parse_eq_ok_iff, behind]
    exact readExpr_append silent (parse_eq_ok_iff.1 read)
  · rw [parseStatement, parseStatement, String.toList_append, readStatement_congr before, size]
    exact mapError_toError_append (fun _ => suffix_of_readStatement_error) w.toList
  · rw [parseStatement_eq_ok_iff, behind]
    exact readStatement_append silent (parseStatement_eq_ok_iff.1 read)

/-- Two characters that take four bytes, before a text that is no expression and behind one that is. -/
theorem margins_do_not_matter_of_wide_space :
    parse ("\u3000 " ++ ")") = .error ⟨.expectedExpression (some ")"), 4⟩ ∧
      parse ("1" ++ "\u3000 " ++ "#" ++ "\"\n)") = .ok (.literal (.int 1)) := by
  have blank : ∀ c ∈ "\u3000 ".toList, isBlank c := by
    have wide : isBlank '\u3000' := by decide +kernel
    have narrow : isBlank ' ' := by decide +kernel
    have chars : "\u3000 ".toList = ['\u3000', ' '] := by simp
    simp [chars, wide, narrow]
  have close : parse ")" = .error ⟨.expectedExpression (some ")"), 0⟩ := by
    have atom : attempt .atom ")".toList = .error ⟨.expectedExpression (some ")"), [')']⟩ := by
      rw [attempt_atom]
      have front : skipBlank ")".toList = [')'] := by decide +kernel
      rw [front]
      rfl
    rw [parse, readExpr_of_atom_error atom (by decide +kernel) (by decide +kernel) (by decide +kernel)]
    rfl
  have one : parse "1" = .ok (.literal (.int 1)) := by
    rw [parse_eq_ok_iff]
    exact readExpr_tokens (.literal (.int 1 (by decide))) (by decide +kernel)
  have moved := (margins_do_not_matter ")" "" blank).1.1
  rw [close] at moved
  exact ⟨moved, (margins_do_not_matter "1" "\"\n)" blank).1.2 _ one⟩

end Backtest.Language
