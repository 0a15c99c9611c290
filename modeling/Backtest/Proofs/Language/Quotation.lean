import Backtest.Language.Lexeme
import Backtest.Text.Quoted

/-!
# Reading quoted texts

The writer of quoted texts knows more escapes than the reader. An escape that the reader does not know is
read as the characters that it is written with, so that a quoted text comes back exactly if it has no
character with such an escape.
-/

namespace Backtest.Language

open Backtest.Text

/-- Characters that come back from a quoted text: those that stand for themselves, and those whose escape the
reader knows. -/
def Kept (c : Char) : Prop :=
  spelling c = .plain ∨ c ∈ ['\n', '\t', '"', '\\']

instance : DecidablePred Kept := fun _ =>
  inferInstanceAs (Decidable (_ ∨ _))

/-- What is read of a character in a quoted text. -/
def rereadChar (c : Char) : List Char :=
  if Kept c then [c] else quoteChar c

section Spelling

/-- The ways in which characters are spelled, by what the reader makes of them. -/
theorem spelling_cases (c : Char) :
    c ∈ ['\n', '\t', '"', '\\'] ∨ c ∈ ['\x00', '\r'] ∨
      (c ≠ '"' ∧ c ≠ '\\') ∧ spelling c = .plain ∨
      c ∉ ['\n', '\t', '"', '\\'] ∧ spelling c = .code := by
  by_cases known : c ∈ ['\n', '\t', '"', '\\']
  · exact .inl known
  by_cases unknown : c ∈ ['\x00', '\r']
  · exact .inr (.inl unknown)
  have apart := known
  simp only [List.mem_cons, List.not_mem_nil, or_false, not_or] at apart unknown
  obtain ⟨newline, tab, quote, backslash⟩ := apart
  obtain ⟨zero, ret⟩ := unknown
  rw [spelling, if_neg zero, if_neg tab, if_neg ret, if_neg newline, if_neg quote, if_neg backslash]
  split
  · exact .inr (.inr (.inr ⟨known, rfl⟩))
  · exact .inr (.inr (.inl ⟨⟨quote, backslash⟩, rfl⟩))

/-- The digits of a number in any base are digits. -/
theorem exists_digitChar_of_mem_toDigits {base n : Nat} (h : 1 < base) {c : Char}
    (hc : c ∈ Nat.toDigits base n) : ∃ d, c = Nat.digitChar d := by
  induction n using Nat.strongRecOn with
  | ind n ih =>
    rw [Nat.toDigits_eq_if h] at hc
    split at hc
    · exact ⟨n, List.mem_singleton.1 hc⟩
    · rcases List.mem_append.1 hc with front | last
      · exact ih (n / base) (Nat.div_lt_self (by omega) h) front
      · exact ⟨n % base, List.mem_singleton.1 last⟩

/-- A digit is neither a quote nor a backslash. -/
theorem digitChar_plain (d : Nat) : d.digitChar ≠ '"' ∧ d.digitChar ≠ '\\' := by
  have small : ∀ d < 16, d.digitChar ≠ '"' ∧ d.digitChar ≠ '\\' := by decide
  rcases Nat.lt_or_ge d 16 with h | h
  · exact small d h
  · rw [Nat.digitChar_eq_star.2 h]
    decide

end Spelling

section Scan

/-- A string ends with its quote. -/
theorem scanString_close (quote : Char) (rest : List Char) :
    scanString quote (quote :: rest) = some ([], rest) := by
  rw [scanString.eq_def]
  exact if_pos rfl

/-- A backslash belongs to an escape with the character behind it, if it is no quote. -/
theorem scanString_escape {quote : Char} (other : '\\' ≠ quote) (letter : Char) (rest : List Char) :
    scanString quote ('\\' :: letter :: rest) =
      (scanString quote rest).map fun (text, after) =>
        ((escaped? letter).elim ('\\' :: letter :: text) (· :: text), after) := by
  rw [scanString.eq_def]
  refine ((if_neg other).trans (if_pos rfl)).trans ?_
  dsimp only
  cases escaped? letter <;> rfl

/-- A character that is no quote and no backslash stands for itself. -/
theorem scanString_other {quote c : Char} (other : c ≠ quote) (plain : c ≠ '\\') (rest : List Char) :
    scanString quote (c :: rest) = (scanString quote rest).map fun (text, after) => (c :: text, after) := by
  rw [scanString.eq_def]
  exact (if_neg other).trans (if_neg plain)

/-- Characters that are neither a quote nor a backslash stand for themselves. -/
theorem scanString_plain {ds : List Char} (plain : ∀ d ∈ ds, d ≠ '"' ∧ d ≠ '\\') (rest : List Char) :
    scanString '"' (ds ++ rest) =
      (scanString '"' rest).map fun (text, after) => (ds ++ text, after) := by
  induction ds with
  | nil => simp
  | cons d ds ih =>
    obtain ⟨⟨quote, backslash⟩, later⟩ := List.forall_mem_cons.1 plain
    rw [List.cons_append, scanString_other quote backslash, ih later, Option.map_map]
    rfl

/-- An escape that the reader knows. -/
theorem scanString_known {letter e : Char} (known : escaped? letter = some e) (rest : List Char) :
    scanString '"' ('\\' :: letter :: rest) =
      (scanString '"' rest).map fun (text, after) => (e :: text, after) := by
  rw [scanString_escape (by decide), known]
  rfl

/-- An escape that the reader does not know. -/
theorem scanString_unknown {letter : Char} (unknown : escaped? letter = none) {ds : List Char}
    (plain : ∀ d ∈ ds, d ≠ '"' ∧ d ≠ '\\') (rest : List Char) :
    scanString '"' ('\\' :: letter :: ds ++ rest) =
      (scanString '"' rest).map fun (text, after) => ('\\' :: letter :: ds ++ text, after) := by
  rw [List.cons_append, List.cons_append, scanString_escape (by decide), unknown, scanString_plain plain,
    Option.map_map]
  rfl

/-- A quoted character is scanned as what it is read back as. Neither the braces nor the digits of a code point end
the text or begin an escape. -/
theorem scanString_quoteChar (c : Char) (rest : List Char) :
    scanString '"' (quoteChar c ++ rest) =
      (scanString '"' rest).map fun (text, after) => (rereadChar c ++ text, after) := by
  rcases spelling_cases c with known | unknown | ⟨apart, plain⟩ | ⟨unlisted, code⟩
  · simp only [List.mem_cons, List.not_mem_nil, or_false] at known
    rcases known with rfl | rfl | rfl | rfl <;> exact scanString_known rfl rest
  · have nothing : ∀ d ∈ ([] : List Char), d ≠ '"' ∧ d ≠ '\\' := by simp
    simp only [List.mem_cons, List.not_mem_nil, or_false] at unknown
    rcases unknown with rfl | rfl <;> exact scanString_unknown rfl nothing rest
  · have kept : Kept c := .inl plain
    have alone : ∀ d ∈ [c], d ≠ '"' ∧ d ≠ '\\' := by simpa using apart
    rw [rereadChar, if_pos kept, quoteChar, plain]
    exact scanString_plain alone rest
  · have lost : ¬Kept c := by
      simp [Kept, code, unlisted]
    have code_plain : ∀ d ∈ '\x7b' :: (Nat.toDigits 16 c.toNat ++ ['\x7d']), d ≠ '"' ∧ d ≠ '\\' := by
      intro d hd
      rcases List.mem_cons.1 hd with rfl | hd
      · decide
      rcases List.mem_append.1 hd with digit | last
      · obtain ⟨n, rfl⟩ := exists_digitChar_of_mem_toDigits (by decide) digit
        exact digitChar_plain n
      · rw [List.mem_singleton.1 last]
        decide
    rw [rereadChar, if_neg lost, quoteChar, code]
    exact scanString_unknown rfl code_plain rest

/-- A quoted text is read character by character. -/
theorem scanString_quoted (text rest : List Char) :
    scanString '"' (text.flatMap quoteChar ++ '"' :: rest) = some (text.flatMap rereadChar, rest) := by
  induction text with
  | nil =>
    rw [List.flatMap_nil, List.nil_append, scanString_close]
    rfl
  | cons c text ih =>
    rw [List.flatMap_cons, List.append_assoc, scanString_quoteChar, ih]
    rfl

end Scan

section Length

/-- A character that does not come back is read as more than one. -/
theorem one_lt_length_rereadChar {c : Char} (lost : ¬Kept c) : 1 < (rereadChar c).length := by
  rw [rereadChar, if_neg lost, quoteChar]
  cases spelled : spelling c with
  | plain => exact absurd (.inl spelled) lost
  | short letter => exact Nat.lt_succ_self 1
  | code => simp

/-- Quoting loses no characters. -/
theorem length_le_length_reread (text : List Char) : text.length ≤ (text.flatMap rereadChar).length := by
  induction text with
  | nil => simp
  | cons c text ih =>
    have one : 1 ≤ (rereadChar c).length := by
      by_cases kept : Kept c
      · simp [rereadChar, kept]
      · exact Nat.le_of_lt (one_lt_length_rereadChar kept)
    rw [List.flatMap_cons, List.length_append, List.length_cons]
    omega

/-- A text comes back exactly if all its characters do. -/
theorem reread_eq_self_iff (text : List Char) :
    text.flatMap rereadChar = text ↔ ∀ c ∈ text, Kept c := by
  induction text with
  | nil => simp
  | cons c text ih =>
    rw [List.flatMap_cons, List.forall_mem_cons, ← ih]
    by_cases kept : Kept c
    · simp [rereadChar, kept]
    · have longer := one_lt_length_rereadChar kept
      have rest := length_le_length_reread text
      refine ⟨fun same => ?_, fun h => absurd h.1 kept⟩
      have lengths := congrArg List.length same
      rw [List.length_append, List.length_cons] at lengths
      omega

end Length

end Backtest.Language
