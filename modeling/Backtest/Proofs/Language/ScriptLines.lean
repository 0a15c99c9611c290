import Backtest.Language.Script
import Backtest.Text.Layout

/-!
# The lines of a script

What stands on a line of a script, and how the reader of a script goes through the lines of its text. A
carriage return at the end of a line and the end of the last line are blanks like others, so the reader sees
the lines of the text and no more. Line numbers count from wherever the lines begin.
-/

namespace Backtest.Text

/-- A blank behind a text is dropped with the others. -/
theorem trimBlanks_append_blank {c : Char} (blank : isBlank c) (cs : List Char) :
    trimBlanks (cs ++ [c]) = trimBlanks cs := by
  have alone : [c].dropWhile isBlank = [] := by simp [blank]
  have front : dropBlanks (cs ++ [c]) = if (dropBlanks cs).isEmpty then [] else dropBlanks cs ++ [c] := by
    rw [dropBlanks, List.dropWhile_append, alone]
    rfl
  rw [trimBlanks, trimBlanks, front]
  split
  · rename_i empty
    rw [List.isEmpty_iff.1 empty]
  · rw [List.reverse_append, List.reverse_singleton, List.singleton_append, dropBlanks,
      List.dropWhile_cons_of_pos blank]
    rfl

/-- A carriage return at the end of a line is a blank. -/
theorem trimBlanks_dropReturn (line : List Char) : trimBlanks (dropReturn line) = trimBlanks line := by
  unfold dropReturn
  split
  · rename_i last
    obtain ⟨body, rfl⟩ := List.getLast?_eq_some_iff.1 last
    rw [List.dropLast_concat, trimBlanks_append_blank (by decide)]
  · rfl

end Backtest.Text

namespace Backtest.Language

/-- What stands on a line: a statement, or nothing if the line is blank or a comment. -/
def readLine (line : List Char) : Except ParseError (Option Statement) :=
  let body := Text.trimBlanks line
  if isIdle body then .ok none else (parseStatement (String.ofList body)).map some

/-- A trimmed line that is not idle is read as its statement. -/
theorem readLine_of_readStatement {line : List Char} {statement : Statement}
    (trimmed : Text.trimBlanks line = line) (busy : isIdle line = false)
    (read : readStatement line = .ok statement) : readLine line = .ok (some statement) := by
  simp only [readLine, trimmed, busy, Bool.false_eq_true, if_false, parseStatement,
    String.toList_ofList, read]
  rfl

/-- A line on which there is a statement or nothing, but no text that is neither. -/
def Readable (line : List Char) : Prop :=
  ∃ statement?, readLine line = .ok statement?

/-- The statements on readable lines, with the numbers of their lines. -/
def numbered (first : Nat) : List (List Char) → List ScriptLine
  | [] => []
  | line :: rest =>
    match readLine line with
    | .ok (some statement) => ⟨first, statement⟩ :: numbered (first + 1) rest
    | _ => numbered (first + 1) rest

/-- A line is read before the rest, unless it is neither a statement nor idle. -/
theorem readLines_cons (first : Nat) (line : List Char) (rest : List (List Char)) :
    readLines first (line :: rest) =
      match readLine line with
      | .error e => .error ⟨first, .parse e⟩
      | .ok none => readLines (first + 1) rest
      | .ok (some statement) => (readLines (first + 1) rest).map (⟨first, statement⟩ :: ·) := by
  simp only [readLines, readLine, parseStatement, String.toList_ofList]
  split
  · rfl
  · cases readStatement (Text.trimBlanks line) <;> rfl

section Readable

variable {lines : List (List Char)} {first : Nat}

/-- Readable lines are read as their statements. -/
theorem readLines_of_readable (readable : ∀ line ∈ lines, Readable line) :
    readLines first lines = .ok (numbered first lines) := by
  induction lines generalizing first with
  | nil => rfl
  | cons line rest ih =>
    obtain ⟨statement?, read⟩ := readable line List.mem_cons_self
    have later : readLines (first + 1) rest = .ok (numbered (first + 1) rest) :=
      ih fun l hl => readable l (List.mem_cons_of_mem _ hl)
    rw [readLines_cons, numbered, read]
    cases statement? with
    | none => exact later
    | some statement =>
      simp only [later]
      rfl

/-- The first line that is not readable fails the script. -/
theorem readLines_of_misread {before after : List (List Char)} {line : List Char} {e : ParseError}
    (earlier : ∀ l ∈ before, Readable l) (fault : readLine line = .error e) :
    readLines first (before ++ line :: after) = .error ⟨first + before.length, .parse e⟩ := by
  induction before generalizing first with
  | nil =>
    rw [List.nil_append, readLines_cons, fault]
    rfl
  | cons l before ih =>
    obtain ⟨statement?, read⟩ := earlier l List.mem_cons_self
    have later : readLines (first + 1) (before ++ line :: after) =
        .error ⟨first + 1 + before.length, .parse e⟩ :=
      ih fun l hl => earlier l (List.mem_cons_of_mem _ hl)
    rw [List.cons_append, readLines_cons, read, later, List.length_cons, Nat.add_right_comm,
      Nat.add_assoc]
    cases statement? <;> rfl

/-- Either all lines are readable, or there is a first one that is not. -/
theorem readable_or_misread (lines : List (List Char)) :
    (∀ line ∈ lines, Readable line) ∨
      ∃ before line after e, lines = before ++ line :: after ∧ (∀ l ∈ before, Readable l) ∧
        readLine line = .error e := by
  induction lines with
  | nil => exact .inl (by simp)
  | cons line rest ih =>
    cases read : readLine line with
    | error e => exact .inr ⟨[], line, rest, e, rfl, by simp, read⟩
    | ok statement? =>
      rcases ih with all | ⟨before, l, after, e, split, earlier, fault⟩
      · exact .inl (List.forall_mem_cons.2 ⟨⟨statement?, read⟩, all⟩)
      · exact .inr ⟨line :: before, l, after, e, congrArg _ split,
          List.forall_mem_cons.2 ⟨⟨statement?, read⟩, earlier⟩, fault⟩

/-- Only readable lines make a script. -/
theorem numbered_of_readLines {statements : List ScriptLine}
    (h : readLines first lines = .ok statements) :
    (∀ line ∈ lines, Readable line) ∧ statements = numbered first lines := by
  rcases readable_or_misread lines with readable | ⟨before, line, after, e, rfl, earlier, fault⟩
  · rw [readLines_of_readable readable] at h
    exact ⟨readable, (Except.ok.inj h).symm⟩
  · rw [readLines_of_misread earlier fault] at h
    contradiction

end Readable

/-- Lines are numbered in two parts as in one. -/
theorem numbered_append (first : Nat) (xs ys : List (List Char)) :
    numbered first (xs ++ ys) = numbered first xs ++ numbered (first + xs.length) ys := by
  induction xs generalizing first with
  | nil => rfl
  | cons line rest ih =>
    rw [List.cons_append, numbered, numbered, ih, List.length_cons, Nat.add_right_comm, Nat.add_assoc]
    split <;> rfl

/-- A return in the end of a line does not matter. -/
theorem readLine_dropReturn (line : List Char) : readLine (Text.dropReturn line) = readLine line := by
  rw [readLine, readLine, Text.trimBlanks_dropReturn]

/-- Lines on which the same stands are read the same. -/
theorem readLines_congr {xs ys : List (List Char)} (first : Nat)
    (same : xs.map readLine = ys.map readLine) : readLines first xs = readLines first ys := by
  induction xs generalizing first ys with
  | nil => rw [List.map_eq_nil_iff.1 same.symm]
  | cons x xs ih =>
    obtain ⟨y, ys, rfl, line, rest⟩ := List.map_eq_cons_iff.1 same.symm
    rw [readLines_cons, readLines_cons, line, ih (first + 1) rest.symm]

/-- An empty piece behind the last line is no line. -/
theorem readLines_append_nil (first : Nat) (lines : List (List Char)) :
    readLines first (lines ++ [[]]) = readLines first lines := by
  induction lines generalizing first with
  | nil => rfl
  | cons line rest ih => rw [List.cons_append, readLines_cons, readLines_cons, ih]

/-- The reader of a script sees the lines of its text. -/
theorem parseScript_eq (text : String) : parseScript text = readLines 1 (Text.lines text.toList) := by
  obtain ⟨init, last, parts⟩ : ∃ init last, Text.pieces '\n' text.toList = init ++ [last] :=
    ⟨_, _, (List.dropLast_concat_getLast (Text.pieces_ne_nil '\n' text.toList)).symm⟩
  have ended : readLines 1 (init ++ [last]) = readLines 1 (init.map Text.dropReturn ++ [last]) := by
    refine readLines_congr 1 ?_
    simp only [List.map_append, List.map_map, Function.comp_def, readLine_dropReturn]
  rw [parseScript, Text.lines, parts, ended, List.dropLast_concat, List.getLast?_concat]
  cases last with
  | nil =>
    rw [readLines_append_nil]
    simp
  | cons c cs => simp

end Backtest.Language
