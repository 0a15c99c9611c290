import Backtest.Proofs.Language.Reading
import Backtest.Proofs.Language.Surroundings

/-!
# Assignments among the statements

A statement that begins with a name and a single equals sign is an assignment, and any other is an
expression. The reader decides this by looking ahead, before it reads an expression at all. Nothing that is
an expression begins in that way, for no operator begins with a single equals sign; so every text has one
reading at most, and the expressions among the statements are exactly the texts that are expressions.
-/

namespace Backtest.Language

open Backtest.Text

section Fronts

variable {cs tail : List Char} {c : Char}

/-- Blanks stand before the first character that is neither a blank nor in a comment. -/
theorem exists_blank_of_skipBlank (h : skipBlank cs = c :: tail) :
    ∃ ws, cs = ws ++ c :: tail ∧ ∀ d ∈ ws, isBlank d := by
  induction cs with
  | nil => contradiction
  | cons d cs ih =>
    rw [skipBlank] at h
    split at h
    · rename_i blank
      obtain ⟨ws, rfl, blanks⟩ := ih h
      exact ⟨d :: ws, rfl, List.forall_mem_cons.2 ⟨blank, blanks⟩⟩
    · split at h
      · contradiction
      · exact ⟨[], h, by simp⟩

/-- No word goes on with a blank or with an equals sign. -/
theorem word_ends {behind : List Char} (rest : List Char) (blank : ∀ c ∈ behind, isBlank c) :
    ∀ c ∈ (behind ++ '=' :: rest).head?, isWordChar c = false := by
  cases behind with
  | nil =>
    simp only [List.nil_append, List.head?_cons, Option.mem_some_iff, forall_eq']
    decide
  | cons c behind =>
    simp only [List.cons_append, List.head?_cons, Option.mem_some_iff, forall_eq']
    exact (apart_of_silent (.inl (blank c List.mem_cons_self))).1

end Fronts

section Assignees

/-- Characters that begin with a name and a single equals sign behind it. -/
structure Assigns (cs : List Char) (name : String) (rest : List Char) : Prop where
  identifier : isIdentifier name
  single : rest.head? ≠ some '='
  split : ∃ front behind, cs = front ++ name.toList ++ behind ++ '=' :: rest ∧
    (∀ c ∈ front, isBlank c) ∧ ∀ c ∈ behind, isBlank c

variable {cs rest : List Char} {name : String}

/-- Behind a name and the sign of an assignment fewer characters are left. -/
theorem Assigns.shorter (assigns : Assigns cs name rest) : rest.length < cs.length := by
  obtain ⟨front, behind, rfl, -⟩ := assigns.split
  simp only [List.length_append, List.length_cons]
  omega

/-- The name is the first word, and the equals sign is what follows it. -/
theorem Assigns.exists_word (assigns : Assigns cs name rest) :
    ∃ c tail behind, skipBlank cs = c :: tail ∧ isWordStart c ∧ spanWord (c :: tail) = (name.toList, behind) ∧
      skipBlank behind = '=' :: rest := by
  obtain ⟨front, behind, rfl, blankFront, blankBehind⟩ := assigns.split
  have word := isWord_of_isIdentifier assigns.identifier
  obtain ⟨c, cs, chars, start⟩ := word.start
  have span := spanWord_append word.chars (word_ends rest blankBehind)
  refine ⟨c, cs ++ (behind ++ '=' :: rest), behind ++ '=' :: rest, ?_, start, ?_, ?_⟩
  · rw [List.append_assoc, List.append_assoc, skipBlank_append_of_blank blankFront, word.skipBlank_append,
      chars, List.cons_append]
  · rw [← span, chars, List.cons_append]
  · exact skipBlank_append_of_blank blankBehind _

/-- The reader finds the name of an assignment where there is one, and nowhere else. -/
theorem assignee?_eq_some_iff : assignee? cs = some (name, rest) ↔ Assigns cs name rest := by
  constructor
  · intro h
    rw [assignee?] at h
    split at h
    · contradiction
    · rename_i c tail start
      obtain ⟨front, rfl, blankFront⟩ := exists_blank_of_skipBlank start
      dsimp only at h
      split at h
      · rename_i after equals
        obtain ⟨behind, split, blankBehind⟩ := exists_blank_of_skipBlank equals
        split at h
        · rename_i accepted
          cases h
          rw [Bool.and_eq_true, bne_iff_ne] at accepted
          refine ⟨accepted.1, accepted.2, front, behind, ?_, blankFront, blankBehind⟩
          have whole : (spanWord (c :: tail)).1 ++ (spanWord (c :: tail)).2 = c :: tail :=
            List.takeWhile_append_dropWhile
          rw [String.toList_ofList, List.append_assoc, List.append_assoc, ← split, whole]
        · contradiction
      · contradiction
  · intro assigns
    obtain ⟨c, tail, behind, start, -, span, equals⟩ := assigns.exists_word
    have single : (rest.head? != some '=') = true := bne_iff_ne.2 assigns.single
    simp only [assignee?, start, span, equals, String.ofList_toList, assigns.identifier, single,
      Bool.and_self, if_true]

/-- No operator begins with a single equals sign. -/
theorem ended_of_equals (h : skipBlank cs = '=' :: rest) (single : rest.head? ≠ some '=') (level : Level) :
    level.Ended cs := by
  have doubled : symbol? "==" cs = none := by
    rw [symbol?, h]
    cases rest with
    | nil => rfl
    | cons d rest =>
      have other : '=' ≠ d := fun same => single (congrArg some same.symm)
      have none : afterText? ['='] (d :: rest) = none := if_neg other
      exact none
  cases level with
  | chain c =>
    cases c with
    | disjunction => simp [Level.Ended, chainOp?, keyword?, symbol?, h, afterText?]
    | conjunction => simp [Level.Ended, chainOp?, keyword?, symbol?, h, afterText?]
    | sum => simp [Level.Ended, chainOp?, firstSymbol?, sumSymbols, symbol?, h, afterText?]
    | product => simp [Level.Ended, chainOp?, firstSymbol?, productSymbols, symbol?, h, afterText?]
  | comparison =>
    have others : ∀ mark ∈ ["!=", "<=", ">=", "<", ">"], symbol? mark cs = none := by
      simp [symbol?, h, afterText?]
    simp [Level.Ended, comparisonOp?, firstSymbol?, comparisonSymbols, doubled, others]
  | power => simp [Level.Ended, symbol?, h, afterText?]
  | negation => trivial
  | sign => trivial
  | atom => trivial

/-- Of an assignment only the name can be read as an expression, and the equals sign is left over. -/
theorem Assigns.read?_loosest (assigns : Assigns cs name rest) :
    ∃ behind, read? .loosest cs = some (.name name, behind) ∧ skipBlank behind = '=' :: rest := by
  obtain ⟨c, tail, behind, start, first, span, equals⟩ := assigns.exists_word
  obtain ⟨unknown, ordinary⟩ := not_reserved_of_isIdentifier assigns.identifier
  have atom : read? .atom cs = some (.name name, behind) := by
    rw [read?_word start first span, String.ofList_toList, unknown]
    simp only [ordinary, equals, Bool.false_eq_true, if_false]
    rfl
  obtain ⟨_, read⟩ := read?_eq_some.1 atom
  refine ⟨behind, ?_, equals⟩
  rw [read?_loosen (fronts_of_readLevel read) (Nat.zero_le _), atom]
  rw [atom]
  rintro _ _ ⟨⟩ between _
  exact ended_of_equals equals assigns.single between

/-- No assignment is an expression. -/
theorem Assigns.readExpr_ne_ok (assigns : Assigns cs name rest) (e : Expr) : readExpr cs ≠ .ok e := by
  intro read
  obtain ⟨behind, name, equals⟩ := assigns.read?_loosest
  have none := toOption_readExpr cs
  simp only [read, name, Option.bind_some, equals] at none
  contradiction

end Assignees

section Statements

/-- Another wording of the error changes nothing of a success. -/
theorem mapError_eq_ok_iff {ε ε' α : Type} {x : Except ε α} {f : ε → ε'} {a : α} :
    x.mapError f = .ok a ↔ x = .ok a := by
  constructor
  · intro h
    cases x <;> cases h
    rfl
  · rintro rfl
    rfl

/-- A text is parsed as an expression if and only if its characters are read as one. -/
theorem parse_eq_ok_iff {text : String} {e : Expr} : parse text = .ok e ↔ readExpr text.toList = .ok e := by
  rw [parse, mapError_eq_ok_iff]

/-- A text is parsed as a statement if and only if its characters are read as one. -/
theorem parseStatement_eq_ok_iff {text : String} {statement : Statement} :
    parseStatement text = .ok statement ↔ readStatement text.toList = .ok statement := by
  rw [parseStatement, mapError_eq_ok_iff]

/-- A text that binds a name to a value: the name between blanks, one equals sign, and the text of the
value, which does not begin with another. -/
structure AssignmentText (text name : String) (value : Expr) : Prop where
  identifier : isIdentifier name
  split : ∃ front behind rest : String, text = front ++ name ++ behind ++ "=" ++ rest ∧
    (∀ c ∈ front.toList, isBlank c) ∧ (∀ c ∈ behind.toList, isBlank c) ∧
    rest.toList.head? ≠ some '=' ∧ parse rest = .ok value

variable {text name : String} {value : Expr}

/-- A text is an assignment if it assigns a name and the rest is read as the value. -/
theorem assignmentText_iff :
    AssignmentText text name value ↔ ∃ rest, Assigns text.toList name rest ∧ readExpr rest = .ok value := by
  constructor
  · rintro ⟨identifier, front, behind, rest, rfl, blankFront, blankBehind, single, read⟩
    refine ⟨rest.toList, ⟨identifier, single, front.toList, behind.toList, ?_, blankFront, blankBehind⟩,
      parse_eq_ok_iff.1 read⟩
    simp
  · rintro ⟨rest, ⟨identifier, single, front, behind, split, blankFront, blankBehind⟩, read⟩
    refine ⟨identifier, String.ofList front, String.ofList behind, String.ofList rest, ?_, ?_, ?_, ?_, ?_⟩
    · apply String.toList_injective
      simp [split]
    · rwa [String.toList_ofList]
    · rwa [String.toList_ofList]
    · rwa [String.toList_ofList]
    · rwa [parse_eq_ok_iff, String.toList_ofList]

/-- An assignment is read if and only if there is one in front of an expression. -/
theorem readStatement_eq_assign_iff {cs : List Char} :
    readStatement cs = .ok (.assign name value) ↔
      ∃ rest, Assigns cs name rest ∧ readExpr rest = .ok value := by
  simp only [← assignee?_eq_some_iff]
  rw [readStatement]
  rcases assignee? cs with _ | ⟨name', rest'⟩
  · cases readExpr cs <;> simp [Except.map]
  · simp only [Option.some.injEq, Prod.mk.injEq]
    constructor
    · intro h
      cases read : readExpr rest' with
      | error failure => simp [read, Except.map] at h
      | ok e =>
        simp only [read, Except.map, Except.ok.injEq, Statement.assign.injEq] at h
        exact ⟨rest', ⟨h.1, rfl⟩, read.trans (congrArg Except.ok h.2)⟩
    · rintro ⟨rest, ⟨rfl, rfl⟩, read⟩
      rw [read]
      rfl

/-- An expression is read as a statement if and only if it is read by itself. -/
theorem readStatement_eq_expr_iff {cs : List Char} {e : Expr} :
    readStatement cs = .ok (.expr e) ↔ readExpr cs = .ok e := by
  rw [readStatement]
  cases found : assignee? cs with
  | some read =>
    obtain ⟨name, rest⟩ := read
    have unread := (assignee?_eq_some_iff.1 found).readExpr_ne_ok e
    dsimp only
    cases readExpr rest <;> simp [Except.map, unread]
  | none => cases readExpr cs <;> simp [Except.map]

/-- Every text has one reading at most. It is an expression as a statement if and only if it is one by
itself, and an assignment if and only if it is written as one; it is never both, and never an assignment in
two ways. -/
theorem readings_of_statement (text : String) :
    (∀ e, parseStatement text = .ok (.expr e) ↔ parse text = .ok e) ∧
    (∀ name value, parseStatement text = .ok (.assign name value) ↔ AssignmentText text name value) ∧
    (∀ e name value, parse text = .ok e → ¬AssignmentText text name value) ∧
    ∀ name name' value value', AssignmentText text name value → AssignmentText text name' value' →
      name = name' ∧ value = value' := by
  have expression : ∀ e, parseStatement text = .ok (.expr e) ↔ parse text = .ok e := fun e => by
    rw [parseStatement_eq_ok_iff, parse_eq_ok_iff, readStatement_eq_expr_iff]
  have assignment : ∀ name value,
      parseStatement text = .ok (.assign name value) ↔ AssignmentText text name value := fun name value => by
    rw [parseStatement_eq_ok_iff, assignmentText_iff, readStatement_eq_assign_iff]
  refine ⟨expression, assignment, fun e name value read assigns => ?_, fun name name' value value' h h' => ?_⟩
  · have both := ((expression e).2 read).symm.trans ((assignment name value).2 assigns)
    cases both
  · have both := ((assignment name value).2 h).symm.trans ((assignment name' value').2 h')
    cases both
    exact ⟨rfl, rfl⟩

end Statements

end Backtest.Language
