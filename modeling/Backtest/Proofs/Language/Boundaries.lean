import Backtest.Proofs.Language.Assignments
import Backtest.Proofs.Language.WalkedLexemes

/-!
# The boundaries of characters

A reader of expressions and statements that goes by positions in bytes never slices a character. Wherever it
has been is between two characters of the text, also where it finds a failure; it ends, with the answer of
the reader that goes by characters; and an expression that it reads is followed by nothing but blanks and a
comment.
-/

namespace Backtest.Language

open Backtest.Text

namespace Walk

variable {text cs : List Char}

section Descent

/-- What comes of a word at the front, or of something that is none. -/
def wordOutcome (cs : List Char) : Except Failure (Expr × List Char) :=
  match cs with
  | [] => .error ⟨.expectedExpression none, []⟩
  | c :: tail =>
    if isWordStart c then
      attemptWord (String.ofList (spanWord (c :: tail)).1) (spanWord (c :: tail)).2 (c :: tail)
    else .error ⟨.expectedExpression (shownWord? (c :: tail)), c :: tail⟩

/-- What comes of an item and those that follow it. -/
def itemsOutcome (close : Char) (cs : List Char) : Except Failure (List Expr × List Char) :=
  (attempt .loosest cs).bind fun (item, rest) => attemptMoreItems close item rest

/-- The operands of a chain are read at the next tighter level. -/
theorem expressionAt_chain (behind : Readers) (c : Chain) :
    expressionAt behind (.chain c) = chained behind c (expressionAt behind c.operand) := by
  cases c <;> rfl

/-- What readers do by position with less than some characters behind the cursor. -/
structure Walked (text : List Char) (r : Readers) (n : Nat) : Prop where
  level : ∀ level {cs}, cs.length < n →
    Reads text (Cursor.Near text) (r.level level) (Cursor.Near text) cs (attempt level cs)
  chain : ∀ c left {cs}, cs.length < n →
    Reads text (Cursor.Near text) (r.chain c left) (Cursor.Near text) cs (attemptMore c left cs)
  sequence : ∀ close {cs}, cs.length < n →
    Reads text (Cursor.Near text) (r.sequence close) (Cursor.Near text) cs (attemptItems close cs)
  items : ∀ close {cs}, cs.length < n →
    Reads text (Cursor.Near text) (r.items close) (Cursor.Near text) cs (itemsOutcome close cs)

namespace Walked

variable {behind : Readers} (ih : Walked text behind cs.length)

include ih

/-- What begins with a name is read near the model's place. -/
theorem named (name : String) {rest : List Char} (shorter : rest.length < cs.length) :
    Reads text (Cursor.Near text) (named behind name) (Cursor.Near text) rest (attemptNamed name rest) := by
  rw [Walk.named, attemptNamed]
  have paren := tests_passChar text rest '('
  cases next : nextChar? '(' rest with
  | some after =>
    have front := nextChar?_eq_some.1 next
    have fewer := Nat.lt_trans (length_of_skipBlank front) shorter
    rw [front]
    exact (paren.found next).step ((ih.sequence ')' fewer).from_stands.map _)
  | none =>
    refine (paren.absent next).step ?_
    cases front : skipBlank rest with
    | nil => exact .pure _
    | cons d after =>
      have other : d ≠ '(' := by
        rintro rfl
        exact nextChar?_eq_none.1 next after front
      simp only [if_neg other]
      exact .pure _

/-- A word is read as what it stands for. -/
theorem word {ds : List Char} (within : ds.length ≤ cs.length) (skipped : skipBlank ds = ds) :
    Reads text (Cursor.Stands text) (word behind) (Cursor.Near text) ds (wordOutcome ds) := by
  rw [Walk.word]
  have found := (reads_identifier text ds).at_front
  rw [identified, skipped] at found
  refine .of_suffix fun suffix => (scans_position text _).step ?_
  cases ds with
  | nil => exact found.step (.of_stands ((scans_peekWord text _).step (scans_fail text _ _)))
  | cons c tail =>
    rw [wordOutcome]
    by_cases start : isWordStart c
    · simp only [if_pos start] at found ⊢
      have shorter := Nat.lt_of_lt_of_le (spanWord_shorter start) within
      refine found.step ?_
      generalize String.ofList (spanWord (c :: tail)).1 = name
      dsimp only
      rw [attemptWord]
      cases constant? name with
      | some value => exact .of_stands (.pure _)
      | none =>
        dsimp only
        split
        · exact .of_stands (scans_failAt suffix _)
        · exact (ih.named name shorter).from_stands
    · simp only [if_neg start] at found ⊢
      exact found.step (.of_stands ((scans_peekWord text _).step (scans_fail text _ _)))

/-- An atom is read as the parser reads it. -/
theorem atom : Reads text (Cursor.Near text) (atom behind) (Cursor.Near text) cs (attempt .atom cs) := by
  rw [Walk.atom, attempt_atom]
  refine .behind_skip ((scans_peek text _).step ?_)
  have skipped := skipBlank_skipBlank cs
  cases front : skipBlank cs with
  | nil => exact ih.word (Nat.zero_le _) rfl
  | cons c tail =>
    rw [front] at skipped
    have shorter := length_of_skipBlank front
    dsimp only [List.head?_cons]
    rw [attemptFront]
    split
    · exact .of_stands ((scans_number text skipped).map _)
    split
    · have quoted := scans_string text c tail
      rw [quotedOutcome] at quoted
      cases found : scanString c tail with
      | none =>
        rw [found] at quoted
        exact .of_stands quoted.fails
      | some read =>
        rw [found] at quoted
        exact .of_stands (quoted.step (.pure _))
    split
    · refine (scans_advance_cons text c tail).step ?_
      refine (ih.level .loosest shorter).from_stands.bind fun e rest _ => ?_
      exact .of_stands ((reads_expectChar text rest ')').map fun _ => e)
    split
    · refine (scans_advance_cons text c tail).step ?_
      exact (ih.sequence ']' shorter).from_stands.map _
    · exact ih.word shorter skipped

/-- So is a power, if its atom is. -/
theorem power (atom : Reads text (Cursor.Near text) (Walk.atom behind) (Cursor.Near text) cs (attempt .atom cs)) :
    Reads text (Cursor.Near text) (power behind) (Cursor.Near text) cs (attempt .power cs) := by
  rw [Walk.power, attempt_power]
  refine atom.bind fun base rest read => ?_
  dsimp only
  have test := tests_passSymbol text rest "**"
  cases next : symbol? "**" rest with
  | none => exact (test.absent next).step (.pure base)
  | some operand =>
    have shorter := Nat.lt_trans (symbol?_shorter next (by decide)) (length_of_attempt read)
    exact (test.found next).step ((ih.level .sign shorter).from_stands.map _)

/-- So is a sign, if a power is. -/
theorem sign (power : Reads text (Cursor.Near text) (Walk.power behind) (Cursor.Near text) cs (attempt .power cs)) :
    Reads text (Cursor.Near text) (sign behind) (Cursor.Near text) cs (attempt .sign cs) := by
  rw [Walk.sign, attempt_sign]
  dsimp only
  have minus := tests_passSymbol text cs "-"
  have plus := tests_passSymbol text cs "+"
  cases next : symbol? "-" cs with
  | some rest =>
    exact (minus.found next).step ((ih.level .sign (symbol?_shorter next (by decide))).from_stands.map _)
  | none =>
    refine (minus.absent next).step ?_
    dsimp only
    cases other : symbol? "+" cs with
    | some rest => exact (plus.found other).step (ih.level .sign (symbol?_shorter other (by decide))).from_stands
    | none => exact (plus.absent other).step power

/-- A chain is read so if its operands are. -/
theorem chained (c : Chain) {operand : Walk Expr}
    (reads : Reads text (Cursor.Near text) operand (Cursor.Near text) cs (attempt c.operand cs)) :
    Reads text (Cursor.Near text) (chained behind c operand) (Cursor.Near text) cs (attempt (.chain c) cs) := by
  rw [Walk.chained, attempt_chain]
  exact reads.bind fun left rest read => ih.chain c left (length_of_attempt read)

/-- So is a comparison, if a sum is. -/
theorem comparison
    (sum : Reads text (Cursor.Near text) (Walk.sum behind) (Cursor.Near text) cs (attempt (.chain .sum) cs)) :
    Reads text (Cursor.Near text) (comparison behind) (Cursor.Near text) cs (attempt .comparison cs) := by
  rw [Walk.comparison, attempt_comparison]
  refine sum.bind fun left rest read => ?_
  dsimp only
  have test := chooses_passFirst text rest comparisonSymbols
  cases next : comparisonOp? rest with
  | none => exact (test.absent next).step (.pure left)
  | some found =>
    obtain ⟨op, operand⟩ := found
    have shorter := Nat.lt_trans (comparisonOp?_shorter next) (length_of_attempt read)
    refine (test.found next).step ((ih.level (.chain .sum) shorter).from_stands.bind fun right after _ => ?_)
    dsimp only
    have again := chooses_passFirst text after comparisonSymbols
    cases more : comparisonOp? after with
    | none => exact (again.absent more).step (.pure _)
    | some found =>
      obtain ⟨_, chained⟩ := found
      exact (again.found more).step (.of_stands (scans_fail text chained _))

/-- So is a negation, if a comparison is. -/
theorem negation
    (comparison : Reads text (Cursor.Near text) (Walk.comparison behind) (Cursor.Near text) cs
      (attempt .comparison cs)) :
    Reads text (Cursor.Near text) (negation behind) (Cursor.Near text) cs (attempt .negation cs) := by
  rw [Walk.negation, attempt_negation]
  dsimp only
  have test := tests_passKeyword text cs "not"
  cases next : keyword? "not" cs with
  | some rest =>
    exact (test.found next).step ((ih.level .negation (keyword?_shorter next (by decide))).from_stands.map _)
  | none => exact (test.absent next).step comparison

/-- What is read at a level, if what is read behind it is read by position. -/
theorem next (level : Level) :
    Reads text (Cursor.Near text) (expressionAt behind level) (Cursor.Near text) cs (attempt level cs) := by
  induction level using Level.of_tighter with
  | atom => exact ih.atom
  | power atom => exact ih.power atom
  | sign power => exact ih.sign power
  | comparison sum => exact ih.comparison sum
  | negation comparison => exact ih.negation comparison
  | chained c operand =>
    rw [expressionAt_chain]
    exact ih.chained c operand

/-- What goes on with a chain is read as the parser reads it. -/
theorem nextChain (c : Chain) (left : Expr) :
    Reads text (Cursor.Near text) (chainFrom behind c left) (Cursor.Near text) cs (attemptMore c left cs) := by
  rw [chainFrom]
  have op := chooses_passChainOp text cs c
  cases next : chainOp? c cs with
  | none =>
    rw [attemptMore_of_none next]
    exact (op.absent next).step (.pure left)
  | some found =>
    obtain ⟨op', rest⟩ := found
    rw [attemptMore_of_some next]
    have shorter := chainOp?_shorter next
    refine (op.found next).step ((ih.level c.operand shorter).from_stands.bind fun right after read => ?_)
    exact ih.chain c (.binary op' left right) (Nat.lt_trans (length_of_attempt read) shorter)

/-- So are further items. -/
theorem nextItems (close : Char) :
    Reads text (Cursor.Near text) (Walk.items behind close) (Cursor.Near text) cs (itemsOutcome close cs) := by
  rw [Walk.items, itemsOutcome]
  refine (ih.next .loosest).bind fun item rest read => ?_
  dsimp only
  rw [attemptMoreItems]
  have closing := tests_passChar text rest close
  have comma := reads_expectChar text rest ','
  rw [attemptClose] at comma
  cases closed : nextChar? close rest with
  | some after =>
    rw [nextChar?_eq_some.1 closed]
    simp only [if_true]
    exact .of_stands ((closing.found closed).step (.pure _))
  | none =>
    refine (closing.absent closed).step ?_
    cases front : skipBlank rest with
    | nil =>
      rw [front] at comma
      exact comma.fails
    | cons d after =>
      have other : d ≠ close := by
        rintro rfl
        exact nextChar?_eq_none.1 closed after front
      rw [front] at comma
      simp only [if_neg other] at comma ⊢
      by_cases more : d = ','
      · simp only [if_pos more] at comma ⊢
        refine comma.step ?_
        have fewer := Nat.lt_trans (length_of_skipBlank front) (length_of_attempt read)
        have trailing := tests_passChar text after close
        cases last : nextChar? close after with
        | some afterLast =>
          rw [attemptItems_of_close (nextChar?_eq_some.1 last)]
          exact .of_stands ((trailing.found last).from_stands.step (.pure _))
        | none =>
          rw [attemptItems_of_item (nextChar?_eq_none.1 last)]
          exact (trailing.absent last).from_stands.step ((ih.items close fewer).map _)
      · simp only [if_neg more] at comma ⊢
        exact comma.fails

/-- So is a sequence of items. -/
theorem nextSequence (close : Char) :
    Reads text (Cursor.Near text) (Walk.sequence behind close) (Cursor.Near text) cs (attemptItems close cs) := by
  rw [Walk.sequence]
  have closing := tests_passChar text cs close
  cases closed : nextChar? close cs with
  | some after =>
    rw [attemptItems_of_close (nextChar?_eq_some.1 closed)]
    exact .of_stands ((closing.found closed).step (.pure _))
  | none =>
    rw [attemptItems_of_item (nextChar?_eq_none.1 closed)]
    exact (closing.absent closed).step (ih.nextItems close)

end Walked

/-- Some rounds of the descent read whatever has fewer characters. -/
theorem walked (text : List Char) (n : Nat) : Walked text (readers n) n := by
  induction n with
  | zero => exact ⟨fun _ _ h => absurd h (Nat.not_lt_zero _), fun _ _ _ h => absurd h (Nat.not_lt_zero _),
      fun _ _ h => absurd h (Nat.not_lt_zero _), fun _ _ h => absurd h (Nat.not_lt_zero _)⟩
  | succ n ih =>
    have shorter : ∀ {cs : List Char}, cs.length < n + 1 → Walked text (readers n) cs.length := fun h =>
      ⟨fun level _ hcs => ih.level level (by omega), fun c left _ hcs => ih.chain c left (by omega),
        fun close _ hcs => ih.sequence close (by omega), fun close _ hcs => ih.items close (by omega)⟩
    exact ⟨fun level _ hcs => (shorter hcs).next level, fun c left _ hcs => (shorter hcs).nextChain c left,
      fun close _ hcs => (shorter hcs).nextSequence close, fun close _ hcs => (shorter hcs).nextItems close⟩

/-- An expression is read as the parser reads it, from every text. -/
theorem reads_expression (text cs : List Char) :
    Reads text (Cursor.Near text) expression (Cursor.Near text) cs (attempt .loosest cs) := by
  rintro c ⟨ds, same, stands⟩
  have read := (walked text (ds.length + 1)).level .loosest (Nat.lt_succ_self _)
  rw [attempt_congr .loosest same] at read
  exact (scans_rounds text ds).step read.from_stands c stands

end Descent

section Statements

/-- A single equals sign comes next. -/
theorem begins_single_iff {ds : List Char} :
    (['='].isPrefixOf ds && !(['=', '='].isPrefixOf ds)) = true ↔
      ∃ after, ds = '=' :: after ∧ after.head? ≠ some '=' := by
  cases ds with
  | nil => simp [List.isPrefixOf]
  | cons d after =>
    cases after with
    | nil =>
      by_cases first : d = '='
      · simp [List.isPrefixOf, first]
      · simp [List.isPrefixOf, first, @eq_comm _ '=' d]
    | cons d' after =>
      by_cases first : d = '='
      · simp [List.isPrefixOf, first, @eq_comm _ '=' d']
      · simp [List.isPrefixOf, first, @eq_comm _ '=' d]

/-- What comes of the front of a statement. -/
def assignedOutcome (cs : List Char) : Except Failure (Option String × List Char) :=
  match assignee? cs with
  | some (name, rest) => .ok (some name, rest)
  | none => .ok (none, cs)

/-- The name that is assigned to is found where the parser finds it. -/
theorem scans_assigned (text cs : List Char) : Scans text assigned cs (assignedOutcome cs) := by
  refine .of_suffix fun suffix => (scans_position text cs).step ?_
  have back : ∀ ds, Scans text (moveTo (byteLength text - byteLength cs) >>= fun _ => pure none) ds
      (.ok ((none : Option String), cs)) := fun ds => (scans_moveTo suffix).step (.pure none)
  have word := (reads_identifier text cs).from_stands
  rw [identified] at word
  rw [assignedOutcome]
  cases found : assignee? cs with
  | some assignment =>
    obtain ⟨name, rest⟩ := assignment
    have assigns := assignee?_eq_some_iff.1 found
    obtain ⟨c, tail, behind, front, start, span, equals⟩ := assigns.exists_word
    simp only [front, if_pos start, span, String.ofList_toList] at word
    have skip := scans_skip text behind
    rw [equals] at skip
    refine word.step (skip.step ((scans_remaining text _).step ?_))
    rw [begins_single_iff.2 ⟨rest, rfl, assigns.single⟩, assigns.identifier]
    exact (scans_advance_cons text '=' rest).step (.pure _)
  | none =>
    cases front : skipBlank cs with
    | nil =>
      rw [front] at word
      exact word.step (back [])
    | cons c tail =>
      rw [front] at word
      dsimp only at word
      by_cases start : isWordStart c
      · rw [if_pos start] at word
        refine word.step ((scans_skip text _).step ((scans_remaining text _).step ?_))
        split
        · rename_i accepted
          rw [Bool.and_eq_true, begins_single_iff] at accepted
          obtain ⟨⟨after, equals, single⟩, identifier⟩ := accepted
          rw [assignee?, front] at found
          simp [equals, single, identifier] at found
        · exact back _
      · rw [if_neg start] at word
        exact word.step (back _)

/-- A statement is read as the parser reads it, from every text. -/
theorem reads_statement (text cs : List Char) :
    Reads text (Cursor.Stands text) statement (Cursor.Near text) cs (attemptStatement cs) := by
  have front := scans_assigned text cs
  rw [assignedOutcome] at front
  rw [statement_eq, attemptStatement]
  cases found : assignee? cs with
  | some assignment =>
    obtain ⟨name, rest⟩ := assignment
    rw [found] at front
    exact front.step ((reads_expression text rest).from_stands.map _)
  | none =>
    rw [found] at front
    exact front.step ((reads_expression text cs).from_stands.map _)

end Statements

section Ends

/-- The end of a text is found where the parser finds it. -/
theorem reads_finish (text cs : List Char) :
    Reads text (Cursor.Near text) finish (Cursor.Stands text) cs ((readEnd cs).map fun _ => ((), [])) := by
  refine .behind_skip (.of_suffix fun suffix => (scans_position text _).step ((scans_bytes text _).step ?_))
  have within := byteLength_le_of_suffix suffix
  rw [readEnd]
  generalize skipBlank cs = ds at within ⊢
  cases ds with
  | nil =>
    rw [if_neg (by simp [byteLength])]
    exact .pure ()
  | cons c rest =>
    have size : byteLength (c :: rest) ≠ 0 := mt byteLength_eq_zero_iff.1 (List.cons_ne_nil c rest)
    have before : byteLength text - byteLength (c :: rest) < byteLength text := by omega
    rw [if_pos before]
    exact (scans_remaining text _).step (scans_fail text _ _)

/-- What is read as the parser reads it is read so up to the end of the text. -/
theorem reads_whole {α : Type} {body : Walk α} {cs : List Char} {outcome : Except Failure (α × List Char)}
    (reads : Reads text (Cursor.Stands text) body (Cursor.Near text) cs outcome) :
    Reads text (Cursor.Stands text) (whole body) (Cursor.Stands text) cs
      ((outcome.bind fun (a, rest) => (readEnd rest).map fun _ => a).map fun a => (a, [])) := by
  rcases outcome with failure | ⟨a, rest⟩
  · exact reads.fails
  · have finished := reads_finish text rest
    simp only [Except.bind]
    cases ended : readEnd rest with
    | error failure =>
      rw [ended] at finished
      exact reads.step finished.fails
    | ok _ =>
      rw [ended] at finished
      exact reads.step (finished.step (.pure a))

/-- Blanks and a comment are what is skipped to the end. -/
theorem exists_split_of_silent {tail : List Char} (silent : Silent tail) :
    ∃ ws comment, tail = ws ++ comment ∧ (∀ c ∈ ws, isBlank c) ∧ (comment = [] ∨ comment.head? = some '#') := by
  induction tail with
  | nil => exact ⟨[], [], rfl, by simp, .inl rfl⟩
  | cons c tail ih =>
    rw [Silent, skipBlank] at silent
    split at silent
    · rename_i blank
      obtain ⟨ws, comment, rfl, blanks, hash⟩ := ih silent
      exact ⟨c :: ws, comment, rfl, List.forall_mem_cons.2 ⟨blank, blanks⟩, hash⟩
    · split at silent
      · rename_i hash
        exact ⟨[], c :: tail, rfl, by simp, .inr (congrArg some hash)⟩
      · contradiction

/-- A reader begins in front of all characters. -/
theorem start_stands (cs : List Char) : (Cursor.mk cs 0 []).Stands cs cs :=
  ⟨rfl, ⟨[], rfl, rfl⟩, List.forall_mem_nil _⟩

/-- A fault is found at a place of the text. -/
theorem suffix_of_whole_error {α : Type} {body : Walk α} {cs : List Char}
    {outcome : Except Failure (α × List Char)} {failure : Failure}
    (reads : Reads cs (Cursor.Stands cs) body (Cursor.Near cs) cs outcome)
    (h : (outcome.bind fun (a, rest) => (readEnd rest).map fun _ => a) = .error failure) :
    failure.rest <:+ cs := by
  obtain ⟨_, _, _, meets⟩ := reads_whole reads _ (start_stands cs)
  rw [h] at meets
  exact meets.2.1

/-- A position on a boundary is the length of a front of the text. -/
theorem exists_append_of_onBoundary {text : String} {p : Nat} (h : OnBoundary text.toList p) :
    ∃ front back : String, text = front ++ back ∧ p = front.utf8ByteSize := by
  obtain ⟨front, back, split, rfl⟩ := h
  refine ⟨String.ofList front, String.ofList back, ?_, ?_⟩
  · apply String.toList_injective
    simp [split]
  · rw [utf8ByteSize_eq, String.toList_ofList]

/-- What is read of a whole text is followed by blanks only. -/
theorem exists_of_whole_ok {α : Type} {outcome : Except Failure (α × List Char)} {a : α}
    (h : (outcome.bind fun (a, rest) => (readEnd rest).map fun _ => a) = .ok a) :
    ∃ rest, outcome = .ok (a, rest) ∧ Silent rest := by
  rcases outcome with failure | ⟨a', rest⟩
  · contradiction
  · simp only [Except.bind, readEnd] at h
    cases front : skipBlank rest with
    | nil =>
      rw [front] at h
      cases h
      exact ⟨rest, rfl, front⟩
    | cons c tail =>
      rw [front] at h
      contradiction

/-- A reader of whole texts keeps to the boundaries of characters. -/
structure KeepsBoundaries {α : Type} (text : String) (body : Walk α) (answer : Except ParseError α) : Prop where
  /-- By position it ends with the same answer, and has been between two characters only. -/
  ends : ∃ last, body.whole (.start text) = some (answer, last) ∧
    ∀ p ∈ last.position :: last.earlier, p ≤ text.utf8ByteSize ∧ (String.Pos.Raw.mk p).IsValid text
  /-- A fault is found behind whole characters. -/
  faults : ∀ e, answer = .error e → ∃ front back, text = front ++ back ∧ e.position = front.utf8ByteSize
  /-- Behind what is read there is nothing but blanks and a comment. -/
  consumed : ∀ a, answer = .ok a → ∃ read front blank comment, body (.start text) = some (.ok a, read) ∧
    text = front ++ blank ++ comment ∧ read.position = front.utf8ByteSize ∧
    (∀ c ∈ blank.toList, isBlank c) ∧ (comment = "" ∨ comment.toList.head? = some '#')

/-- A reader that reads as the parser does stays on boundaries, and reports errors on them. -/
theorem keepsBoundaries_of_reads {α : Type} {text : String} {body : Walk α}
    {outcome : Except Failure (α × List Char)}
    (reads : Reads text.toList (Cursor.Stands text.toList) body (Cursor.Near text.toList) text.toList outcome) :
    KeepsBoundaries text body
      ((outcome.bind fun (a, rest) => (readEnd rest).map fun _ => a).mapError (·.toError text.toList)) := by
  have start : (Cursor.start text).Stands text.toList text.toList := start_stands text.toList
  have valid : ∀ {cs : List Char} {c : Cursor}, c.Stands text.toList cs →
      ∀ p ∈ c.position :: c.earlier, p ≤ text.utf8ByteSize ∧ (String.Pos.Raw.mk p).IsValid text := by
    intro cs c stands p mem
    have boundary : OnBoundary text.toList p := by
      rcases List.mem_cons.1 mem with rfl | mem
      · exact stands.onBoundary
      · exact stands.earlier p mem
    obtain ⟨front, back, rfl, rfl⟩ := exists_append_of_onBoundary boundary
    refine ⟨by rw [String.utf8ByteSize_append]; exact Nat.le_add_right _ _, ?_⟩
    exact String.Pos.Raw.isValid_iff_exists_append.2 ⟨front, back, rfl, rfl⟩
  obtain ⟨result, last, run, meets⟩ := reads_whole reads _ start
  cases answer : outcome.bind fun (a, rest) => (readEnd rest).map fun _ => a with
  | error failure =>
    rw [answer] at meets
    obtain ⟨rfl, ⟨front, split⟩, cs, stands⟩ := meets
    refine ⟨⟨last, run, valid stands⟩, ?_, nofun⟩
    rintro e ⟨⟩
    refine exists_append_of_onBoundary ⟨front, failure.rest, split.symm, ?_⟩
    simp only [Failure.toError, ← split, byteLength_append, Nat.add_sub_cancel]
  | ok a =>
    rw [answer] at meets
    obtain ⟨rfl, stands⟩ := meets
    refine ⟨⟨last, run, valid stands⟩, nofun, ?_⟩
    rintro _ ⟨⟩
    obtain ⟨rest, rfl, skipped⟩ := exists_of_whole_ok answer
    obtain ⟨_, read, body, rfl, ds, near, stands'⟩ := reads _ start
    have silent : Silent ds := near.trans skipped
    obtain ⟨front, split, position⟩ := stands'.split
    obtain ⟨ws, comment, rfl, blanks, hash⟩ := exists_split_of_silent silent
    refine ⟨read, String.ofList front, String.ofList ws, String.ofList comment, body, ?_, ?_, ?_, ?_⟩
    · apply String.toList_injective
      simp [split]
    · rw [position, utf8ByteSize_eq, String.toList_ofList]
    · rwa [String.toList_ofList]
    · rw [String.toList_ofList]
      exact hash.imp_left (congrArg String.ofList)

end Ends

end Walk

/-- An expression fails at some rest of its text. -/
theorem suffix_of_readExpr_error {cs : List Char} {failure : Failure} (h : readExpr cs = .error failure) :
    failure.rest <:+ cs :=
  Walk.suffix_of_whole_error (Walk.reads_expression cs cs).from_stands (readExpr_eq cs ▸ h)

/-- A statement fails at some rest of its text. -/
theorem suffix_of_readStatement_error {cs : List Char} {failure : Failure}
    (h : readStatement cs = .error failure) : failure.rest <:+ cs :=
  Walk.suffix_of_whole_error (Walk.reads_statement cs cs) (readStatement_eq cs ▸ h)

/-- Every text is read within the boundaries of its characters. -/
theorem parsers_keep_boundaries (text : String) :
    Walk.KeepsBoundaries text Walk.expression (parse text) ∧
      Walk.KeepsBoundaries text Walk.statement (parseStatement text) := by
  constructor
  · rw [parse, readExpr_eq]
    exact Walk.keepsBoundaries_of_reads (Walk.reads_expression text.toList text.toList).from_stands
  · rw [parseStatement, readStatement_eq]
    exact Walk.keepsBoundaries_of_reads (Walk.reads_statement text.toList text.toList)

end Backtest.Language
