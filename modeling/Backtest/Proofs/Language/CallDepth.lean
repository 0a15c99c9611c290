import Backtest.Proofs.Language.CallTrace
import Backtest.Proofs.Language.Margins

/-!
# The depth of a descent

Every call of a reader comes to an end, with what the reader by characters answers. A call that does not fail has
gone further, and so has every round of a loop that goes on; and a reader that is called again while it is under
way begins further on, so that there are ten calls at most for each byte that is left, and ten.
-/

namespace Backtest.Language

open Backtest.Text

variable {α : Type} {text cs ds rest : List Char}

namespace Traced

/-! ### What the readers do -/

/-- What a call of a reader can be measured by: the characters that are left, and then its rank. -/
def weight (reader : Reader) (cs : List Char) : Nat :=
  10 * cs.length + reader.rank

/-- There are ten ranks of readers. -/
theorem rank_le (reader : Reader) : reader.rank ≤ 9 := by
  rcases reader with ((_ | _ | _ | _) | _ | _ | _ | _ | _) | _ <;> decide

/-- Fewer characters give a reader no more weight. -/
theorem weight_mono (reader : Reader) (within : ds.length ≤ cs.length) : weight reader ds ≤ weight reader cs :=
  Nat.add_le_add_right (Nat.mul_le_mul_left 10 within) _

/-- With fewer characters every reader has less weight. -/
theorem weight_lt_of_length_lt (reader other : Reader) (shorter : ds.length < cs.length) :
    weight reader ds < weight other cs := by
  have := rank_le reader
  unfold weight
  omega

/-- With no more characters a reader of a tighter rank has less weight. -/
theorem weight_lt_of_rank_lt {reader other : Reader} (tighter : reader.rank < other.rank)
    (within : ds.length ≤ cs.length) : weight reader ds < weight other cs := by
  unfold weight
  omega

/-- Readers that can be called with less than some weight. -/
structure Below (limit : Nat) (text : List Char) (calls : Calls) (w : Nat) : Prop where
  level : ∀ level {cs}, weight (.expression level) cs < w →
    Traces limit text (Cursor.Reaches text) (calls.level level) (Cursor.Reaches text) cs (attempt level cs)
  items : ∀ close {cs}, weight .items cs < w →
    Traces limit text (Cursor.Reaches text) (calls.sequence close) (Cursor.Reaches text) cs (attemptItems close cs)

namespace Below

open Walk

variable {limit : Nat} {calls : Calls} {reader : Reader}

section Further

variable (below : Below limit text calls (weight reader cs))

include below

/-- Behind something that was read, every reader can be called. -/
theorem further (level : Level) (shorter : ds.length < cs.length) :
    Traces limit text (Cursor.Reaches text) (calls.level level) (Cursor.Reaches text) ds (attempt level ds) :=
  below.level level (weight_lt_of_length_lt _ _ shorter)

/-- Further items are read behind at least one character, and so with less weight. -/
theorem furtherItems (close : Char) (shorter : ds.length < cs.length) :
    Traces limit text (Cursor.Reaches text) (calls.sequence close) (Cursor.Reaches text) ds
      (attemptItems close ds) :=
  below.items close (weight_lt_of_length_lt _ _ shorter)

/-- At the same place, those can be called that bind more tightly. -/
theorem tighter {level : Level} (tighter : level.rank < reader.rank) :
    Traces limit text (Cursor.Reaches text) (calls.level level) (Cursor.Reaches text) cs (attempt level cs) :=
  below.level level (weight_lt_of_rank_lt tighter (Nat.le_refl _))

/-- A round of a chain takes an operator and its operand. It may have begun before blanks or behind them, and the
operator is behind both places. -/
theorem chainRound (c : Chain) {again : Expr → Traced Expr} (within : ds.length < cs.length)
    (shorter : ∀ left es, es.length < (skipBlank ds).length →
      Traces limit text (Cursor.Reaches text) (again left) (Cursor.Reaches text) es (attemptMore c left es))
    (left : Expr) :
    Traces limit text (Cursor.Reaches text) (chainRound calls c again left) (Cursor.Reaches text) ds
      (attemptMore c left ds) := by
  refine .of_place fun start place => .of_suffix fun suffix => (lift_traces (scans_position text start)).step ?_
  refine Traces.at_place ?_ place
  cases next : chainOp? c ds with
  | none =>
    rw [attemptMore_of_none next]
    exact (lift_traces (passChainOp_absent next)).step (.pure left)
  | some found =>
    obtain ⟨op, rest⟩ := found
    have fewer := chainOp?_shorter ((chainOp?_congr (skipBlank_skipBlank ds) c).trans next)
    have begun := skipBlank_length_le start
    rw [place.skipBlank_eq] at begun
    have front := skipBlank_length_le ds
    rw [attemptMore_of_some next]
    refine (lift_traces ((chooses_passChainOp text ds c).found next).from_reaches).step ?_
    refine (recordAt_traces fun _ stands => stands.reaches.lt_position suffix (by omega)).step ?_
    refine (below.further c.operand (by omega)).from_stands.bind fun right after read => ?_
    have behind := length_of_attempt read
    refine (recordAt_traces fun _ reaches => reaches.lt_position suffix (by omega)).step ?_
    exact shorter (.binary op left right) after (by omega)

end Further

/-- A chain comes to an end if the readers of less weight do. -/
theorem chained {c : Chain} (below : Below limit text calls (weight (.expression (.chain c)) cs)) :
    Traces limit text (Cursor.Reaches text) (chained calls c) (Cursor.Reaches text) cs
      (attempt (.chain c) cs) := by
  rw [Traced.chained, attempt_chain]
  refine (below.tighter c.operand_rank_lt).bind fun left rest read => ?_
  refine loop_traces (attemptMore c) (fun again ds within shorter left => ?_) left (Nat.le_refl _)
  exact below.chainRound c (Nat.lt_of_le_of_lt within (length_of_attempt read)) shorter left

/-- So does a negation. -/
theorem negation (below : Below limit text calls (weight (.expression .negation) cs)) :
    Traces limit text (Cursor.Reaches text) (negation calls) (Cursor.Reaches text) cs (attempt .negation cs) := by
  rw [Traced.negation, attempt_negation]
  cases next : keyword? "not" cs with
  | some rest =>
    refine (lift_traces ((tests_passKeyword text cs "not").found next).from_reaches).step ?_
    exact (below.further .negation (keyword?_shorter next (by decide))).from_stands.map _
  | none => exact (lift_traces (passKeyword_absent next).from_reaches).step (below.tighter (by decide))

/-- So does a comparison. -/
theorem comparison (below : Below limit text calls (weight (.expression .comparison) cs)) :
    Traces limit text (Cursor.Reaches text) (comparison calls) (Cursor.Reaches text) cs
      (attempt .comparison cs) := by
  rw [Traced.comparison, attempt_comparison]
  refine (below.tighter (by decide)).bind fun left rest read => ?_
  dsimp only
  cases next : comparisonOp? rest with
  | none => exact (lift_traces (passFirst_absent next)).step (.pure left)
  | some found =>
    obtain ⟨op, operand⟩ := found
    have shorter := Nat.lt_trans (comparisonOp?_shorter next) (length_of_attempt read)
    refine (lift_traces ((chooses_passFirst text rest comparisonSymbols).found next).from_reaches).step ?_
    refine (below.further (.chain .sum) shorter).from_stands.bind fun right after _ => ?_
    dsimp only
    cases more : comparisonOp? after with
    | none => exact (lift_traces (passFirst_absent more)).step (.pure _)
    | some found =>
      obtain ⟨_, chained⟩ := found
      refine (lift_traces ((chooses_passFirst text after comparisonSymbols).found more).from_reaches).step ?_
      exact .of_stands (lift_traces (scans_fail text chained _))

/-- So does a sign. -/
theorem sign (below : Below limit text calls (weight (.expression .sign) cs)) :
    Traces limit text (Cursor.Reaches text) (sign calls) (Cursor.Reaches text) cs (attempt .sign cs) := by
  rw [Traced.sign, attempt_sign]
  cases minus : symbol? "-" cs with
  | some rest =>
    refine (lift_traces ((tests_passSymbol text cs "-").found minus).from_reaches).step ?_
    exact (below.further .sign (symbol?_shorter minus (by decide))).from_stands.map _
  | none =>
    refine (lift_traces (passSymbol_absent minus).from_reaches).step ?_
    dsimp only
    cases plus : symbol? "+" cs with
    | some rest =>
      refine (lift_traces ((tests_passSymbol text cs "+").found plus).from_reaches).step ?_
      exact (below.further .sign (symbol?_shorter plus (by decide))).from_stands
    | none => exact (lift_traces (passSymbol_absent plus).from_reaches).step (below.tighter (by decide))

/-- So does a power. -/
theorem power (below : Below limit text calls (weight (.expression .power) cs)) :
    Traces limit text (Cursor.Reaches text) (power calls) (Cursor.Reaches text) cs (attempt .power cs) := by
  rw [Traced.power, attempt_power]
  refine (below.tighter (by decide)).bind fun base rest read => ?_
  dsimp only
  cases next : symbol? "**" rest with
  | none => exact (lift_traces (passSymbol_absent next).from_reaches).step (.pure base)
  | some operand =>
    have shorter := Nat.lt_trans (symbol?_shorter next (by decide)) (length_of_attempt read)
    refine (lift_traces ((tests_passSymbol text rest "**").found next).from_reaches).step ?_
    exact (below.further .sign shorter).from_stands.map _

section Atoms

variable (below : Below limit text calls (weight reader cs))

include below

/-- What begins with a name comes to an end behind the name. -/
theorem named (name : String) (shorter : rest.length < cs.length) :
    Traces limit text (Cursor.Stands text) (named calls name) (Cursor.Reaches text) rest
      (attemptNamed name rest) := by
  rw [Traced.named, attemptNamed]
  cases next : nextChar? '(' rest with
  | some after =>
    have front := nextChar?_eq_some.1 next
    have fewer := Nat.lt_trans (length_of_skipBlank front) shorter
    rw [front]
    refine (lift_traces ((tests_passChar text rest '(').found next).from_stands).step ?_
    exact (below.furtherItems ')' fewer).from_stands.map _
  | none =>
    refine (lift_traces (passChar_absent next).from_stands).step ?_
    cases front : skipBlank rest with
    | nil => exact .pure _
    | cons d after =>
      have other : d ≠ '(' := by
        rintro rfl
        exact nextChar?_eq_none.1 next after front
      simp only [if_neg other]
      exact .pure _

/-- A word comes to an end, with or without a call behind it. -/
theorem word (within : ds.length ≤ cs.length) (skipped : skipBlank ds = ds) :
    Traces limit text (Cursor.Stands text) (word calls) (Cursor.Reaches text) ds (wordOutcome ds) := by
  rw [Traced.word]
  have found := (reads_identifier text ds).at_front
  rw [identified, skipped] at found
  refine .of_suffix fun suffix => (lift_traces (scans_position text _)).step ?_
  cases ds with
  | nil =>
    exact (lift_traces found).step
      (.of_stands ((lift_traces (scans_peekWord text _)).step (lift_traces (scans_fail text _ _))))
  | cons c tail =>
    rw [wordOutcome]
    by_cases start : isWordStart c
    · simp only [if_pos start] at found ⊢
      have shorter := Nat.lt_of_lt_of_le (spanWord_shorter start) within
      refine (lift_traces found).step ?_
      generalize String.ofList (spanWord (c :: tail)).1 = name
      dsimp only
      rw [attemptWord]
      cases constant? name with
      | some value => exact .of_stands (.pure _)
      | none =>
        dsimp only
        split
        · exact .of_stands (lift_traces (scans_failAt suffix _))
        · exact below.named name shorter
    · simp only [if_neg start] at found ⊢
      exact (lift_traces found).step
        (.of_stands ((lift_traces (scans_peekWord text _)).step (lift_traces (scans_fail text _ _))))

end Atoms

/-- An atom comes to an end if the readers of less weight do. -/
theorem atom (below : Below limit text calls (weight (.expression .atom) cs)) :
    Traces limit text (Cursor.Reaches text) (atom calls) (Cursor.Reaches text) cs (attempt .atom cs) := by
  rw [Traced.atom, attempt_atom]
  refine (lift_traces (reads_skip text cs).from_reaches).step ((lift_traces (scans_peek text _)).step ?_)
  have skipped := skipBlank_skipBlank cs
  cases front : skipBlank cs with
  | nil => exact below.word (Nat.zero_le _) rfl
  | cons c tail =>
    rw [front] at skipped
    have shorter := length_of_skipBlank front
    dsimp only [List.head?_cons]
    rw [attemptFront]
    split
    · exact .of_stands ((lift_traces (scans_number text skipped)).map _)
    split
    · have quoted := scans_string text c tail
      rw [quotedOutcome] at quoted
      cases found : scanString c tail with
      | none =>
        rw [found] at quoted
        exact .of_stands (lift_traces quoted).fails
      | some read =>
        rw [found] at quoted
        exact .of_stands ((lift_traces quoted).step (.pure _))
    split
    · refine (lift_traces (scans_advance_cons text c tail)).step ?_
      refine (below.further .loosest shorter).from_stands.bind fun e rest _ => ?_
      exact .of_stands ((lift_traces (reads_expectChar text rest ')').from_reaches).map fun _ => e)
    split
    · refine (lift_traces (scans_advance_cons text c tail)).step ?_
      exact (below.furtherItems ']' shorter).from_stands.map _
    · exact below.word shorter skipped

/-- A round of a sequence comes to an end if the next rounds do. -/
theorem itemsRound {close : Char} (below : Below limit text calls (weight .items cs))
    {again : Unit → Traced (List Expr)} (within : ds.length ≤ cs.length)
    (shorter : ∀ es, es.length < (skipBlank ds).length →
      Traces limit text (Cursor.Reaches text) (again ()) (Cursor.Reaches text) es (itemsOutcome close es)) :
    Traces limit text (Cursor.Reaches text) (itemsRound calls close again ()) (Cursor.Reaches text) ds
      (itemsOutcome close ds) := by
  refine .of_place fun start place => .of_suffix fun suffix => (lift_traces (scans_position text start)).step ?_
  refine Traces.at_place ?_ place
  have first := below.level .loosest (weight_lt_of_rank_lt (by decide) within)
  rw [itemsOutcome]
  refine first.bind fun item rest read => ?_
  rw [attempt_congr .loosest (skipBlank_skipBlank ds).symm] at read
  have fewer := length_of_attempt read
  have begun := skipBlank_length_le start
  rw [place.skipBlank_eq] at begun
  have front := skipBlank_length_le ds
  dsimp only
  rw [attemptMoreItems]
  have comma := (reads_expectChar text rest ',').from_reaches
  rw [attemptClose] at comma
  cases closed : nextChar? close rest with
  | some after =>
    have behind := length_of_skipBlank (nextChar?_eq_some.1 closed)
    rw [nextChar?_eq_some.1 closed]
    simp only [if_true]
    refine (lift_traces ((tests_passChar text rest close).found closed).from_reaches).step ?_
    refine (recordAt_traces fun _ stands => stands.reaches.lt_position suffix (by omega)).step ?_
    exact .of_stands (.pure _)
  | none =>
    refine (lift_traces (passChar_absent closed).from_reaches).step ?_
    cases next : skipBlank rest with
    | nil =>
      rw [next] at comma
      exact (lift_traces comma).fails
    | cons d after =>
      have other : d ≠ close := by
        rintro rfl
        exact nextChar?_eq_none.1 closed after next
      rw [next] at comma
      simp only [if_neg other] at comma ⊢
      by_cases more : d = ','
      · simp only [if_pos more] at comma ⊢
        have behind := length_of_skipBlank next
        refine (lift_traces comma).step ?_
        cases last : nextChar? close after with
        | some afterLast =>
          have trailing := length_of_skipBlank (nextChar?_eq_some.1 last)
          rw [attemptItems_of_close (nextChar?_eq_some.1 last)]
          refine (lift_traces ((tests_passChar text after close).found last).from_stands).step ?_
          refine (recordAt_traces fun _ stands => stands.reaches.lt_position suffix (by omega)).step ?_
          exact .of_stands (.pure _)
        | none =>
          rw [attemptItems_of_item (nextChar?_eq_none.1 last)]
          refine (lift_traces (passChar_absent last).from_stands).step ?_
          refine (recordAt_traces fun _ reaches => reaches.lt_position suffix (by omega)).step ?_
          exact (shorter after (by omega)).map _
      · simp only [if_neg more] at comma ⊢
        exact (lift_traces comma).fails

/-- A sequence comes to an end if the readers of less weight do. -/
theorem sequence {close : Char} (below : Below limit text calls (weight .items cs)) :
    Traces limit text (Cursor.Reaches text) (sequence calls close) (Cursor.Reaches text) cs
      (attemptItems close cs) := by
  rw [Traced.sequence]
  cases closed : nextChar? close cs with
  | some after =>
    rw [attemptItems_of_close (nextChar?_eq_some.1 closed)]
    refine (lift_traces ((tests_passChar text cs close).found closed).from_reaches).step ?_
    exact .of_stands (.pure _)
  | none =>
    rw [attemptItems_of_item (nextChar?_eq_none.1 closed)]
    refine (lift_traces (passChar_absent closed).from_reaches).step ?_
    refine loop_traces (fun _ => itemsOutcome close) (fun again ds within shorter _ => ?_) () (Nat.le_refl _)
    exact below.itemsRound within fun es fewer => shorter () es fewer

/-- What is read at a level, if the readers that bind more tightly and those behind it can be called. -/
theorem expressionAt {level : Level} (below : Below limit text calls (weight (.expression level) cs)) :
    Traces limit text (Cursor.Reaches text) (expressionAt calls level) (Cursor.Reaches text) cs
      (attempt level cs) := by
  cases level with
  | chain c => exact below.chained
  | negation => exact below.negation
  | comparison => exact below.comparison
  | sign => exact below.sign
  | power => exact below.power
  | atom => exact below.atom

end Below

/-! ### The calls under way -/

/-- Calls under way from which a reader is called with less than some weight. -/
structure Nested (limit : Nat) (text : List Char) (w : Nat) (stack : List Frame) : Prop where
  room : stack.length + w ≤ limit
  outer : ∀ frame ∈ stack, ∃ cs, cs <:+ text ∧ frame.start = byteLength text - byteLength cs ∧
    w ≤ weight frame.reader cs
  later : stack.Pairwise fun inner outer => inner.reader = outer.reader → outer.start < inner.start

variable {limit w : Nat} {stack : List Frame} {reader : Reader}

/-- One call more, and what is called from it has less weight. Of two calls of the same reader, the one with less
weight has fewer characters before it. -/
theorem Nested.cons (nested : Nested limit text w stack) (less : weight reader cs < w) (suffix : cs <:+ text) :
    Nested limit text (weight reader cs) (⟨reader, byteLength text - byteLength cs⟩ :: stack) where
  room := by
    have := nested.room
    rw [List.length_cons]
    omega
  outer := by
    refine List.forall_mem_cons.2 ⟨⟨cs, suffix, rfl, Nat.le_refl _⟩, fun frame mem => ?_⟩
    obtain ⟨ds, suffix', start, above⟩ := nested.outer frame mem
    exact ⟨ds, suffix', start, Nat.le_trans (Nat.le_of_lt less) above⟩
  later := by
    refine List.pairwise_cons.2 ⟨fun frame mem same => ?_, nested.later⟩
    obtain ⟨ds, suffix', start, above⟩ := nested.outer frame mem
    have shorter : cs.length < ds.length := by
      have := Nat.lt_of_lt_of_le less above
      rw [← show reader = frame.reader from same] at this
      unfold weight at this
      omega
    have less := byteLength_lt_of_suffix suffix' suffix shorter
    have fits := byteLength_le_of_suffix suffix'
    dsimp only
    omega

/-- A stack of nested calls is within the limit. -/
theorem Nested.sound (nested : Nested limit text w stack) : Sound limit (.entered stack) :=
  ⟨Nat.le_trans (Nat.le_add_right _ _) nested.room, nested.later⟩

/-- A call that is entered ends as its body does, and has read something if it succeeds. -/
theorem enter_traces {body : List Frame → Traced α} {outcome : Except Failure (α × List Char)}
    (nested : Nested limit text w stack) (less : weight reader cs < w)
    (shorter : ∀ a rest, outcome = .ok (a, rest) → rest.length < cs.length)
    (traces : ∀ inner, Nested limit text (weight reader cs) inner →
      Traces limit text (Cursor.Stands text) (body inner) (Cursor.Reaches text) cs outcome) :
    Traces limit text (Cursor.Stands text) (enter reader stack body) (Cursor.Reaches text) cs outcome := by
  refine .of_suffix fun suffix => (lift_traces (Walk.scans_position text cs)).step ?_
  have inner := nested.cons less suffix
  have whole : outcome = outcome.bind .ok := by cases outcome <;> rfl
  refine (record_traces inner.sound).step ?_
  rw [whole]
  refine (traces _ inner).bind fun a rest read => ?_
  refine (recordAt_traces fun _ reaches => ?_).step (.pure a)
  exact reaches.lt_position suffix (shorter a rest read)

/-- With calls for each step of a weight, every reader of less weight comes to an end: a call takes one of the calls
that are left, and what it calls in turn has less weight than it has itself. -/
theorem below_calls {n : Nat} (nested : Nested limit text w stack) (enough : w ≤ n) :
    Below limit text (calls n stack) w := by
  induction n generalizing w stack with
  | zero =>
    obtain rfl : w = 0 := Nat.le_zero.1 enough
    exact ⟨fun _ _ h => absurd h (Nat.not_lt_zero _), fun _ _ h => absurd h (Nat.not_lt_zero _)⟩
  | succ n ih =>
    constructor
    · intro level cs less
      refine .of_place fun ds place => ?_
      have less' := Nat.lt_of_le_of_lt (weight_mono _ place.length_le) less
      rw [← attempt_congr level place.skipBlank_eq, calls_level]
      refine enter_traces nested less' (fun _ _ => length_of_attempt) fun inner nested' => ?_
      exact (ih nested' (by omega)).expressionAt.from_stands
    · intro close cs less
      refine .of_place fun ds place => ?_
      have less' := Nat.lt_of_le_of_lt (weight_mono _ place.length_le) less
      rw [← attemptItems_congr place.skipBlank_eq close, calls_sequence]
      refine enter_traces nested less' (fun _ _ => length_of_attemptItems) fun inner nested' => ?_
      exact (ih nested' (by omega)).sequence.from_stands

/-- At first no call has been entered. -/
theorem nested_nil (limit : Nat) (text : List Char) : Nested limit text limit [] :=
  ⟨Nat.le_of_eq (Nat.zero_add limit), List.forall_mem_nil _, .nil⟩

/-! ### Whole runs -/

/-- A run from behind the front of a text comes to an end with an answer, and what its record holds. -/
structure Completes (front back : String) (x : Traced α) (answer : Except ParseError α) (last : Run) : Prop where
  answers : x (.behind front back) = some (answer, last)
  /-- What does not fail has gone further. -/
  advances : ∀ a, answer = .ok a → front.utf8ByteSize < last.cursor.position
  calls_advance : ∀ frame stop, .left frame stop ∈ last.events → frame.start < stop
  rounds_advance : ∀ start stop, .round start stop ∈ last.events → start < stop
  /-- A reader that is called again while it is under way has gone further. -/
  cycles_advance : ∀ stack, .entered stack ∈ last.events →
    stack.Pairwise fun inner outer => inner.reader = outer.reader → outer.start < inner.start
  depth : ∀ event ∈ last.events, event.depth ≤ 10 * back.utf8ByteSize + 10

/-- A run that begins behind some text stands behind it. -/
theorem behind_stands (front back : String) :
    (Run.behind front back).cursor.Stands (front ++ back).toList back.toList := by
  refine ⟨rfl, ⟨front.toList, String.toList_append, ?_⟩, List.forall_mem_nil _⟩
  exact utf8ByteSize_eq front

/-- A run that meets the outcome of a reader and keeps its record sound comes to an end. -/
theorem exists_completes {front back : String} {x : Traced α} {outcome : Except Failure (α × List Char)}
    (shorter : ∀ a rest, outcome = .ok (a, rest) → rest.length < back.toList.length)
    (traces : Traces (10 * back.toList.length + 10) (front ++ back).toList
      (Cursor.Stands (front ++ back).toList) x (Cursor.Reaches (front ++ back).toList) back.toList outcome) :
    ∃ last, Completes front back x ((outcome.map (·.1)).mapError (·.toError (front ++ back).toList)) last := by
  have stands := behind_stands front back
  obtain ⟨result, last, ran, meets, sound⟩ := traces _ stands (List.forall_mem_nil _)
  have chars := length_le_byteLength back.toList
  rw [← utf8ByteSize_eq] at chars
  have answer : result = (outcome.map (·.1)).mapError (·.toError (front ++ back).toList) := by
    rcases outcome with failure | ⟨a, rest⟩
    · exact meets.1
    · exact meets.1
  subst answer
  refine ⟨last, ran, fun a ok => ?_, fun _ _ mem => sound _ mem, fun _ _ mem => sound _ mem,
    fun _ mem => (sound _ mem).2, fun event mem => ?_⟩
  · rcases outcome with failure | ⟨a', rest⟩
    · contradiction
    · have begun := meets.2.lt_position stands.suffix (shorter a' rest rfl)
      rw [← stands.position_eq] at begun
      exact begun
  · have few := (sound event mem).depth_le
    omega

/-- Behind a statement fewer characters are left. -/
theorem length_of_attemptStatement {s : Statement} (h : attemptStatement cs = .ok (s, rest)) :
    rest.length < cs.length := by
  rw [attemptStatement] at h
  cases found : assignee? cs with
  | some assignment =>
    obtain ⟨name, behind⟩ := assignment
    rw [found] at h
    obtain ⟨⟨value, after⟩, read, same⟩ := exists_of_map_eq_ok h
    cases same
    exact Nat.lt_trans (length_of_attempt read) (assignee?_eq_some_iff.1 found).shorter
  | none =>
    rw [found] at h
    obtain ⟨⟨e, after⟩, read, same⟩ := exists_of_map_eq_ok h
    cases same
    exact length_of_attempt read

/-- A statement comes to an end if the readers of less weight do. -/
theorem statement_traces {calls : Calls} (below : Below limit text calls w)
    (less : weight (.expression .loosest) cs < w) :
    Traces limit text (Cursor.Stands text) (statement calls) (Cursor.Reaches text) cs (attemptStatement cs) := by
  have front := Walk.scans_assigned text cs
  rw [Walk.assignedOutcome] at front
  rw [Traced.statement, attemptStatement]
  cases found : assignee? cs with
  | some assignment =>
    obtain ⟨name, rest⟩ := assignment
    have shorter := (assignee?_eq_some_iff.1 found).shorter
    rw [found] at front
    refine (lift_traces front).step ?_
    exact (below.level .loosest (Nat.lt_trans (weight_lt_of_length_lt _ _ shorter) less)).from_stands.map _
  | none =>
    rw [found] at front
    exact (lift_traces front).step ((below.level .loosest less).from_stands.map _)

section Ends

variable {outcome : Except Failure (α × List Char)}

/-- What comes of a whole text, of which something was read. -/
def wholeOutcome (outcome : Except Failure (α × List Char)) : Except Failure (α × List Char) :=
  outcome.bind fun (a, rest) => (readEnd rest).map fun _ => (a, [])

/-- What comes of a whole text is what comes of its body, if nothing is left. -/
theorem map_wholeOutcome :
    (wholeOutcome outcome).map (·.1) = outcome.bind fun (a, rest) => (readEnd rest).map fun _ => a := by
  rcases outcome with failure | ⟨a, rest⟩
  · rfl
  · simp only [wholeOutcome, Except.bind]
    cases readEnd rest <;> rfl

/-- Behind a whole text fewer characters are left. -/
theorem length_of_wholeOutcome (shorter : ∀ a rest, outcome = .ok (a, rest) → rest.length < cs.length) {a : α}
    (h : wholeOutcome outcome = .ok (a, rest)) : rest.length < cs.length := by
  rcases outcome with failure | ⟨a', after⟩
  · contradiction
  · obtain ⟨_, -, same⟩ := exists_of_map_eq_ok h
    cases same
    exact Nat.lt_of_le_of_lt (Nat.zero_le _) (shorter a after rfl)

/-- A whole text comes to an end if its body does. -/
theorem whole_traces {R : List Char → Cursor → Prop} {body : Traced α}
    (traces : Traces limit text R body (Cursor.Reaches text) cs outcome) :
    Traces limit text R (whole body) (Cursor.Reaches text) cs (wholeOutcome outcome) := by
  refine traces.bind fun a rest _ => ?_
  have finished := (Walk.reads_finish text rest).from_reaches
  dsimp only
  cases ended : readEnd rest with
  | error failure =>
    rw [ended] at finished
    exact (lift_traces finished).fails
  | ok _ =>
    rw [ended] at finished
    exact .of_stands ((lift_traces finished).step (.pure a))

end Ends

/-- A plain result has the value that the result has. -/
theorem map_plain {P : List Char → Prop} (result : Except Failure (α × { rest : List Char // P rest })) :
    (plain result).map (·.1) = result.map (·.1) := by
  cases result <;> rfl

/-- Wherever it begins in a text, every reader comes to an end, with what the reader by characters answers, and so
do expressions and statements that are whole texts. Ten calls at once for each byte that is left, and ten, are
enough, and more of them make no difference. -/
theorem calls_complete (front back : String) (spare : Nat) :
    let readers := calls (10 * back.utf8ByteSize + 10 + spare) []
    (∀ level, ∃ last, Completes front back (readers.level level)
      (((readLevel level back.toList).map (·.1)).mapError (·.toError (front ++ back).toList)) last) ∧
    (∀ close, ∃ last, Completes front back (readers.sequence close)
      (((readItems close back.toList).map (·.1)).mapError (·.toError (front ++ back).toList)) last) ∧
    (∃ last, Completes "" back (whole (readers.level .loosest)) (parse back) last) ∧
    ∃ last, Completes "" back (whole (statement readers)) (parseStatement back) last := by
  intro readers
  have chars := length_le_byteLength back.toList
  rw [← utf8ByteSize_eq] at chars
  have below : ∀ text, Below (10 * back.toList.length + 10) text readers (10 * back.toList.length + 10) :=
    fun text => below_calls (nested_nil _ text) (by omega)
  have fits : ∀ reader, weight reader back.toList < 10 * back.toList.length + 10 := fun reader =>
    Nat.add_lt_add_left (Nat.lt_succ_of_le (rank_le reader)) _
  refine ⟨fun level => ?_, fun close => ?_, ?_, ?_⟩
  · rw [← map_plain]
    exact exists_completes (fun _ _ => length_of_attempt) ((below _).level level (fits _)).from_stands
  · rw [← map_plain]
    exact exists_completes (fun _ _ => length_of_attemptItems) ((below _).items close (fits _)).from_stands
  · have traces := whole_traces ((below ("" ++ back).toList).level .loosest (fits _))
    have completes := exists_completes
      (fun _ _ => length_of_wholeOutcome fun _ _ => length_of_attempt) traces.from_stands
    rwa [map_wholeOutcome, ← readExpr_eq, String.empty_append, ← parse] at completes
  · have traces := whole_traces (statement_traces (below ("" ++ back).toList) (fits _))
    have completes := exists_completes
      (fun _ _ => length_of_wholeOutcome fun _ _ => length_of_attemptStatement) traces
    rwa [map_wholeOutcome, ← readStatement_eq, String.empty_append, ← parseStatement] at completes

/-- Behind each bracket ten calls are under way more than before it, and nine for a name. -/
example : (((calls 30 []).level .loosest (.behind "" "[[x")).map fun (_, last) =>
    (last.events.map Event.depth).max?) = some (some 29) := by
  decide +kernel

end Traced

end Backtest.Language
