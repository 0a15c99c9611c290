import Backtest.Proofs.Language.Places

/-!
# The calls of a descent

The readers of expressions as ten that call one another: one for each level, and one for the items of a list or a
call. They go over a text by position, and a run of them keeps a record of its calls and of the rounds of its
loops: a round is recorded behind its operator and at its end, where it goes on or has read the last item. Only
so many calls can be under way at once; a run that needs more of them has no answer.
-/

namespace Backtest.Language

open Backtest.Text

/-- What can be called: the reader of a level, or that of items. -/
inductive Reader where
  | expression (level : Level)
  | items
  deriving DecidableEq

/-- The place of a reader among those that begin at the same position. -/
def Reader.rank : Reader → Nat
  | .expression level => level.rank
  | .items => 9

/-- A call of a reader, and the position that it began at. -/
structure Frame where
  reader : Reader
  start : Nat

/-- What is recorded of a run. -/
inductive Event where
  /-- A call has begun, and these are under way, the innermost first. -/
  | entered (stack : List Frame)
  /-- A call has come to its end without a failure. -/
  | left (frame : Frame) (stop : Nat)
  /-- A round of a loop that began at a position has come to another one. -/
  | round (start stop : Nat)

/-- How many calls an event finds under way. -/
def Event.depth : Event → Nat
  | .entered stack => stack.length
  | _ => 0

/-- A cursor and a record, the latest event first. -/
structure Run where
  cursor : Cursor
  events : List Event

/-- A run that begins behind the front of a text, of which nothing is recorded yet. -/
def Run.behind (front back : String) : Run :=
  ⟨⟨(front ++ back).toList, front.utf8ByteSize, []⟩, []⟩

/-- Computations that move a cursor and keep a record, also of what comes before a failure. -/
abbrev Traced := ExceptT ParseError (StateT Run Option)

namespace Traced

variable {α β : Type} {text cs ds rest : List Char}

/-- A walk, which has no calls to record. -/
def lift (walk : Walk α) : Traced α :=
  fun run => (walk run.cursor).map fun (result, cursor) => (result, { run with cursor := cursor })

def record (event : Event) : Traced Unit :=
  fun run => some (.ok (), { run with events := event :: run.events })

/-- Records an event with the position that the cursor has come to. -/
def recordAt (event : Nat → Event) : Traced Unit := do
  record (event (← lift Walk.position))

def stuck : Traced α :=
  fun _ => none

/-- Calls a reader while others are under way. -/
def enter (reader : Reader) (stack : List Frame) (body : List Frame → Traced α) : Traced α := do
  let frame := Frame.mk reader (← lift Walk.position)
  record (.entered (frame :: stack))
  let a ← body (frame :: stack)
  recordAt (.left frame)
  return a

/-- Some rounds of a loop. -/
def repeatFor {ι : Type} (round : (ι → Traced α) → ι → Traced α) : Nat → ι → Traced α
  | 0 => fun _ => stuck
  | n + 1 => round (repeatFor round n)

/-- A loop, which goes over some character of the text before each round but the first. -/
def loop {ι : Type} (round : (ι → Traced α) → ι → Traced α) (start : ι) : Traced α := do
  repeatFor round (← lift Walk.rounds) start

/-- The readers that can be called. -/
structure Calls where
  level : Level → Traced Expr
  sequence : Char → Traced (List Expr)

section Bodies

variable (calls : Calls)

/-- Goes on with a chain whose operands so far are `left`. -/
def chainRound (c : Chain) (again : Expr → Traced Expr) (left : Expr) : Traced Expr := do
  let start ← lift Walk.position
  match ← lift (Walk.passChainOp c) with
  | none => return left
  | some op => do
    recordAt (.round start)
    let right ← calls.level c.operand
    recordAt (.round start)
    again (.binary op left right)

def chained (c : Chain) : Traced Expr := do
  let left ← calls.level c.operand
  loop (chainRound calls c) left

def negation : Traced Expr := do
  if ← lift (Walk.passKeyword "not") then do
    let operand ← calls.level .negation
    return .unary .not operand
  else calls.level .comparison

def comparison : Traced Expr := do
  let left ← calls.level (.chain .sum)
  match ← lift (Walk.passFirst comparisonSymbols) with
  | none => return left
  | some op => do
    let right ← calls.level (.chain .sum)
    match ← lift (Walk.passFirst comparisonSymbols) with
    | some _ => lift (Walk.fail .chainedComparison)
    | none => return .binary op left right

def sign : Traced Expr := do
  if ← lift (Walk.passSymbol "-") then do
    let operand ← calls.level .sign
    return .unary .neg operand
  else do
    if ← lift (Walk.passSymbol "+") then calls.level .sign
    else calls.level .power

def power : Traced Expr := do
  let base ← calls.level .atom
  if ← lift (Walk.passSymbol "**") then do
    let exponent ← calls.level .sign
    return .binary (.arithmetic .pow) base exponent
  else return base

/-- Reads the arguments of a call behind a name, if there are any. -/
def named (name : String) : Traced Expr := do
  if ← lift (Walk.passChar '(') then do
    let args ← calls.sequence ')'
    return .call name args
  else return .name name

/-- Reads a constant, a name or a call. -/
def word : Traced Expr := do
  let start ← lift Walk.position
  match ← lift Walk.identifier with
  | none => do
    let found ← lift Walk.peekWord
    lift (Walk.fail (.expectedExpression found))
  | some name =>
    match constant? name with
    | some value => return .literal value
    | none =>
      if isOperatorWord name then lift (Walk.failAt (.expectedExpression (some name)) start)
      else named calls name

def atom : Traced Expr := do
  lift Walk.skip
  match ← lift Walk.peek with
  | none => word calls
  | some c =>
    if isNumberStart c then do
      let value ← lift Walk.number
      return .literal value
    else if c = '"' ∨ c = '\'' then do
      let text ← lift (Walk.string c)
      return .literal (.str (String.ofList text))
    else if c = '(' then do
      let _ ← lift Walk.advance
      let inner ← calls.level .loosest
      lift (Walk.expectChar ')')
      return inner
    else if c = '[' then do
      let _ ← lift Walk.advance
      let items ← calls.sequence ']'
      return .list items
    else word calls

/-- Reads an item and those that follow it. -/
def itemsRound (close : Char) (again : Unit → Traced (List Expr)) (_ : Unit) : Traced (List Expr) := do
  let start ← lift Walk.position
  let item ← calls.level .loosest
  if ← lift (Walk.passChar close) then do
    recordAt (.round start)
    return [item]
  else do
    lift (Walk.expectChar ',')
    if ← lift (Walk.passChar close) then do
      recordAt (.round start)
      return [item]
    else do
      recordAt (.round start)
      let more ← again ()
      return item :: more

/-- Reads items with commas between them up to the closing character. -/
def sequence (close : Char) : Traced (List Expr) := do
  if ← lift (Walk.passChar close) then return []
  else loop (itemsRound calls close) ()

/-- Reads an expression of a level. -/
def expressionAt : Level → Traced Expr
  | .chain c => chained calls c
  | .negation => negation calls
  | .comparison => comparison calls
  | .sign => sign calls
  | .power => power calls
  | .atom => atom calls

end Bodies

/-- The readers while some calls are under way, if so many more of them can be at once. -/
def calls : Nat → List Frame → Calls
  | 0, _ => ⟨fun _ => stuck, fun _ => stuck⟩
  | n + 1, stack =>
    ⟨fun level => enter (.expression level) stack fun inner => expressionAt (calls n inner) level,
      fun close => enter .items stack fun inner => sequence (calls n inner) close⟩

/-- The reader of a level is entered with one call less. -/
theorem calls_level (n : Nat) (stack : List Frame) (level : Level) :
    (calls (n + 1) stack).level level =
      enter (.expression level) stack fun inner => expressionAt (calls n inner) level :=
  rfl

/-- The reader of a sequence is entered with one call less. -/
theorem calls_sequence (n : Nat) (stack : List Frame) (close : Char) :
    (calls (n + 1) stack).sequence close = enter .items stack fun inner => sequence (calls n inner) close :=
  rfl

/-- Reads an assignment if the text begins like one, else an expression. -/
def statement (calls : Calls) : Traced Statement := do
  match ← lift Walk.assigned with
  | some name => do
    let value ← calls.level .loosest
    return .assign name value
  | none => do
    let e ← calls.level .loosest
    return .expr e

/-- Reads to the end of the text. -/
def whole (body : Traced α) : Traced α := do
  let a ← body
  lift Walk.finish
  return a

/-! ### Runs with a sound record -/

/-- What a record holds if so many calls are under way at most, those of one reader each further on than the
other, and every call and round goes on. -/
def Sound (limit : Nat) : Event → Prop
  | .entered stack => stack.length ≤ limit ∧
      stack.Pairwise fun inner outer => inner.reader = outer.reader → outer.start < inner.start
  | .left frame stop => frame.start < stop
  | .round start stop => start < stop

/-- A sound event is no deeper than the limit. -/
theorem Sound.depth_le {limit : Nat} {event : Event} (sound : Sound limit event) : event.depth ≤ limit := by
  cases event with
  | entered stack => exact sound.1
  | left frame stop => exact Nat.zero_le limit
  | round start stop => exact Nat.zero_le limit

/-- A run from characters of a text has an answer, which meets the outcome, and keeps its record sound. -/
def Traces (limit : Nat) (text : List Char) (R : List Char → Cursor → Prop) (x : Traced α)
    (S : List Char → Cursor → Prop) (cs : List Char) (outcome : Except Failure (α × List Char)) : Prop :=
  ∀ run, R cs run.cursor → (∀ e ∈ run.events, Sound limit e) →
    ∃ result next, x run = some (result, next) ∧ Walk.Meets text S outcome result next.cursor ∧
      ∀ e ∈ next.events, Sound limit e

/-- A second step is made after a first that succeeds, and else the failure remains. -/
theorem bind_apply (x : Traced α) (f : α → Traced β) (run : Run) :
    (x >>= f) run =
      match x run with
      | none => none
      | some (.ok a, next) => f a next
      | some (.error e, next) => some (.error e, next) := by
  change (x run).bind _ = _
  rcases x run with _ | ⟨_ | _, _⟩ <;> rfl

section Rules

variable {limit : Nat} {R S T : List Char → Cursor → Prop} {a : α} {x : Traced α} {f : α → Traced β}

/-- A value that is there comes of no characters. -/
theorem Traces.pure (a : α) : Traces limit text R (pure a : Traced α) R cs (.ok (a, cs)) :=
  fun run h sound => ⟨.ok a, run, rfl, ⟨rfl, h⟩, sound⟩

/-- Two steps come to what their outcomes come to, one after the other. -/
theorem Traces.bind {outcome : Except Failure (α × List Char)}
    {g : α × List Char → Except Failure (β × List Char)} (first : Traces limit text R x S cs outcome)
    (next : ∀ a rest, outcome = .ok (a, rest) → Traces limit text S (f a) T rest (g (a, rest))) :
    Traces limit text R (x >>= f) T cs (outcome.bind g) := by
  intro run h sound
  obtain ⟨result, run', ran, meets, sound'⟩ := first run h sound
  rw [bind_apply, ran]
  rcases outcome with failure | ⟨a, rest⟩
  · obtain ⟨rfl, found⟩ := meets
    exact ⟨_, run', rfl, ⟨rfl, found⟩, sound'⟩
  · obtain ⟨rfl, h'⟩ := meets
    exact next a rest rfl run' h' sound'

/-- A step that does not fail. -/
theorem Traces.step {outcome : Except Failure (β × List Char)}
    (first : Traces limit text R x S cs (.ok (a, rest))) (next : Traces limit text S (f a) T rest outcome) :
    Traces limit text R (x >>= f) T cs outcome :=
  first.bind (g := fun _ => outcome) fun _ _ same => by
    cases same
    exact next

/-- A step that fails. -/
theorem Traces.fails {failure : Failure} (first : Traces limit text R x S cs (.error failure)) :
    Traces limit text R (x >>= f) T cs (.error failure) :=
  first.bind (g := fun _ => .error failure) nofun

/-- A step with its value changed comes to its outcome with the value changed. -/
theorem Traces.map {outcome : Except Failure (α × List Char)} (h : α → β)
    (first : Traces limit text R x S cs outcome) :
    Traces limit text R (x >>= fun a => Pure.pure (h a)) S cs (outcome.map fun (a, rest) => (h a, rest)) := by
  have mapped : (outcome.map fun (a, rest) => (h a, rest)) = outcome.bind fun (a, rest) => .ok (h a, rest) := by
    cases outcome <;> rfl
  rw [mapped]
  exact first.bind fun a rest _ => .pure (h a)

/-- A step may be asked for more places and say less of those that it comes to. -/
theorem Traces.mono {R' S' : List Char → Cursor → Prop} {outcome : Except Failure (α × List Char)}
    (before : ∀ c, R' cs c → R cs c) (after : ∀ rest c, S rest c → S' rest c)
    (traces : Traces limit text R x S cs outcome) : Traces limit text R' x S' cs outcome := by
  intro run h sound
  obtain ⟨result, run', ran, meets, sound'⟩ := traces run (before _ h) sound
  refine ⟨result, run', ran, ?_, sound'⟩
  rcases outcome with failure | ⟨a, rest⟩
  · exact meets
  · exact ⟨meets.1, after rest _ meets.2⟩

/-- A step that ends in a place reaches it. -/
theorem Traces.of_stands {outcome : Except Failure (α × List Char)}
    (traces : Traces limit text R x (Cursor.Stands text) cs outcome) :
    Traces limit text R x (Cursor.Reaches text) cs outcome :=
  traces.mono (fun _ h => h) fun _ _ h => h.reaches

/-- A step that may begin wherever a place is reached may begin in it. -/
theorem Traces.from_stands {outcome : Except Failure (α × List Char)}
    (traces : Traces limit text (Cursor.Reaches text) x S cs outcome) :
    Traces limit text (Cursor.Stands text) x S cs outcome :=
  traces.mono (fun _ h => h.reaches) fun _ _ h => h

/-- A step may begin in any place of the same characters. -/
theorem Traces.at_place {outcome : Except Failure (α × List Char)}
    (traces : Traces limit text (Cursor.Reaches text) x S cs outcome) (place : IsPlace cs ds) :
    Traces limit text (Cursor.Stands text) x S ds outcome :=
  fun run stands => traces run ⟨ds, place, stands⟩

/-- A run that begins wherever the cursor may stand. -/
theorem Traces.of_place {outcome : Except Failure (α × List Char)}
    (traces : ∀ ds, IsPlace cs ds → Traces limit text (Cursor.Stands text) x S ds outcome) :
    Traces limit text (Cursor.Reaches text) x S cs outcome := by
  rintro run ⟨ds, place, stands⟩ sound
  exact traces ds place run stands sound

/-- Where a cursor stands is a part of the text. -/
theorem Traces.of_suffix {outcome : Except Failure (α × List Char)}
    (traces : cs <:+ text → Traces limit text (Cursor.Stands text) x S cs outcome) :
    Traces limit text (Cursor.Stands text) x S cs outcome :=
  fun run stands => traces stands.suffix run stands

/-- A reader without calls comes to its outcome. -/
theorem lift_traces {walk : Walk α} {outcome : Except Failure (α × List Char)}
    (reads : Walk.Reads text R walk S cs outcome) : Traces limit text R (lift walk) S cs outcome := by
  intro run h sound
  obtain ⟨result, c, walked, meets⟩ := reads run.cursor h
  exact ⟨result, { run with cursor := c }, by rw [lift, walked]; rfl, meets, sound⟩

/-- An event that is sound may be recorded anywhere. -/
theorem record_traces {event : Event} (sound : Sound limit event) :
    Traces limit text R (record event) R cs (.ok ((), cs)) :=
  fun _ h before => ⟨_, _, rfl, ⟨rfl, h⟩, List.forall_mem_cons.2 ⟨sound, before⟩⟩

/-- An event with its position may be recorded wherever it is sound. -/
theorem recordAt_traces {event : Nat → Event} (sound : ∀ c, R cs c → Sound limit (event c.position)) :
    Traces limit text R (recordAt event) R cs (.ok ((), cs)) := by
  intro run h before
  refine ⟨.ok (), { run with events := event run.cursor.position :: run.events }, ?_, ⟨rfl, h⟩,
    List.forall_mem_cons.2 ⟨sound _ h, before⟩⟩
  rw [recordAt, bind_apply]
  rfl

/-- A loop has the outcome that each round has if the next one has it wherever fewer characters are left. These are
counted without the blanks in front, which the cursor may have skipped or not. -/
theorem loop_traces {ι : Type} {round : (ι → Traced α) → ι → Traced α}
    (outcome : ι → List Char → Except Failure (α × List Char)) {bound : Nat}
    (step : ∀ again cs, cs.length ≤ bound →
      (∀ i ds, ds.length < (skipBlank cs).length →
        Traces limit text (Cursor.Reaches text) (again i) (Cursor.Reaches text) ds (outcome i ds)) →
      ∀ i, Traces limit text (Cursor.Reaches text) (round again i) (Cursor.Reaches text) cs (outcome i cs))
    (i : ι) (within : cs.length ≤ bound) :
    Traces limit text (Cursor.Reaches text) (loop round i) (Cursor.Reaches text) cs (outcome i cs) := by
  have repeated : ∀ n i cs, cs.length ≤ bound → (skipBlank cs).length < n →
      Traces limit text (Cursor.Reaches text) (repeatFor round n i) (Cursor.Reaches text) cs (outcome i cs) := by
    intro n
    induction n with
    | zero => exact fun _ _ _ h => absurd h (Nat.not_lt_zero _)
    | succ n ih =>
      intro i cs within enough
      have fewer := skipBlank_length_le cs
      refine step (repeatFor round n) cs within (fun i ds shorter => ih i ds (by omega) ?_) i
      have := skipBlank_length_le ds
      omega
  refine .of_place fun ds place => (lift_traces (Walk.scans_rounds text ds)).step ?_
  refine (repeated _ i cs within ?_).at_place place
  rw [← place.skipBlank_eq]
  exact Nat.lt_succ_of_le (skipBlank_length_le ds)

end Rules

end Traced

end Backtest.Language
