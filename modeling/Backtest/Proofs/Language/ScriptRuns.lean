import Backtest.Proofs.Language.HostRelation
import Backtest.Proofs.Language.RoundTrip
import Backtest.Proofs.Language.ScriptLines

/-!
# Runs of scripts

What a run of a script comes to, said about the lines of its text. Two scripts one behind the other run as
the one and then, if it succeeds, the other. A script with a line that is no statement does nothing at all;
any other runs line by line up to the first failure, and its host is called by the lines that run and by the
one that fails, and by no other.
-/

namespace Backtest.Language

variable {σ : Type}

/-- A statement some lines further down. -/
def ScriptLine.moved (count : Nat) (l : ScriptLine) : ScriptLine :=
  { l with line := l.line + count }

/-- An error some lines further down. -/
def ScriptError.moved (count : Nat) (e : ScriptError) : ScriptError :=
  { e with line := e.line + count }

section Join

/-- Lines that are numbered from later on have later numbers. -/
theorem numbered_moved (first count : Nat) (lines : List (List Char)) :
    numbered (first + count) lines = (numbered first lines).map (·.moved count) := by
  induction lines generalizing first with
  | nil => rfl
  | cons line rest ih =>
    rw [numbered, numbered, Nat.add_right_comm, ih]
    split <;> rfl

/-- Lines run in two parts as in one. -/
theorem runLines_append (host : Host σ) (xs ys : List ScriptLine) (state : ScriptState σ) :
    runLines host (xs ++ ys) state =
      match runLines host xs state with
      | (.ok (), mid) => runLines host ys mid
      | (.error e, mid) => (.error e, mid) := by
  induction xs generalizing state with
  | nil => rfl
  | cons l rest ih =>
    rw [List.cons_append, runLines, runLines]
    rcases l.statement.run host state with ⟨e | _, next⟩
    · rfl
    · exact ih next

/-- Lines with later numbers run alike, and fail under later numbers. -/
theorem runLines_moved (host : Host σ) (count : Nat) (lines : List ScriptLine) (state : ScriptState σ) :
    runLines host (lines.map (·.moved count)) state =
      ((runLines host lines state).1.mapError (·.moved count), (runLines host lines state).2) := by
  induction lines generalizing state with
  | nil => rfl
  | cons l rest ih =>
    rw [List.map_cons, runLines, runLines]
    simp only [ScriptLine.moved]
    rcases l.statement.run host state with ⟨e | _, next⟩
    · rfl
    · exact ih next

/-- The statements of two scripts one behind the other, those of the second as far down as the first has
lines. -/
theorem parseScript_join {t u : String} {first second : List ScriptLine}
    (ht : parseScript t = .ok first) (hu : parseScript u = .ok second) :
    parseScript (t ++ "\n" ++ u) = .ok (first ++ second.map (·.moved (t.toList.count '\n' + 1))) := by
  obtain ⟨readable, rfl⟩ := numbered_of_readLines ht
  obtain ⟨readable', rfl⟩ := numbered_of_readLines hu
  have pieces : Text.pieces '\n' (t ++ "\n" ++ u).toList =
      Text.pieces '\n' t.toList ++ Text.pieces '\n' u.toList := by
    rw [← Text.pieces_append]
    simp
  rw [parseScript, pieces, readLines_of_readable (List.forall_mem_append.2 ⟨readable, readable'⟩),
    numbered_append, Text.length_pieces, numbered_moved]

/-- Two scripts one behind the other run as the first and then, if that succeeds, the second on what the
first leaves. An error of the second counts its lines from the end of the first. -/
theorem runScript_join {t u : String} {first second : List ScriptLine}
    (ht : parseScript t = .ok first) (hu : parseScript u = .ok second) (host : Host σ)
    (state : ScriptState σ) :
    runScript host (t ++ "\n" ++ u) state =
      match runScript host t state with
      | (.error e, mid) => (.error e, mid)
      | (.ok (), mid) =>
        match runScript host u mid with
        | (.error e, last) => (.error ⟨e.line + (t.toList.count '\n' + 1), e.cause⟩, last)
        | (.ok (), last) => (.ok (), last) := by
  simp only [runScript, ht, hu, parseScript_join ht hu, runLines_append, runLines_moved]
  rcases runLines host first state with ⟨e | _, mid⟩
  · rfl
  · dsimp only
    rcases runLines host second mid with ⟨e | _, last⟩
    · rfl
    · rfl

/-- The first script ends in a line break, the second fails on its second line. -/
theorem runScript_join_of_failing_second :
    runScript Host.core ("a = 1\r\n" ++ "\n" ++ "# note\nb = c") ⟨.empty, ()⟩ =
      (.error ⟨4, .undefinedName "c"⟩, ⟨Bindings.empty.insert "a" (.int 1), ()⟩) := by
  have one : readLine "a = 1".toList = .ok (some (.assign "a" (.literal (.int 1)))) := by
    have found : assignee? "a = 1".toList = some ("a", [' ', '1']) := by decide +kernel
    exact readLine_of_readStatement (by decide +kernel) rfl
      (readStatement_assign (.literal (.int 1 (by decide))) found (by decide +kernel))
  have name : readLine "b = c".toList = .ok (some (.assign "b" (.name "c"))) := by
    have found : assignee? "b = c".toList = some ("b", [' ', 'c']) := by decide +kernel
    exact readLine_of_readStatement (by decide +kernel) rfl
      (readStatement_assign (.name (by decide)) found (by decide +kernel))
  have note : readLine "# note".toList = .ok none := rfl
  have first : parseScript "a = 1\r\n" = .ok [⟨1, .assign "a" (.literal (.int 1))⟩] := by
    have lines : Text.lines "a = 1\r\n".toList = ["a = 1".toList] := by decide
    rw [parseScript_eq, lines, readLines_cons, one]
    rfl
  have second : parseScript "# note\nb = c" = .ok [⟨2, .assign "b" (.name "c")⟩] := by
    have lines : Text.lines "# note\nb = c".toList = ["# note".toList, "b = c".toList] := by decide
    rw [parseScript_eq, lines, readLines_cons, note]
    dsimp only
    rw [readLines_cons, name]
    rfl
  have breaks : "a = 1\r\n".toList.count '\n' = 1 := by decide
  rw [runScript_join first second, breaks]
  simp only [runScript, first, second]
  rfl

end Join

section Record

/-- A call that a host was given, with its answer, which is none if the host has no such function. -/
structure HostCall where
  function : String
  args : List Value
  answer : Option (Except EvalError Value)

/-- A host that also keeps a record of all calls that it is given. -/
def Host.recording (host : Host σ) : Host (σ × List HostCall) where
  call name args s :=
    let (answer, next) := host.call name args s.1
    (answer, next, s.2 ++ [⟨name, args, answer⟩])

/-- The state of a host when it has been given some calls. -/
def replay (host : Host σ) (calls : List HostCall) (s : σ) : σ :=
  calls.foldl (fun s c => (host.call c.function c.args s).2) s

/-- The calls that the evaluation of an expression makes, up to its failure if it fails. -/
def evaluationCalls (host : Host σ) (b : Bindings) (e : Expr) (s : σ) : List HostCall :=
  (evaluate host.recording b e (s, [])).2.2

/-- The state of a script whose host has a record. -/
def ScriptState.recording (state : ScriptState σ) (record : List HostCall) :
    ScriptState (σ × List HostCall) :=
  ⟨state.bindings, state.host, record⟩

/-- The calls that a script makes. -/
def scriptCalls (host : Host σ) (text : String) (state : ScriptState σ) : List HostCall :=
  (runScript host.recording text (state.recording [])).2.host.2

/-- The record changes no answer, and the calls on it account for the host's state. -/
theorem Host.related_recording (host : Host σ) (s : σ) :
    Host.Related (fun t r => t = r.1 ∧ r.1 = replay host r.2 s) host host.recording := by
  rintro name args _ ⟨t, record⟩ ⟨rfl, replayed⟩
  dsimp only at replayed
  refine ⟨rfl, rfl, ?_⟩
  simp only [Host.recording, replay, List.foldl_append, List.foldl_cons, List.foldl_nil]
  rw [← replay, ← replayed]

/-- What is on the record before does not matter. -/
theorem Host.related_record (host : Host σ) (record : List HostCall) :
    Host.Related (fun s t => s.1 = t.1 ∧ s.2 = record ++ t.2) host.recording host.recording := by
  rintro name args ⟨s, _⟩ ⟨t, later⟩ ⟨same, appended⟩
  dsimp only at same appended
  rw [same, appended]
  exact ⟨rfl, rfl, List.append_assoc ..⟩

/-- With a recording host expressions are evaluated as with the host itself, and calls are recorded. -/
theorem evaluate_recording (host : Host σ) (b : Bindings) (e : Expr) (s : σ) (record : List HostCall) :
    evaluate host.recording b e (s, record) =
      ((evaluate host b e s).1, (evaluate host b e s).2, record ++ evaluationCalls host b e s) := by
  have plain := evaluate_related (host.related_recording s) b e s (s, []) ⟨rfl, rfl⟩
  have appended := evaluate_related (host.related_record record) b e (s, record) (s, []) ⟨rfl, by simp⟩
  refine Prod.ext (appended.1.trans plain.1.symm) (Prod.ext ?_ appended.2.2)
  exact appended.2.1.trans plain.2.1.symm

end Record

section Fate

/-- The expression of a statement. -/
def Statement.expression : Statement → Expr
  | .assign _ e => e
  | .expr e => e

/-- The bindings that a statement leaves when its expression has a value. -/
def Statement.bind (b : Bindings) (v : Value) : Statement → Bindings
  | .assign name _ => b.insert name v
  | .expr _ => b

/-- A statement binds the value of its expression, or fails with its error. -/
theorem Statement.run_eq (host : Host σ) (statement : Statement) (state : ScriptState σ) :
    statement.run host state =
      match evaluate host state.bindings statement.expression state.host with
      | (.ok v, next) => (.ok (), ⟨statement.bind state.bindings v, next⟩)
      | (.error e, next) => (.error e, ⟨state.bindings, next⟩) := by
  cases statement <;> rfl

/-- Lines that run to their end from one state to another, with the calls that they make. -/
inductive Runs (host : Host σ) :
    List (List Char) → ScriptState σ → List HostCall → ScriptState σ → Prop where
  | nil (state : ScriptState σ) : Runs host [] state [] state
  | idle {line : List Char} {rest : List (List Char)} {state last : ScriptState σ}
      {calls : List HostCall} (nothing : readLine line = .ok none)
      (more : Runs host rest state calls last) : Runs host (line :: rest) state calls last
  | statement {line : List Char} {rest : List (List Char)} {state last : ScriptState σ}
      {calls : List HostCall} {s : Statement} {v : Value} {next : σ}
      (read : readLine line = .ok (some s))
      (value : evaluate host state.bindings s.expression state.host = (.ok v, next))
      (more : Runs host rest ⟨s.bind state.bindings v, next⟩ calls last) :
      Runs host (line :: rest) state
        (evaluationCalls host state.bindings s.expression state.host ++ calls) last

/-- What can become of a script: with which calls and which result it ends, and in which state. -/
inductive Fate (host : Host σ) (text : String) (state : ScriptState σ) :
    List HostCall → Except ScriptError Unit → ScriptState σ → Prop where
  /-- The first line that is neither idle nor a statement fails the script, and nothing has been done. -/
  | misread {before after : List (List Char)} {line : List Char} {e : ParseError}
      (lines : Text.lines text.toList = before ++ line :: after)
      (earlier : ∀ l ∈ before, Readable l) (fault : readLine line = .error e) :
      Fate host text state [] (.error ⟨before.length + 1, .parse e⟩) state
  /-- The first statement without a value fails the script in the state that the lines before it leave,
  but for what its own calls have done to the host. -/
  | failed {before after : List (List Char)} {line : List Char} {s : Statement} {e : EvalError}
      {calls : List HostCall} {mid : ScriptState σ} {next : σ}
      (lines : Text.lines text.toList = before ++ line :: after)
      (readable : ∀ l ∈ Text.lines text.toList, Readable l)
      (runs : Runs host before state calls mid) (read : readLine line = .ok (some s))
      (failure : evaluate host mid.bindings s.expression mid.host = (.error e, next)) :
      Fate host text state (calls ++ evaluationCalls host mid.bindings s.expression mid.host)
        (.error ⟨before.length + 1, e⟩) ⟨mid.bindings, next⟩
  | finished {calls : List HostCall} {last : ScriptState σ}
      (runs : Runs host (Text.lines text.toList) state calls last) :
      Fate host text state calls (.ok ()) last

variable {host : Host σ} {state last : ScriptState σ} {calls : List HostCall}
  {lines : List (List Char)}

/-- Lines that have been run are readable. -/
theorem Runs.readable (runs : Runs host lines state calls last) : ∀ l ∈ lines, Readable l := by
  induction runs with
  | nil => simp
  | idle nothing _ ih => exact List.forall_mem_cons.2 ⟨⟨none, nothing⟩, ih⟩
  | statement read _ _ ih => exact List.forall_mem_cons.2 ⟨⟨_, read⟩, ih⟩

/-- Lines that run to their end leave the rest to do. -/
theorem Runs.runLines_eq (runs : Runs host lines state calls last) (first : Nat)
    (rest : List ScriptLine) (record : List HostCall) :
    runLines host.recording (numbered first lines ++ rest) (state.recording record) =
      runLines host.recording rest (last.recording (record ++ calls)) := by
  induction runs generalizing first record with
  | nil => simp [numbered]
  | idle nothing _ ih =>
    rw [numbered, nothing]
    exact ih (first + 1) record
  | statement read value _ ih =>
    rw [numbered, read, List.cons_append, runLines, Statement.run_eq, ScriptState.recording,
      evaluate_recording, value, ← List.append_assoc]
    exact ih (first + 1) _

/-- Readable lines run to their end, or there is a first one that fails. -/
theorem runs_or_fails (readable : ∀ l ∈ lines, Readable l) (host : Host σ) (state : ScriptState σ) :
    (∃ calls last, Runs host lines state calls last) ∨
      ∃ before line after s calls mid e next, lines = before ++ line :: after ∧
        Runs host before state calls mid ∧ readLine line = .ok (some s) ∧
        evaluate host mid.bindings s.expression mid.host = (.error e, next) := by
  induction lines generalizing state with
  | nil => exact .inl ⟨[], state, .nil state⟩
  | cons line rest ih =>
    obtain ⟨⟨statement?, read⟩, later⟩ := List.forall_mem_cons.1 readable
    cases statement? with
    | none =>
      rcases ih later state with ⟨calls, last, runs⟩ | ⟨before, l, after, s, calls, mid, e, next, rfl, runs, h⟩
      · exact .inl ⟨calls, last, .idle read runs⟩
      · exact .inr ⟨line :: before, l, after, s, calls, mid, e, next, rfl, .idle read runs, h⟩
    | some s =>
      rcases value : evaluate host state.bindings s.expression state.host with ⟨e | v, next⟩
      · exact .inr ⟨[], line, rest, s, [], state, e, next, rfl, .nil state, read, value⟩
      · rcases ih later ⟨s.bind state.bindings v, next⟩ with
          ⟨calls, last, runs⟩ | ⟨before, l, after, s', calls, mid, e, next', rfl, runs, h⟩
        · exact .inl ⟨_, last, .statement read value runs⟩
        · exact .inr ⟨line :: before, l, after, s', _, mid, e, next', rfl,
            .statement read value runs, h⟩

variable {text : String} {result : Except ScriptError Unit}

/-- A script meets its fate. -/
theorem Fate.runScript_eq (fate : Fate host text state calls result last) :
    runScript host.recording text (state.recording []) = (result, last.recording calls) := by
  cases fate with
  | @misread before after line e lines earlier fault =>
    rw [runScript, parseScript_eq, lines, readLines_of_misread earlier fault, Nat.add_comm]
  | @failed before after line s e calls mid next lines readable runs read failure =>
    rw [runScript, parseScript_eq, readLines_of_readable readable, lines, numbered_append]
    simp only [runs.runLines_eq, numbered, read]
    rw [runLines, Statement.run_eq, ScriptState.recording, evaluate_recording, failure, Nat.add_comm]
    rfl
  | finished runs =>
    rw [runScript, parseScript_eq, readLines_of_readable runs.readable]
    have done := runs.runLines_eq 1 [] []
    rw [List.append_nil] at done
    exact done

/-- Every script meets some fate. -/
theorem exists_fate (host : Host σ) (text : String) (state : ScriptState σ) :
    ∃ calls result last, Fate host text state calls result last := by
  rcases readable_or_misread (Text.lines text.toList) with
    readable | ⟨before, line, after, e, lines, earlier, fault⟩
  · rcases runs_or_fails readable host state with
      ⟨calls, last, runs⟩ | ⟨before, line, after, s, calls, mid, e, next, lines, runs, read, failure⟩
    · exact ⟨_, _, _, .finished runs⟩
    · exact ⟨_, _, _, .failed lines readable runs read failure⟩
  · exact ⟨_, _, _, .misread lines earlier fault⟩

/-- The record changes nothing else, and the calls on it account for the host's state. -/
theorem runScript_recording (host : Host σ) (text : String) (state : ScriptState σ) :
    runScript host.recording text (state.recording []) =
        ((runScript host text state).1,
          (runScript host text state).2.recording (scriptCalls host text state)) ∧
      (runScript host text state).2.host = replay host (scriptCalls host text state) state.host := by
  rw [scriptCalls, runScript, runScript]
  cases parseScript text with
  | error e => exact ⟨rfl, rfl⟩
  | ok statements =>
    have related := runLines_related (host.related_recording state.host) statements state.bindings
      (t := (state.host, [])) ⟨rfl, rfl⟩
    obtain ⟨result, bindings, plain, replayed⟩ := related
    refine ⟨Prod.ext result.symm ?_, plain.trans replayed⟩
    dsimp only
    rw [ScriptState.recording, ScriptState.recording, bindings, plain]

/-- All or nothing, and a prefix on failure. A script ends in exactly the way that its fate says: if some
line is no statement, with the error of the first such line, without any call and with nothing changed;
else, if some statement has no value, with the error of the first such statement under its line number, in
the state that the lines before it leave, and with their calls and those that it made itself; else with the
effects of all lines. The calls are all that happens to the host. -/
theorem fate_iff_runScript (host : Host σ) (text : String) (state : ScriptState σ)
    (calls : List HostCall) (result : Except ScriptError Unit) (last : ScriptState σ) :
    (Fate host text state calls result last ↔
      runScript host text state = (result, last) ∧ scriptCalls host text state = calls) ∧
    (runScript host text state).2.host = replay host (scriptCalls host text state) state.host := by
  obtain ⟨recorded, replayed⟩ := runScript_recording host text state
  have sound : ∀ {calls result last}, Fate host text state calls result last →
      runScript host text state = (result, last) ∧ scriptCalls host text state = calls := by
    intro calls result last fate
    have run := recorded.symm.trans fate.runScript_eq
    simp only [ScriptState.recording, Prod.mk.injEq, ScriptState.mk.injEq] at run
    obtain ⟨ended, bindings, hosts, called⟩ := run
    refine ⟨Prod.ext ended ?_, called⟩
    obtain ⟨b, s⟩ := last
    dsimp only at bindings hosts ⊢
    rw [← bindings, ← hosts]
  refine ⟨⟨sound, ?_⟩, replayed⟩
  rintro ⟨run, rfl⟩
  obtain ⟨calls, result', last', fate⟩ := exists_fate host text state
  obtain ⟨run', rfl⟩ := sound fate
  obtain ⟨rfl, rfl⟩ := Prod.mk.inj (run'.symm.trans run)
  exact fate

end Fate

end Backtest.Language
