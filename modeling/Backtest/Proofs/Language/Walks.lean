import Backtest.Proofs.Language.Cursor
import Backtest.Proofs.Language.Surroundings

/-!
# Walks over whole characters

What the steps of a cursor come to where it stands between two characters of its text: a look shows the
characters behind it, and a move by what it has looked at leaves it between two characters again.
-/

namespace Backtest.Language

open Backtest.Text

section Bytes

/-- Positions that lie between two characters of a text, or at an end of it. -/
def OnBoundary (text : List Char) (position : Nat) : Prop :=
  ∃ front back, text = front ++ back ∧ position = byteLength front

/-- The bytes of two texts add up. -/
theorem byteLength_append (cs ds : List Char) : byteLength (cs ++ ds) = byteLength cs + byteLength ds := by
  induction cs with
  | nil => simp [byteLength]
  | cons c cs ih => rw [List.cons_append, byteLength, byteLength, ih, Nat.add_assoc]

/-- Only the empty text has no bytes. -/
theorem byteLength_eq_zero_iff {cs : List Char} : byteLength cs = 0 ↔ cs = [] := by
  cases cs with
  | nil => simp [byteLength]
  | cons c cs =>
    have := c.utf8Size_pos
    simp only [byteLength, reduceCtorEq, iff_false]
    omega

/-- Every character has a byte at least. -/
theorem length_le_byteLength (cs : List Char) : cs.length ≤ byteLength cs := by
  induction cs with
  | nil => exact Nat.le_refl _
  | cons c cs ih =>
    have := c.utf8Size_pos
    rw [List.length_cons, byteLength]
    omega

/-- The rest of a text has no more bytes than the text. -/
theorem byteLength_le_of_suffix {cs text : List Char} (suffix : cs <:+ text) : byteLength cs ≤ byteLength text := by
  obtain ⟨front, rfl⟩ := suffix
  rw [byteLength_append]
  exact Nat.le_add_left _ _

/-- The size of a text is the number of bytes of its characters. -/
theorem utf8ByteSize_eq (s : String) : s.utf8ByteSize = byteLength s.toList := by
  have listed : ∀ cs : List Char, (String.ofList cs).utf8ByteSize = byteLength cs := by
    intro cs
    induction cs with
    | nil => rfl
    | cons c cs ih => rw [String.ofList_cons, String.utf8ByteSize_append, ih, String.utf8ByteSize_singleton, byteLength]
  rw [← listed, String.ofList_toList]

/-- The first bytes of characters are those of whole ones if they are as many as those have. -/
theorem splitBytes?_append (front back : List Char) :
    splitBytes? (front ++ back) (byteLength front) = some (front, back) := by
  induction front with
  | nil => cases back <;> rfl
  | cons c front ih =>
    obtain ⟨n, size⟩ := Nat.exists_eq_add_one.2 c.utf8Size_pos
    have total : byteLength (c :: front) = n + byteLength front + 1 := by
      rw [byteLength, size]
      omega
    have fits : c.utf8Size ≤ n + byteLength front + 1 := by omega
    have left : n + byteLength front + 1 - c.utf8Size = byteLength front := by omega
    rw [total, List.cons_append, splitBytes?, if_pos fits, left, ih]
    rfl

end Bytes

section Places

/-- Once blanks are skipped there are none left to skip. -/
theorem skipBlank_skipBlank (cs : List Char) : skipBlank (skipBlank cs) = skipBlank cs := by
  induction cs with
  | nil => rfl
  | cons c cs ih =>
    rw [skipBlank]
    split
    · exact ih
    · rename_i blank
      split
      · rfl
      · rename_i comment
        rw [skipBlank, if_neg blank, if_neg comment]

/-- A cursor in a text with some characters behind it, which has been between two characters only. -/
structure Cursor.Stands (text cs : List Char) (c : Cursor) : Prop where
  within : c.text = text
  split : ∃ front, text = front ++ cs ∧ c.position = byteLength front
  earlier : ∀ p ∈ c.earlier, OnBoundary text p

/-- A cursor with some characters behind it but for blanks before them. -/
def Cursor.Near (text cs : List Char) (c : Cursor) : Prop :=
  ∃ ds, skipBlank ds = skipBlank cs ∧ c.Stands text ds

variable {text cs ds : List Char} {c : Cursor}

/-- A cursor that stands in a place is near it. -/
theorem Cursor.Stands.near (stands : c.Stands text cs) : c.Near text cs :=
  ⟨cs, rfl, stands⟩

/-- Blanks do not matter to being near. -/
theorem Cursor.Near.congr (near : c.Near text cs) (same : skipBlank cs = skipBlank ds) : c.Near text ds := by
  obtain ⟨es, skipped, stands⟩ := near
  exact ⟨es, skipped.trans same, stands⟩

/-- What a cursor has in front of it is a rest of the text. -/
theorem Cursor.Stands.suffix (stands : c.Stands text cs) : cs <:+ text := by
  obtain ⟨front, split, -⟩ := stands.split
  exact ⟨front, split.symm⟩

/-- Its position is the number of the bytes behind it. -/
theorem Cursor.Stands.position_eq (stands : c.Stands text cs) :
    c.position = byteLength text - byteLength cs := by
  obtain ⟨front, rfl, position⟩ := stands.split
  rw [position, byteLength_append, Nat.add_sub_cancel]

/-- It stands on a boundary of characters. -/
theorem Cursor.Stands.onBoundary (stands : c.Stands text cs) : OnBoundary text c.position := by
  obtain ⟨front, split, position⟩ := stands.split
  exact ⟨front, cs, split, position⟩

/-- Some characters further on. -/
theorem Cursor.Stands.move {front : List Char} (stands : c.Stands text (front ++ cs)) :
    (Cursor.mk c.text (c.position + byteLength front) (c.position :: c.earlier)).Stands text cs := by
  obtain ⟨before, split, position⟩ := stands.split
  refine ⟨stands.within, ⟨before ++ front, by rw [split, List.append_assoc], ?_⟩,
    List.forall_mem_cons.2 ⟨stands.onBoundary, stands.earlier⟩⟩
  rw [position, byteLength_append]

/-- At another place of the text. -/
theorem Cursor.Stands.replace (stands : c.Stands text cs) (suffix : ds <:+ text) :
    (Cursor.mk c.text (byteLength text - byteLength ds) (c.position :: c.earlier)).Stands text ds := by
  obtain ⟨front, rfl⟩ := suffix
  refine ⟨stands.within, ⟨front, rfl, ?_⟩, List.forall_mem_cons.2 ⟨stands.onBoundary, stands.earlier⟩⟩
  rw [byteLength_append, Nat.add_sub_cancel]

end Places

namespace Walk

variable {α β : Type} {text cs : List Char}

/-- A second step is made after a first that succeeds, and else the failure remains. -/
theorem bind_apply (x : Walk α) (f : α → Walk β) (c : Cursor) :
    (x >>= f) c =
      match x c with
      | none => none
      | some (.ok a, next) => f a next
      | some (.error e, next) => some (.error e, next) := by
  change (x c).bind _ = _
  rcases x c with _ | ⟨_ | _, _⟩ <;> rfl

/-- How a walk ends that reads characters of a text with some outcome: with what was read and where the rest
begins, or else with the failure, which was found at a place of the text. -/
def Meets (text : List Char) (S : List Char → Cursor → Prop) (outcome : Except Failure (α × List Char))
    (result : Except ParseError α) (c : Cursor) : Prop :=
  match outcome with
  | .ok (a, rest) => result = .ok a ∧ S rest c
  | .error failure => result = .error (failure.toError text) ∧ failure.rest <:+ text ∧ ∃ cs, c.Stands text cs

/-- A walk from characters of a text has an answer, and it meets the outcome. -/
def Reads (text : List Char) (R : List Char → Cursor → Prop) (walk : Walk α) (S : List Char → Cursor → Prop)
    (cs : List Char) (outcome : Except Failure (α × List Char)) : Prop :=
  ∀ c, R cs c → ∃ result next, walk c = some (result, next) ∧ Meets text S outcome result next

section Rules

variable {R S T : List Char → Cursor → Prop} {rest : List Char} {a : α} {x : Walk α} {f : α → Walk β}

/-- A value that is there is read from no characters. -/
theorem Reads.pure (a : α) : Reads text R (pure a : Walk α) R cs (.ok (a, cs)) :=
  fun c h => ⟨.ok a, c, rfl, rfl, h⟩

/-- Two steps read what their outcomes are, one after the other. -/
theorem Reads.bind {outcome : Except Failure (α × List Char)}
    {g : α × List Char → Except Failure (β × List Char)} (first : Reads text R x S cs outcome)
    (next : ∀ a rest, outcome = .ok (a, rest) → Reads text S (f a) T rest (g (a, rest))) :
    Reads text R (x >>= f) T cs (outcome.bind g) := by
  intro c h
  obtain ⟨result, c', run, meets⟩ := first c h
  rw [bind_apply, run]
  rcases outcome with failure | ⟨a, rest⟩
  · obtain ⟨rfl, found⟩ := meets
    exact ⟨_, c', rfl, rfl, found⟩
  · obtain ⟨rfl, h'⟩ := meets
    exact next a rest rfl c' h'

/-- A step that does not fail. -/
theorem Reads.step {outcome : Except Failure (β × List Char)} (first : Reads text R x S cs (.ok (a, rest)))
    (next : Reads text S (f a) T rest outcome) : Reads text R (x >>= f) T cs outcome :=
  first.bind (g := fun _ => outcome) fun _ _ same => by
    cases same
    exact next

/-- A step that fails. -/
theorem Reads.fails {failure : Failure} (first : Reads text R x S cs (.error failure)) :
    Reads text R (x >>= f) T cs (.error failure) :=
  first.bind (g := fun _ => .error failure) nofun

/-- A step with its value changed reads its outcome with the value changed. -/
theorem Reads.map {outcome : Except Failure (α × List Char)} (h : α → β) (first : Reads text R x S cs outcome) :
    Reads text R (x >>= fun a => Pure.pure (h a)) S cs (outcome.map fun (a, rest) => (h a, rest)) := by
  have mapped : (outcome.map fun (a, rest) => (h a, rest)) = outcome.bind fun (a, rest) => .ok (h a, rest) := by
    cases outcome <;> rfl
  rw [mapped]
  exact first.bind fun a rest _ => .pure (h a)

/-- A step may be asked for more places and say less of those that it comes to. -/
theorem Reads.mono {R' S' : List Char → Cursor → Prop} {outcome : Except Failure (α × List Char)}
    (before : ∀ c, R' cs c → R cs c) (after : ∀ rest c, S rest c → S' rest c)
    (reads : Reads text R x S cs outcome) : Reads text R' x S' cs outcome := by
  intro c h
  obtain ⟨result, c', run, meets⟩ := reads c (before c h)
  refine ⟨result, c', run, ?_⟩
  rcases outcome with failure | ⟨a, rest⟩
  · exact meets
  · exact ⟨meets.1, after rest c' meets.2⟩

/-- A step that ends in a place ends near it. -/
theorem Reads.of_stands {outcome : Except Failure (α × List Char)}
    (reads : Reads text R x (Cursor.Stands text) cs outcome) : Reads text R x (Cursor.Near text) cs outcome :=
  reads.mono (fun _ h => h) fun _ _ h => h.near

/-- A step that may begin near a place may begin in it. -/
theorem Reads.from_stands {outcome : Except Failure (α × List Char)}
    (reads : Reads text (Cursor.Near text) x S cs outcome) : Reads text (Cursor.Stands text) x S cs outcome :=
  reads.mono (fun _ h => h.near) fun _ _ h => h

/-- Where a cursor stands is a part of the text. -/
theorem Reads.of_suffix {outcome : Except Failure (α × List Char)}
    (reads : cs <:+ text → Reads text (Cursor.Stands text) x S cs outcome) :
    Reads text (Cursor.Stands text) x S cs outcome :=
  fun c h => reads h.suffix c h

end Rules

section Steps

/-- A walk from a place between characters to another. -/
abbrev Scans (text : List Char) (walk : Walk α) (cs : List Char) (outcome : Except Failure (α × List Char)) :
    Prop :=
  Reads text (Cursor.Stands text) walk (Cursor.Stands text) cs outcome

/-- The characters that are left are those in front. -/
theorem scans_remaining (text cs : List Char) : Scans text remaining cs (.ok (cs, cs)) := by
  intro c stands
  refine ⟨.ok cs, c, ?_, rfl, stands⟩
  obtain ⟨front, split, position⟩ := stands.split
  rw [remaining, dropBytes, stands.within, position, split, splitBytes?_append]
  rfl

/-- As many bytes are dropped as a text has, if it stands in front. -/
theorem scans_dropBytes (text cs front back : List Char) :
    Scans text (dropBytes (byteLength front) (front ++ back)) cs (.ok (back, cs)) := by
  intro c stands
  refine ⟨.ok back, c, ?_, rfl, stands⟩
  rw [dropBytes, splitBytes?_append]
  rfl

/-- The position is the number of the bytes behind. -/
theorem scans_position (text cs : List Char) :
    Scans text position cs (.ok (byteLength text - byteLength cs, cs)) :=
  fun c stands => ⟨_, c, by rw [position, stands.position_eq], rfl, stands⟩

/-- The bytes are those of the text. -/
theorem scans_bytes (text cs : List Char) : Scans text bytes cs (.ok (byteLength text, cs)) :=
  fun c stands => ⟨_, c, by rw [bytes, stands.within], rfl, stands⟩

/-- Back to a place in the text. -/
theorem scans_moveTo {ds : List Char} (suffix : ds <:+ text) :
    Scans text (moveTo (byteLength text - byteLength ds)) cs (.ok ((), ds)) :=
  fun _ stands => ⟨.ok (), _, rfl, rfl, stands.replace suffix⟩

/-- At the end nothing is left. -/
theorem scans_moveToEnd (text cs : List Char) : Scans text moveToEnd cs (.ok ((), [])) :=
  have atEnd : [] <:+ text := List.nil_suffix
  (scans_bytes text cs).step (scans_moveTo atEnd)

/-- A move by the bytes of a text passes the text. -/
theorem scans_moveBy (text front rest : List Char) :
    Scans text (moveBy (byteLength front)) (front ++ rest) (.ok ((), rest)) := by
  intro c stands
  refine ⟨.ok (), ⟨c.text, c.position + byteLength front, c.position :: c.earlier⟩, ?_, rfl, stands.move⟩
  rw [moveBy, bind_apply]
  rfl

/-- A failure at a rest of the text is reported there. -/
theorem scans_failAt {ds : List Char} (suffix : ds <:+ text) (fault : SyntaxFault) :
    Scans text (failAt fault (byteLength text - byteLength ds) : Walk α) cs (.error ⟨fault, ds⟩) :=
  fun c stands => ⟨_, c, rfl, rfl, suffix, cs, stands⟩

/-- Any other failure is reported where the cursor stands. -/
theorem scans_fail (text cs : List Char) (fault : SyntaxFault) :
    Scans text (fail fault : Walk α) cs (.error ⟨fault, cs⟩) :=
  .of_suffix fun suffix => (scans_position text cs).step (scans_failAt suffix fault)

/-- A character is shown without moving. -/
theorem scans_peek (text cs : List Char) : Scans text peek cs (.ok (cs.head?, cs)) :=
  (scans_remaining text cs).step (.pure _)

/-- At the end there is nothing to pass. -/
theorem scans_advance_nil (text : List Char) : Scans text advance [] (.ok (none, [])) :=
  (scans_peek text []).step (.pure _)

/-- Elsewhere one character is passed. -/
theorem scans_advance_cons (text : List Char) (c : Char) (cs : List Char) :
    Scans text advance (c :: cs) (.ok (some c, cs)) := by
  have size : c.utf8Size = byteLength [c] := rfl
  refine (scans_peek text (c :: cs)).step ?_
  simp only [List.head?_cons, size]
  exact (scans_moveBy text [c] cs).step (.pure _)

end Steps

section Loops

/-- There are more rounds than characters left. -/
theorem scans_rounds (text cs : List Char) : Scans text rounds cs (.ok (cs.length + 1, cs)) :=
  (scans_remaining text cs).step (.pure _)

/-- A loop has the outcome that each round has if the next one has it wherever fewer characters are left. -/
theorem scans_loop {ι : Type} {round : (ι → Walk α) → ι → Walk α}
    (outcome : ι → List Char → Except Failure (α × List Char))
    (step : ∀ again cs, (∀ i ds, ds.length < cs.length → Scans text (again i) ds (outcome i ds)) →
      ∀ i, Scans text (round again i) cs (outcome i cs))
    (i : ι) (cs : List Char) : Scans text (loop round i) cs (outcome i cs) := by
  have repeated : ∀ n i cs, cs.length < n → Scans text (repeatFor round n i) cs (outcome i cs) := by
    intro n
    induction n with
    | zero => exact fun _ _ h => absurd h (Nat.not_lt_zero _)
    | succ n ih =>
      intro i cs within
      exact step (repeatFor round n) cs (fun i ds shorter => ih i ds (by omega)) i
  exact (scans_rounds text cs).step (repeated _ i cs (Nat.lt_succ_self _))

end Loops

section Blanks

/-- A walk from a place between characters over blanks to the first that is none. -/
theorem scans_skip (text cs : List Char) : Scans text skip cs (.ok ((), skipBlank cs)) := by
  refine scans_loop (fun _ cs => .ok ((), skipBlank cs)) (fun again cs shorter _ => ?_) () cs
  refine (scans_peek text cs).step ?_
  cases cs with
  | nil => exact .pure ()
  | cons c cs =>
    rw [skipBlank]
    dsimp only [List.head?_cons]
    split
    · exact (scans_advance_cons text c cs).step (shorter () cs (Nat.lt_succ_self _))
    · split
      · exact (scans_moveToEnd text (c :: cs)).step (shorter () [] (Nat.succ_pos _))
      · exact .pure ()

/-- Blanks that have been skipped make no difference. -/
theorem reads_skip (text cs : List Char) :
    Reads text (Cursor.Near text) skip (Cursor.Stands text) cs (.ok ((), skipBlank cs)) := by
  rintro c ⟨ds, same, stands⟩
  rw [← same]
  exact scans_skip text ds c stands

/-- A walk that first goes over blanks. -/
theorem Reads.behind_skip {walk : Unit → Walk α} {S : List Char → Cursor → Prop}
    {outcome : Except Failure (α × List Char)}
    (next : Reads text (Cursor.Stands text) (walk ()) S (skipBlank cs) outcome) :
    Reads text (Cursor.Near text) (skip >>= walk) S cs outcome :=
  (reads_skip text cs).step next

/-- Where blanks have been skipped nothing has been read yet. -/
theorem Reads.unread {x : Walk α} {a : α} {ds : List Char} (front : skipBlank cs = ds)
    (reads : Scans text x ds (.ok (a, ds))) :
    Reads text (Cursor.Stands text) x (Cursor.Near text) ds (.ok (a, cs)) := by
  intro c stands
  obtain ⟨result, c', run, rfl, stands'⟩ := reads c stands
  exact ⟨_, c', run, rfl, stands'.near.congr (front ▸ skipBlank_skipBlank cs)⟩

/-- A walk that begins with blanks begins as well where they have been skipped. -/
theorem Reads.at_front {x : Walk α} {S : List Char → Cursor → Prop} {outcome : Except Failure (α × List Char)}
    (reads : Reads text (Cursor.Near text) x S cs outcome) :
    Reads text (Cursor.Stands text) x S (skipBlank cs) outcome :=
  fun c stands => reads c (stands.near.congr (skipBlank_skipBlank cs))

end Blanks

section Tokens

/-- A text stands in front if and only if there is a rest behind it. -/
theorem isPrefixOf_iff_afterText? {ts cs : List Char} :
    ts.isPrefixOf cs = (afterText? ts cs).isSome := by
  induction ts generalizing cs with
  | nil => simp [afterText?]
  | cons t ts ih =>
    cases cs with
    | nil => rfl
    | cons c cs =>
      rw [List.isPrefixOf, afterText?, ih]
      by_cases same : t = c
      · simp [same]
      · simp [same]

/-- A walk tells whether something comes next, and goes over it if it does. -/
structure Tests (text : List Char) (walk : Walk Bool) (cs : List Char) (rest? : Option (List Char)) : Prop where
  found : ∀ {rest}, rest? = some rest →
    Reads text (Cursor.Near text) walk (Cursor.Stands text) cs (.ok (true, rest))
  absent : rest? = none → Reads text (Cursor.Near text) walk (Cursor.Near text) cs (.ok (false, cs))

/-- A walk tells which of several things comes next, and goes over it. -/
structure Chooses (text : List Char) (walk : Walk (Option α)) (cs : List Char)
    (choice : Option (α × List Char)) : Prop where
  found : ∀ {a rest}, choice = some (a, rest) →
    Reads text (Cursor.Near text) walk (Cursor.Stands text) cs (.ok (some a, rest))
  absent : choice = none → Reads text (Cursor.Near text) walk (Cursor.Near text) cs (.ok (none, cs))

/-- A symbol is passed if and only if the parser finds it. -/
theorem tests_passSymbol (text cs : List Char) (symbol : String) :
    Tests text (passSymbol symbol) cs (symbol? symbol cs) := by
  have prefixed := @isPrefixOf_iff_afterText? symbol.toList (skipBlank cs)
  constructor
  · intro rest found
    refine .behind_skip ((scans_remaining text _).step ?_)
    rw [symbol?] at found
    rw [prefixed, found, eq_append_of_afterText? found]
    exact (scans_moveBy text _ rest).step (.pure true)
  · intro absent
    refine .behind_skip ((scans_remaining text _).step ?_)
    rw [symbol?] at absent
    rw [prefixed, absent]
    exact .unread rfl (.pure false)

/-- The first of some symbols is passed as the parser finds it. -/
theorem chooses_passFirst (text cs : List Char) (table : List (String × α)) :
    Chooses text (passFirst table) cs (firstSymbol? table cs) := by
  induction table with
  | nil =>
    refine ⟨fun found => ?_, fun _ => .pure none⟩
    cases found
  | cons entry table ih =>
    have symbol := tests_passSymbol text cs entry.1
    rw [firstSymbol?, List.findSome?_cons]
    cases next : symbol? entry.1 cs with
    | none => exact ⟨fun found => (symbol.absent next).step (ih.found found),
        fun absent => (symbol.absent next).step (ih.absent absent)⟩
    | some rest =>
      refine ⟨fun found => ?_, fun absent => ?_⟩
      · cases found
        exact (symbol.found next).step (.pure _)
      · cases absent

/-- A keyword is looked for without moving. -/
theorem scans_peekKeyword (text cs : List Char) (word : String) (skipped : skipBlank cs = cs) :
    Scans text (peekKeyword word) cs (.ok ((keyword? word cs).isSome, cs)) := by
  refine (scans_remaining text cs).step ?_
  rw [isPrefixOf_iff_afterText?, keyword?, symbol?, skipped]
  cases found : afterText? word.toList cs with
  | none => exact .pure false
  | some rest =>
    have split := eq_append_of_afterText? found
    have behind := scans_dropBytes text cs word.toList rest
    rw [← split] at behind
    refine behind.step ?_
    cases rest with
    | nil => exact .pure true
    | cons c rest =>
      simp only [List.head?_cons, Option.any_some]
      cases isWordChar c with
      | false => exact .pure true
      | true => exact .pure false

/-- A keyword is passed if and only if the parser finds it. -/
theorem tests_passKeyword (text cs : List Char) (word : String) :
    Tests text (passKeyword word) cs (keyword? word cs) := by
  have peeked := scans_peekKeyword text (skipBlank cs) word (skipBlank_skipBlank cs)
  rw [keyword?_congr (skipBlank_skipBlank cs)] at peeked
  constructor
  · intro rest found
    rw [found] at peeked
    refine .behind_skip (peeked.step ?_)
    rw [skipBlank_of_symbol? (symbol?_of_keyword? found)]
    exact (scans_moveBy text _ rest).step (.pure true)
  · intro absent
    rw [absent] at peeked
    exact .behind_skip (peeked.step (.unread rfl (.pure false)))

/-- What a keyword stands for is chosen if the keyword is passed. -/
theorem chooses_passKeyword (text cs : List Char) (word : String) (a : α) :
    Chooses text (passKeyword word >>= fun found => if found then pure (some a) else pure none) cs
      ((keyword? word cs).map fun rest => (a, rest)) := by
  have keyword := tests_passKeyword text cs word
  constructor
  · intro a' rest choice
    obtain ⟨_, found, same⟩ := Option.map_eq_some_iff.1 choice
    cases same
    exact (keyword.found found).step (.pure _)
  · intro absent
    exact (keyword.absent (Option.map_eq_none_iff.1 absent)).step (.pure none)

/-- An operator of a chain is passed as the parser finds it. -/
theorem chooses_passChainOp (text cs : List Char) (c : Chain) :
    Chooses text (passChainOp c) cs (chainOp? c cs) := by
  cases c with
  | disjunction => exact chooses_passKeyword text cs "or" _
  | conjunction => exact chooses_passKeyword text cs "and" _
  | sum => exact chooses_passFirst text cs sumSymbols
  | product =>
    have prefixed := @isPrefixOf_iff_afterText? "**".toList (skipBlank cs)
    have first := chooses_passFirst text cs productSymbols
    rw [chainOp?, symbol?, ← prefixed]
    constructor
    · intro op rest found
      refine .behind_skip ((scans_remaining text _).step ?_)
      split at found
      · contradiction
      · rename_i single
        rw [if_neg single]
        exact (first.found found).at_front
    · intro absent
      refine .behind_skip ((scans_remaining text _).step ?_)
      split at absent
      · rename_i double
        rw [if_pos double]
        exact .unread rfl (.pure none)
      · rename_i single
        rw [if_neg single]
        exact (first.absent absent).at_front

/-- The rest behind a character that comes next. -/
def nextChar? (wanted : Char) (cs : List Char) : Option (List Char) :=
  match skipBlank cs with
  | [] => none
  | c :: rest => if c = wanted then some rest else none

/-- A character is next if it stands in front, once blanks are skipped. -/
theorem nextChar?_eq_some {wanted : Char} {cs rest : List Char} :
    nextChar? wanted cs = some rest ↔ skipBlank cs = wanted :: rest := by
  rw [nextChar?]
  cases skipBlank cs <;> simp

/-- It is not next if another one does or none. -/
theorem nextChar?_eq_none {wanted : Char} {cs : List Char} :
    nextChar? wanted cs = none ↔ ∀ rest, skipBlank cs ≠ wanted :: rest := by
  rw [Option.eq_none_iff_forall_ne_some]
  simp only [ne_eq, nextChar?_eq_some]

/-- A character is passed if and only if it is next. -/
theorem tests_passChar (text cs : List Char) (wanted : Char) :
    Tests text (passChar wanted) cs (nextChar? wanted cs) := by
  constructor
  · intro rest found
    rw [nextChar?_eq_some] at found
    refine .behind_skip ((scans_peek text _).step ?_)
    rw [found, List.head?_cons, if_pos rfl]
    exact (scans_advance_cons text wanted rest).step (.pure true)
  · intro absent
    rw [nextChar?_eq_none] at absent
    refine .behind_skip ((scans_peek text _).step ?_)
    have other : (skipBlank cs).head? ≠ some wanted := by
      intro same
      obtain ⟨rest, front⟩ := List.head?_eq_some_iff.1 same
      exact absent rest front
    rw [if_neg other]
    exact .unread rfl (.pure false)

/-- A character that is expected is passed, or its absence is the failure. -/
theorem reads_expectChar (text cs : List Char) (wanted : Char) :
    Reads text (Cursor.Near text) (expectChar wanted) (Cursor.Stands text) cs (attemptClose wanted cs) := by
  refine .behind_skip ((scans_peek text _).step ?_)
  rw [attemptClose]
  cases skipBlank cs with
  | nil => exact scans_fail text [] _
  | cons c rest =>
    dsimp only [List.head?_cons]
    split
    · exact (scans_advance_cons text c rest).step (.pure ())
    · exact scans_fail text (c :: rest) _

end Tokens

end Walk

end Backtest.Language
