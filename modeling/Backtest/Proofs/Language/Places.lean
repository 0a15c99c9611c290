import Backtest.Proofs.Language.Walks

/-!
# Places

Where a cursor has read something it may stand before the blanks that follow or behind them, and nowhere else. So
a test for something that does not come next moves it over blanks at most, and what is read behind it puts it
further on.
-/

namespace Backtest.Language

open Backtest.Text

variable {α : Type} {text cs ds rest : List Char} {c : Cursor}

/-- Some characters, or those behind the blanks at their front. -/
def IsPlace (cs ds : List Char) : Prop :=
  ds = cs ∨ ds = skipBlank cs

/-- Places of the same characters differ by blanks only. -/
theorem IsPlace.skipBlank_eq (place : IsPlace cs ds) : skipBlank ds = skipBlank cs := by
  rcases place with rfl | rfl
  · rfl
  · exact skipBlank_skipBlank cs

/-- No place has more characters than there are. -/
theorem IsPlace.length_le (place : IsPlace cs ds) : ds.length ≤ cs.length := by
  rcases place with rfl | rfl
  · exact Nat.le_refl _
  · exact skipBlank_length_le cs

/-- A cursor with some characters behind it, before the blanks at their front or behind them. -/
def Cursor.Reaches (text cs : List Char) (c : Cursor) : Prop :=
  ∃ ds, IsPlace cs ds ∧ c.Stands text ds

/-- A cursor that stands in a place has reached it. -/
theorem Cursor.Stands.reaches (stands : c.Stands text cs) : c.Reaches text cs :=
  ⟨cs, .inl rfl, stands⟩

/-- A cursor behind the blanks has reached the place. -/
theorem Cursor.Stands.reaches_of_skipBlank (stands : c.Stands text (skipBlank cs)) : c.Reaches text cs :=
  ⟨skipBlank cs, .inr rfl, stands⟩

/-- A cursor that has reached a place is near it. -/
theorem Cursor.Reaches.near (reaches : c.Reaches text cs) : c.Near text cs := by
  obtain ⟨ds, place, stands⟩ := reaches
  exact ⟨ds, place.skipBlank_eq, stands⟩

/-- Of two parts at the end of a text the shorter one begins later. -/
theorem byteLength_lt_of_suffix (first : cs <:+ text) (second : ds <:+ text) (shorter : ds.length < cs.length) :
    byteLength ds < byteLength cs := by
  obtain ⟨front, rfl⟩ := List.suffix_of_suffix_length_le second first (Nat.le_of_lt shorter)
  have nonempty : front ≠ [] := by
    rintro rfl
    exact Nat.lt_irrefl _ shorter
  have := mt byteLength_eq_zero_iff.1 nonempty
  rw [byteLength_append]
  omega

/-- A cursor with fewer characters behind it than a part at the end of the text has is behind its begin. -/
theorem Cursor.Reaches.lt_position (reaches : c.Reaches text rest) (suffix : cs <:+ text)
    (shorter : rest.length < cs.length) : byteLength text - byteLength cs < c.position := by
  obtain ⟨ds, place, stands⟩ := reaches
  have less := byteLength_lt_of_suffix suffix stands.suffix (Nat.lt_of_le_of_lt place.length_le shorter)
  have within := byteLength_le_of_suffix suffix
  rw [stands.position_eq]
  omega

namespace Walk

/-! ### What is not there -/

/-- What can be read near a place can be read where it is reached. -/
theorem Reads.from_reaches {x : Walk α} {S : List Char → Cursor → Prop}
    {outcome : Except Failure (α × List Char)} (reads : Reads text (Cursor.Near text) x S cs outcome) :
    Reads text (Cursor.Reaches text) x S cs outcome :=
  reads.mono (fun _ h => h.near) fun _ _ h => h

/-- What can be read where a place is reached can be read in any place of the same characters. -/
theorem Reads.at_place {x : Walk α} {S : List Char → Cursor → Prop} {outcome : Except Failure (α × List Char)}
    (reads : Reads text (Cursor.Reaches text) x S cs outcome) (place : IsPlace cs ds) :
    Reads text (Cursor.Stands text) x S ds outcome :=
  fun c stands => reads c ⟨ds, place, stands⟩

/-- Where blanks have been skipped nothing has been read yet. -/
theorem Reads.skipped {x : Walk α} {a : α} (reads : Scans text x (skipBlank cs) (.ok (a, skipBlank cs))) :
    Reads text (Cursor.Stands text) x (Cursor.Reaches text) (skipBlank cs) (.ok (a, cs)) := by
  intro c stands
  obtain ⟨result, c', run, rfl, stands'⟩ := reads c stands
  exact ⟨_, c', run, rfl, stands'.reaches_of_skipBlank⟩

/-- A symbol that is not there is not passed. -/
theorem passSymbol_absent {symbol : String} (absent : symbol? symbol cs = none) :
    Reads text (Cursor.Near text) (passSymbol symbol) (Cursor.Reaches text) cs (.ok (false, cs)) := by
  have prefixed := @isPrefixOf_iff_afterText? symbol.toList (skipBlank cs)
  refine .behind_skip ((scans_remaining text _).step ?_)
  rw [symbol?] at absent
  rw [prefixed, absent]
  exact .skipped (.pure false)

/-- A keyword that is not there is not passed. -/
theorem passKeyword_absent {word : String} (absent : keyword? word cs = none) :
    Reads text (Cursor.Near text) (passKeyword word) (Cursor.Reaches text) cs (.ok (false, cs)) := by
  have peeked := scans_peekKeyword text (skipBlank cs) word (skipBlank_skipBlank cs)
  rw [keyword?_congr (skipBlank_skipBlank cs), absent] at peeked
  exact .behind_skip (peeked.step (.skipped (.pure false)))

/-- A character that is not there is not passed. -/
theorem passChar_absent {wanted : Char} (absent : nextChar? wanted cs = none) :
    Reads text (Cursor.Near text) (passChar wanted) (Cursor.Reaches text) cs (.ok (false, cs)) := by
  refine .behind_skip ((scans_peek text _).step ?_)
  have other : (skipBlank cs).head? ≠ some wanted := by
    intro same
    obtain ⟨rest, front⟩ := List.head?_eq_some_iff.1 same
    exact nextChar?_eq_none.1 absent rest front
  rw [if_neg other]
  exact .skipped (.pure false)

/-- Of symbols that are not there none is passed. -/
theorem passFirst_absent {table : List (String × α)} (absent : firstSymbol? table cs = none) :
    Reads text (Cursor.Reaches text) (passFirst table) (Cursor.Reaches text) cs (.ok (none, cs)) := by
  induction table with
  | nil => exact .pure none
  | cons entry table ih =>
    rw [firstSymbol?, List.findSome?_cons] at absent
    cases next : symbol? entry.1 cs with
    | some rest =>
      rw [next] at absent
      contradiction
    | none =>
      rw [next] at absent
      exact (passSymbol_absent next).from_reaches.step (ih absent)

/-- An operator of a chain that is not there is not passed. -/
theorem passChainOp_absent {c : Chain} (absent : chainOp? c cs = none) :
    Reads text (Cursor.Reaches text) (passChainOp c) (Cursor.Reaches text) cs (.ok (none, cs)) := by
  cases c with
  | disjunction => exact (passKeyword_absent (Option.map_eq_none_iff.1 absent)).from_reaches.step (.pure none)
  | conjunction => exact (passKeyword_absent (Option.map_eq_none_iff.1 absent)).from_reaches.step (.pure none)
  | sum => exact passFirst_absent absent
  | product =>
    have prefixed := @isPrefixOf_iff_afterText? "**".toList (skipBlank cs)
    rw [chainOp?, symbol?, ← prefixed] at absent
    refine .from_reaches (.behind_skip ((scans_remaining text _).step ?_))
    split at absent
    · rename_i double
      rw [if_pos double]
      exact .skipped (.pure none)
    · rename_i single
      rw [if_neg single]
      exact (passFirst_absent absent).at_place (.inr rfl)

end Walk

/-- Operators are found alike where only the blanks in front differ. -/
theorem chainOp?_congr (h : skipBlank cs = skipBlank ds) (c : Chain) : chainOp? c cs = chainOp? c ds := by
  cases c <;> simp only [chainOp?, firstSymbol?, keyword?_congr h, symbol?_congr h]

/-- Items are read from the first character that is no blank. -/
theorem attemptItems_congr (h : skipBlank cs = skipBlank ds) (close : Char) :
    attemptItems close cs = attemptItems close ds := by
  cases closed : Walk.nextChar? close cs with
  | some tail =>
    have front := Walk.nextChar?_eq_some.1 closed
    rw [attemptItems_of_close front, attemptItems_of_close (h ▸ front)]
  | none =>
    have other := Walk.nextChar?_eq_none.1 closed
    rw [attemptItems_of_item other, attemptItems_of_item (h ▸ other), attempt_congr .loosest h]

/-- What is left behind items is shorter. -/
theorem length_of_attemptItems {close : Char} {es : List Expr} (h : attemptItems close cs = .ok (es, rest)) :
    rest.length < cs.length :=
  of_plain_eq_ok h

end Backtest.Language
