/-!
# Pieces of a text

A text cut at every occurrence of a character, into one piece more than there are occurrences.
-/

namespace Backtest.Text

/-- The pieces of a text between the occurrences of a character. -/
def pieces (mark : Char) : List Char → List (List Char)
  | [] => [[]]
  | c :: cs =>
    if c = mark then [] :: pieces mark cs
    else
      match pieces mark cs with
      | piece :: rest => (c :: piece) :: rest
      | [] => [[c]]

/-- Every text has a piece, if only the empty one. -/
theorem pieces_ne_nil (mark : Char) (cs : List Char) : pieces mark cs ≠ [] := by
  cases cs with
  | nil => simp [pieces]
  | cons c cs =>
    rw [pieces]
    split
    · simp
    · split <;> simp

/-- Of two texts with the character between them the pieces are those of the one and those of the other. -/
theorem pieces_append (mark : Char) (cs ds : List Char) :
    pieces mark (cs ++ mark :: ds) = pieces mark cs ++ pieces mark ds := by
  induction cs with
  | nil => simp [pieces]
  | cons c cs ih =>
    rw [List.cons_append, pieces, pieces]
    split
    · rw [ih, List.cons_append]
    · rw [ih]
      cases hp : pieces mark cs with
      | nil => exact absurd hp (pieces_ne_nil mark cs)
      | cons piece rest => rfl

/-- A text without the character is its only piece. -/
theorem pieces_of_not_mem {mark : Char} {cs : List Char} (absent : mark ∉ cs) : pieces mark cs = [cs] := by
  induction cs with
  | nil => rfl
  | cons c cs ih =>
    rw [List.mem_cons, not_or] at absent
    obtain ⟨other, rest⟩ := absent
    rw [pieces, if_neg (Ne.symm other), ih rest]

/-- There is one piece more than there are occurrences of the character. -/
theorem length_pieces (mark : Char) (cs : List Char) :
    (pieces mark cs).length = cs.count mark + 1 := by
  induction cs with
  | nil => rfl
  | cons c cs ih =>
    rw [pieces]
    split
    · rename_i h
      rw [List.length_cons, ih, h, List.count_cons_self]
    · rename_i h
      rw [List.count_cons_of_ne h]
      cases hp : pieces mark cs with
      | nil => exact absurd hp (pieces_ne_nil mark cs)
      | cons piece rest => rw [← ih, hp, List.length_cons, List.length_cons]

end Backtest.Text
