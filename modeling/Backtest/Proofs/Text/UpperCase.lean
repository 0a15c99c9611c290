import Backtest.Text.Casing
import Mathlib

/-!
# Upper case

No text in upper case has a small letter of ASCII: the tables of the other characters lead away from those
letters. For a text in upper case, to be the same as another one in either case of the ASCII letters is
therefore to be that one with its ASCII letters capitalised.
-/

namespace Backtest.Text

/-- Where the runs lead there is no small letter of ASCII. -/
theorem upperRuns_beyond : ∀ run ∈ upperRuns,
    (122 : Int) < run.first + run.shift ∨ run.last + run.shift < 97 := by
  decide +kernel

/-- Characters that become several in upper case become none in lower case. -/
theorem upperExpansions_not_lower : ∀ e ∈ upperExpansions, ∀ code ∈ e.2, (Char.ofNat code).isLower = false := by
  decide +kernel

/-- The codes of the lower case letters. -/
theorem isLower_iff {c : Char} : c.isLower = true ↔ 97 ≤ c.toNat ∧ c.toNat ≤ 122 := by
  rw [Char.isLower, Bool.and_eq_true, decide_eq_true_eq, decide_eq_true_eq]
  rfl

/-- Codes beyond these are of no lower case letter. -/
theorem isLower_ofNat {n : Nat} (beyond : n < 97 ∨ 122 < n) : (Char.ofNat n).isLower = false := by
  rw [← Bool.not_eq_true, isLower_iff, Char.toNat_ofNat]
  split <;> omega

/-- The upper case of a character is no lower case letter. -/
theorem image?_not_lower {run : CaseRun} (listed : run ∈ upperRuns) {n : Nat} {d : Char}
    (image : run.image? n = some d) : d.isLower = false := by
  have beyond := upperRuns_beyond run listed
  unfold CaseRun.image? at image
  split at image
  · rename_i within
    cases image
    exact isLower_ofNat (by omega)
  · cases image

/-- No character has a small letter of ASCII in its upper case. -/
theorem upperChar_not_lower {c d : Char} (here : d ∈ upperChar c) : d.isLower = false := by
  unfold upperChar at here
  split at here
  · rw [List.mem_singleton.1 here, Char.isLower_toUpper_eq_false]
  rename_i beyond
  unfold mapCase at here
  split at here
  · rename_i e codes expansion
    obtain ⟨code, listed, rfl⟩ := List.mem_map.1 here
    exact upperExpansions_not_lower _ (List.mem_of_find?_eq_some expansion) code listed
  split at here
  · rename_i image found
    obtain ⟨run, listed, found⟩ := List.exists_of_findSome?_eq_some found
    rw [List.mem_singleton.1 here]
    exact image?_not_lower listed found
  · rw [List.mem_singleton.1 here, ← Bool.not_eq_true, isLower_iff]
    simp only [isAscii, decide_eq_true_eq] at beyond
    omega

/-- A text in upper case has no lower case letter. -/
theorem toUpper_not_lower (s : String) : ∀ d ∈ (toUpper s).toList, d.isLower = false := by
  intro d here
  rw [toUpper, String.toList_ofList] at here
  obtain ⟨c, -, here⟩ := List.mem_flatMap.1 here
  exact upperChar_not_lower here

/-- A character that is no small letter is another one in either case if it is that one's capital. -/
theorem toLower_eq_iff {c d : Char} (large : d.isLower = false) : d.toLower = c.toLower ↔ d = c.toUpper := by
  constructor
  · intro same
    calc d = d.toUpper := (Char.toUpper_eq_of_not_isLower (by simp [large])).symm
      _ = d.toLower.toUpper := (Char.toUpper_toLower_eq_toUpper d).symm
      _ = c.toUpper := by rw [same, Char.toUpper_toLower_eq_toUpper]
  · rintro rfl
    rw [Char.toLower_toUpper_eq_toLower]

/-- Characters none of which is a small letter are others in either case if they are the capitals of those. -/
theorem map_toLower_eq_iff {ds cs : List Char} (large : ∀ d ∈ ds, d.isLower = false) :
    ds.map Char.toLower = cs.map Char.toLower ↔ ds = cs.map Char.toUpper := by
  induction ds generalizing cs with
  | nil => cases cs <;> simp
  | cons d ds ih =>
    cases cs with
    | nil => simp
    | cons c cs =>
      obtain ⟨first, rest⟩ := List.forall_mem_cons.1 large
      simp only [List.map_cons, List.cons.injEq, toLower_eq_iff first, ih rest]

end Backtest.Text
