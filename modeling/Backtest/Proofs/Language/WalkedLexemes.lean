import Backtest.Proofs.Language.Walks

/-!
# Walks over lexemes

Words, numbers and quoted texts, read by position: what a cursor goes over is what is read off the front of
the characters behind it.
-/

namespace Backtest.Language

open Backtest.Text

namespace Walk

variable {text cs : List Char}

section Words

/-- What comes of a word that may come next. -/
def identified (cs : List Char) : Except Failure (Option String × List Char) :=
  match skipBlank cs with
  | [] => .ok (none, [])
  | c :: tail =>
    if isWordStart c then .ok (some (String.ofList (spanWord (c :: tail)).1), (spanWord (c :: tail)).2)
    else .ok (none, c :: tail)

/-- An identifier is read where the parser finds it. -/
theorem reads_identifier (text cs : List Char) :
    Reads text (Cursor.Near text) identifier (Cursor.Stands text) cs (identified cs) := by
  refine .behind_skip ((scans_peek text _).step ?_)
  rw [identified]
  cases skipBlank cs with
  | nil => exact .pure none
  | cons c tail =>
    dsimp only [List.head?_cons]
    split
    · refine (scans_remaining text _).step ?_
      have whole : (spanWord (c :: tail)).1 ++ (spanWord (c :: tail)).2 = c :: tail :=
        List.takeWhile_append_dropWhile
      have move := scans_moveBy text (spanWord (c :: tail)).1 (spanWord (c :: tail)).2
      rw [whole] at move
      exact move.step (.pure _)
    · exact .pure none

/-- A word is shown without moving. -/
theorem scans_peekWord (text cs : List Char) : Scans text peekWord cs (.ok (shownWord? cs, cs)) :=
  (scans_remaining text cs).step (.pure _)

end Words

section Numbers

/-- What is scanned of a number is what stands before the rest, its separators left out. -/
theorem exists_front_scanNumber (hasPoint hasDigit : Bool) (cs : List Char) :
    ∃ front, cs = front ++ (scanNumber hasPoint hasDigit cs).rest ∧
      (scanNumber hasPoint hasDigit cs).kept = front.filter (· != '_') := by
  induction cs generalizing hasPoint hasDigit with
  | nil => exact ⟨[], rfl, rfl⟩
  | cons c cs ih =>
    rw [scanNumber]
    split
    · rename_i digit
      obtain ⟨front, split, kept⟩ := ih hasPoint true
      have other : c ≠ '_' := by
        rintro rfl
        contradiction
      exact ⟨c :: front, congrArg (c :: ·) split, by simp [other, kept]⟩
    split
    · rename_i separator
      obtain ⟨front, split, kept⟩ := ih hasPoint hasDigit
      exact ⟨c :: front, congrArg (c :: ·) split, by simp [separator.1, kept]⟩
    split
    · rename_i point
      obtain ⟨front, split, kept⟩ := ih true hasDigit
      exact ⟨c :: front, congrArg (c :: ·) split, by simp [point.1, kept]⟩
    · exact ⟨[], rfl, rfl⟩

/-- What comes of a number of which something has been seen. -/
def numberOutcome (seen : Seen) (cs : List Char) : Except Failure (Seen × List Char) :=
  let scan := scanNumber seen.hasPoint seen.hasDigit cs
  .ok (⟨scan.hasPoint, scan.hasDigit⟩, scan.rest)

/-- The digits of a number are passed as the parser scans them. -/
theorem scans_passNumber (text cs : List Char) :
    Scans text passNumber cs (numberOutcome ⟨false, false⟩ cs) := by
  refine scans_loop numberOutcome (fun again cs shorter seen => ?_) ⟨false, false⟩ cs
  refine (scans_peek text cs).step ?_
  cases cs with
  | nil => exact .pure seen
  | cons c cs =>
    have fewer : cs.length < (c :: cs).length := Nat.lt_succ_self _
    have advance := scans_advance_cons text c cs
    rw [numberOutcome, scanNumber]
    dsimp only [List.head?_cons]
    split
    · exact advance.step (shorter { seen with hasDigit := true } cs fewer)
    split
    · exact advance.step (shorter seen cs fewer)
    split
    · exact advance.step (shorter { seen with hasPoint := true } cs fewer)
    · exact .pure seen

/-- Digits are passed up to where they end. -/
theorem scans_passDigits (text cs : List Char) :
    Scans text passDigits cs (.ok ((), cs.dropWhile Char.isDigit)) := by
  refine scans_loop (fun _ cs => .ok ((), cs.dropWhile Char.isDigit)) (fun again cs shorter _ => ?_) () cs
  refine (scans_peek text cs).step ?_
  cases cs with
  | nil => exact .pure ()
  | cons c cs =>
    rw [List.dropWhile_cons]
    dsimp only [List.head?_cons]
    split
    · exact (scans_advance_cons text c cs).step (shorter () cs (Nat.lt_succ_self _))
    · exact .pure ()

/-- A sign is passed if there is one. -/
theorem scans_passSign (text cs : List Char) : Scans text passSign cs (.ok ((), (spanSign cs).2)) := by
  refine (scans_peek text cs).step ?_
  cases cs with
  | nil => exact .pure ()
  | cons c cs =>
    rw [spanSign]
    dsimp only [List.head?_cons]
    split
    · exact (scans_advance_cons text c cs).step (.pure ())
    · exact .pure ()

/-- The cursor has not moved if and only if no digits were there. -/
theorem position_dropWhile_eq_iff (suffix : cs <:+ text) (p : Char → Bool) :
    byteLength text - byteLength (cs.dropWhile p) = byteLength text - byteLength cs ↔
      cs.takeWhile p = [] := by
  have whole := byteLength_append (cs.takeWhile p) (cs.dropWhile p)
  rw [List.takeWhile_append_dropWhile] at whole
  have within := byteLength_le_of_suffix suffix
  rw [← byteLength_eq_zero_iff]
  omega

/-- An exponent is passed if there is one, and fails without digits. -/
theorem scans_passExponent (text cs : List Char) :
    Scans text passExponent cs
      ((scanExponent cs).map fun (exponent, rest) => (!exponent.isEmpty, rest)) := by
  refine (scans_peek text cs).step ?_
  cases cs with
  | nil => exact .pure false
  | cons c cs =>
    rw [scanExponent]
    dsimp only [List.head?_cons]
    split
    · refine (scans_advance_cons text c cs).step ((scans_passSign text cs).step ?_)
      generalize (spanSign cs).2 = body
      refine .of_suffix fun suffix => (scans_position text body).step ?_
      refine (scans_passDigits text body).step ((scans_position text _).step ?_)
      by_cases empty : body.takeWhile Char.isDigit = []
      · have unmoved : body.dropWhile Char.isDigit = body := by
          have whole := List.takeWhile_append_dropWhile (p := Char.isDigit) (l := body)
          rwa [empty] at whole
        rw [if_pos ((position_dropWhile_eq_iff suffix _).2 empty), if_pos (List.isEmpty_iff.2 empty), unmoved]
        exact scans_fail text body _
      · rw [if_neg (mt (position_dropWhile_eq_iff suffix _).1 empty), if_neg (mt List.isEmpty_iff.1 empty)]
        exact .pure true
    · exact .pure false

/-- The text between a place where the cursor has been and the cursor. -/
theorem scans_since {front rest : List Char} (suffix : front ++ rest <:+ text) :
    Scans text (since (byteLength text - byteLength (front ++ rest))) rest (.ok (front, rest)) := by
  intro c stands
  refine ⟨.ok front, c, ?_, rfl, stands⟩
  obtain ⟨before, rfl⟩ := suffix
  obtain ⟨passed, split, position⟩ := stands.split
  obtain rfl : before ++ front = passed := by
    rwa [← List.append_assoc, List.append_cancel_right_eq] at split
  have start : byteLength (before ++ (front ++ rest)) - byteLength (front ++ rest) = byteLength before := by
    rw [byteLength_append, Nat.add_sub_cancel]
  rw [start]
  simp only [since, stands.within, split, position, splitBytes?_append, Option.bind_some, Option.map_some]

/-- An exponent is what stands before the rest, and holds no separators. -/
theorem split_of_scanExponent {exponent rest : List Char} (h : scanExponent cs = .ok (exponent, rest)) :
    cs = exponent ++ rest ∧ exponent.filter (· != '_') = exponent := by
  cases cs with
  | nil =>
    cases h
    exact ⟨rfl, rfl⟩
  | cons c cs =>
    rw [scanExponent] at h
    split at h
    · rename_i mark
      dsimp only at h
      split at h
      · contradiction
      · cases h
        have digits : (List.takeWhile Char.isDigit (spanSign cs).2).filter (· != '_') =
            List.takeWhile Char.isDigit (spanSign cs).2 := by
          refine List.filter_eq_self.2 fun d mem => ?_
          have digit := List.all_eq_true.1 List.all_takeWhile d mem
          rw [bne_iff_ne]
          rintro rfl
          contradiction
        have sign : cs = (spanSign cs).1 ++ (spanSign cs).2 ∧
            (spanSign cs).1.filter (· != '_') = (spanSign cs).1 := by
          cases cs with
          | nil => exact ⟨rfl, rfl⟩
          | cons d cs =>
            rw [spanSign]
            split
            · rename_i sign
              rcases sign with rfl | rfl <;> exact ⟨rfl, rfl⟩
            · exact ⟨rfl, rfl⟩
        refine ⟨?_, ?_⟩
        · rw [List.cons_append, List.cons_append, List.append_assoc, List.takeWhile_append_dropWhile, ← sign.1]
        · rw [List.cons_append, List.filter_cons_of_pos, List.filter_append, sign.2, digits]
          rcases mark with rfl | rfl <;> decide
    · cases h
      exact ⟨rfl, rfl⟩

/-- What a walk answers if there is a value, and the fault that it ends with if there is none. -/
theorem scans_value {ds : List Char} (suffix : ds <:+ text) (rest : List Char) (fault : SyntaxFault)
    (value : Option Value) :
    Scans text
      (match value with
        | some value => pure value
        | none => failAt fault (byteLength text - byteLength ds))
      rest
      (match value with
        | some value => .ok (value, rest)
        | none => .error ⟨fault, ds⟩) := by
  cases value with
  | none => exact scans_failAt suffix fault
  | some value => exact .pure value

/-- A number is read as the parser reads it. -/
theorem scans_number (text : List Char) (skipped : skipBlank cs = cs) : Scans text number cs (readNumber cs) := by
  have skip := scans_skip text cs
  rw [skipped] at skip
  refine skip.step (.of_suffix fun suffix => (scans_position text cs).step ?_)
  refine (scans_passNumber text cs).step ?_
  obtain ⟨front, split, kept⟩ := exists_front_scanNumber false false cs
  simp only [readNumber]
  split
  · exact scans_failAt suffix _
  · have exponents := scans_passExponent text (scanNumber false false cs).rest
    cases scanned : scanExponent (scanNumber false false cs).rest with
    | error failure =>
      rw [scanned] at exponents
      exact exponents.fails
    | ok found =>
      obtain ⟨exponent, rest⟩ := found
      rw [scanned] at exponents
      obtain ⟨splitRest, keptExponent⟩ := split_of_scanExponent scanned
      have whole : cs = (front ++ exponent) ++ rest := by rw [List.append_assoc, ← splitRest, ← split]
      have slice := scans_since (whole ▸ suffix)
      rw [← whole] at slice
      refine exponents.step (slice.step ?_)
      simp only [kept, List.filter_append, keptExponent]
      generalize front.filter (· != '_') ++ exponent = digits
      exact scans_value suffix rest _ _

end Numbers

section Strings

/-- What comes of a text up to its quote; the text begins before some characters. -/
def quotedOutcome (quote : Char) (ds cs : List Char) : Except Failure (List Char × List Char) :=
  match scanString quote cs with
  | none => .error ⟨.unterminatedString, ds⟩
  | some found => .ok found

/-- What is quoted so far changes with the text that is scanned. -/
theorem quotedOutcome_of_map {quote : Char} {cs rest : List Char} (ds : List Char) (f : List Char → List Char)
    (h : scanString quote cs = (scanString quote rest).map fun (text, after) => (f text, after)) :
    quotedOutcome quote ds cs = (quotedOutcome quote ds rest).map fun (text, after) => (f text, after) := by
  rw [quotedOutcome, quotedOutcome, h]
  cases scanString quote rest <;> rfl

/-- The characters up to a quote are read as the parser scans them. -/
theorem scans_quoted {ds : List Char} (suffix : ds <:+ text) (quote : Char) (cs : List Char) :
    Scans text (quoted quote (byteLength text - byteLength ds)) cs (quotedOutcome quote ds cs) := by
  refine scans_loop (fun _ cs => quotedOutcome quote ds cs) (fun again cs shorter _ => ?_) () cs
  have unterminated : Scans text (failAt .unterminatedString (byteLength text - byteLength ds) : Walk (List Char))
      [] (.error ⟨.unterminatedString, ds⟩) := scans_failAt suffix _
  fun_cases scanString quote cs with
  | case1 => exact (scans_advance_nil text).step unterminated
  | case2 cs =>
    refine (scans_advance_cons text quote cs).step ?_
    rw [quotedOutcome, scanString_close]
    simp only [if_true]
    exact .pure []
  | case3 other =>
    refine (scans_advance_cons text '\\' []).step ?_
    rw [quotedOutcome, scanString, if_neg other]
    simp only [if_neg other, if_true]
    exact (scans_advance_nil text).step unterminated
  | case4 d after other =>
    have read := scanString_escape other d after
    refine (scans_advance_cons text '\\' (d :: after)).step ?_
    simp only [if_neg other, if_true]
    refine (scans_advance_cons text d after).step ?_
    have behind := shorter () after (by simp only [List.length_cons]; omega)
    dsimp only
    cases known : escaped? d with
    | some e =>
      rw [known] at read
      rw [quotedOutcome_of_map ds (e :: ·) read]
      exact behind.map _
    | none =>
      rw [known] at read
      rw [quotedOutcome_of_map ds ('\\' :: d :: ·) read]
      exact behind.map _
  | case5 c cs other plain =>
    refine (scans_advance_cons text c cs).step ?_
    simp only [if_neg other, if_neg plain]
    rw [quotedOutcome_of_map ds (c :: ·) (scanString_other other plain cs)]
    exact (shorter () cs (Nat.lt_succ_self _)).map _

/-- A string is read as the parser scans it, and fails at its beginning if its quote is missing. -/
theorem scans_string (text : List Char) (quote : Char) (tail : List Char) :
    Scans text (string quote) (quote :: tail) (quotedOutcome quote (quote :: tail) tail) :=
  .of_suffix fun suffix => (scans_position text (quote :: tail)).step
    ((scans_advance_cons text quote tail).step (scans_quoted suffix quote tail))

end Strings

end Walk

end Backtest.Language
