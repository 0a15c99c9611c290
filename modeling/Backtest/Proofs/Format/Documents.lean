import Backtest.Proofs.Format.NumberText

/-!
# Documents read back

A document is read as it was written, if every number in it is read so. Each kind of document has one lemma:
what it takes for the parts gives the same for the whole, at every depth and before everything that can
stand behind a value.
-/

namespace Backtest.Format.Json

variable {fuel depth : Nat} {cs rest : List Char} {c : Char}

/-! ### Blanks -/

/-- A new line is skipped with its blanks. -/
theorem skipBlanks_newLine (depth : Nat) (cs : List Char) :
    skipBlanks (newLine depth ++ cs) = skipBlanks cs := by
  rw [newLine, skipBlanks, List.dropWhile_append_of_pos]
  · rfl
  · intro c hc
    rcases List.mem_cons.1 hc with rfl | hc
    · rfl
    · rw [(List.mem_replicate.1 hc).2]
      rfl

/-- Once blanks are skipped there are none left to skip. -/
theorem skipBlanks_skipBlanks (cs : List Char) : skipBlanks (skipBlanks cs) = skipBlanks cs := by
  unfold skipBlanks
  induction cs with
  | nil => rfl
  | cons c cs ih =>
    rw [List.dropWhile_cons]
    split
    · exact ih
    · rename_i ink
      rw [List.dropWhile_cons, if_neg ink]

/-- A document is read as it is behind the blanks in front. -/
theorem read?_skipBlanks (fuel : Nat) (cs : List Char) : read? fuel (skipBlanks cs) = read? fuel cs := by
  cases fuel with
  | zero => rfl
  | succ fuel => rw [read?, read?, skipBlanks_skipBlanks]

/-- So are the items of a list. -/
theorem readItems?_skipBlanks (fuel : Nat) (cs : List Char) :
    readItems? fuel (skipBlanks cs) = readItems? fuel cs := by
  cases fuel with
  | zero => rfl
  | succ fuel => rw [readItems?, readItems?, read?_skipBlanks]

/-- So are the members of an object. -/
theorem readMembers?_skipBlanks (fuel : Nat) (cs : List Char) :
    readMembers? fuel (skipBlanks cs) = readMembers? fuel cs := by
  cases fuel with
  | zero => rfl
  | succ fuel => rw [readMembers?, readMembers?, skipBlanks_skipBlanks]

/-- A reader that does not look at blanks in front does not look at a new line either. -/
theorem eq_of_newLine {β : Type} {read : List Char → β} (blind : ∀ cs, read (skipBlanks cs) = read cs)
    (depth : Nat) (cs : List Char) : read (newLine depth ++ cs) = read cs := by
  rw [← blind, skipBlanks_newLine, blind]

/-! ### Strings -/

/-- A unit is read whatever stands behind it. -/
theorem readUnit?_append {n : Nat} {after : List Char} (h : readUnit? cs = some (n, after))
    (rest : List Char) : readUnit? (cs ++ rest) = some (n, after ++ rest) := by
  rcases cs with _ | ⟨a, _ | ⟨b, _ | ⟨c, _ | ⟨d, cs⟩⟩⟩⟩
  case cons.cons.cons.cons =>
    simp only [List.cons_append, readUnit?, Option.bind_eq_bind, Option.bind_eq_some_iff, pure,
      Option.some.injEq, Prod.mk.injEq] at h ⊢
    obtain ⟨a, ha, b, hb, c, hc, d, hd, value, rfl⟩ := h
    exact ⟨a, ha, b, hb, c, hc, d, hd, value, rfl⟩
  all_goals cases h

/-- The code of a control character is the unit of its escape. -/
theorem readUnit?_control : ∀ n < 32,
    readUnit? (List.replicate (4 - (Nat.toDigits 16 n).length) '0' ++ Nat.toDigits 16 n) =
      some (n, []) := by
  decide

/-- A control character is read from its escape. -/
theorem readEscape?_control (control : c.toNat < 32) (rest : List Char) :
    readEscape? ('u' :: (List.replicate (4 - (Nat.toDigits 16 c.toNat).length) '0' ++
      Nat.toDigits 16 c.toNat ++ rest)) = some (some c, rest) := by
  have unit := readUnit?_append (readUnit?_control c.toNat control) rest
  rw [List.nil_append] at unit
  have code : readEscape? ('u' :: (List.replicate (4 - (Nat.toDigits 16 c.toNat).length) '0' ++
      Nat.toDigits 16 c.toNat ++ rest)) = readCode? (List.replicate
        (4 - (Nat.toDigits 16 c.toNat).length) '0' ++ Nat.toDigits 16 c.toNat ++ rest) := rfl
  rw [code, readCode?, unit]
  simp only [Option.bind_eq_bind, Option.bind_some]
  rw [if_neg (by omega), if_neg (by omega), Char.ofNat_toNat]
  rfl

/-- A character is read from its escape. -/
theorem readString?_escapeChar (fuel : Nat) (c : Char) (rest : List Char) :
    readString? (fuel + 1) (escapeChar c ++ rest) =
      (readString? fuel rest).map fun (cs, rest) => (joined (some c) cs, rest) := by
  have escaped {e : List Char} (read : readEscape? (e ++ rest) = some (some c, rest)) :
      readString? (fuel + 1) ('\\' :: e ++ rest) =
        (readString? fuel rest).map fun (cs, rest) => (joined (some c) cs, rest) := by
    rw [List.cons_append, readString?, if_neg (by decide), if_pos rfl, read]
    rfl
  unfold escapeChar
  split
  · subst c
    exact escaped (e := ['"']) rfl
  split
  · subst c
    exact escaped (e := ['\\']) rfl
  split
  · subst c
    exact escaped (e := ['n']) rfl
  split
  · subst c
    exact escaped (e := ['t']) rfl
  split
  · subst c
    exact escaped (e := ['r']) rfl
  split
  · subst c
    exact escaped (e := ['b']) rfl
  split
  · subst c
    exact escaped (e := ['f']) rfl
  split
  · rename_i control
    exact escaped (readEscape?_control control rest)
  · rename_i quote backslash _ _ _ _ _ printed
    rw [List.cons_append, readString?, if_neg quote, if_neg backslash, if_neg printed]
    rfl

/-- A string is read as it is written in quotes. -/
theorem readString?_quoted (cs rest : List Char) (enough : cs.length < fuel) :
    readString? fuel (cs.flatMap escapeChar ++ '"' :: rest) = some (some cs, rest) := by
  induction cs generalizing fuel with
  | nil =>
    obtain ⟨fuel, rfl⟩ : ∃ n, fuel = n + 1 := ⟨fuel - 1, by simp at enough; omega⟩
    rfl
  | cons c cs ih =>
    obtain ⟨fuel, rfl⟩ : ∃ n, fuel = n + 1 := ⟨fuel - 1, by simp at enough; omega⟩
    rw [List.flatMap_cons, List.append_assoc, readString?_escapeChar,
      ih (by simpa using enough)]
    rfl

/-! ### Values -/

/-- What is read is not the end of a list. -/
theorem read?_of_bracket (fuel : Nat) (h : skipBlanks cs = ']' :: rest) : read? fuel cs = none := by
  cases fuel with
  | zero => rfl
  | succ fuel =>
    rw [read?, h]
    rfl

/-- A document that is read as it is written: the characters that are left bound the steps it takes. -/
def Reads (j : Json) : Prop :=
  ∀ depth fuel rest, EndsNumber rest → 2 * (lines depth j ++ rest).length ≤ fuel →
    read? fuel (lines depth j ++ rest) = some (j, rest)

/-- A value of one character or more is read in a step. -/
theorem reads_of_step {j : Json} (first : Char)
    (text : ∀ depth, ∃ behind, lines depth j = first :: behind)
    (step : ∀ depth fuel rest, EndsNumber rest → 2 * (lines depth j ++ rest).length ≤ fuel + 1 →
      read? (fuel + 1) (lines depth j ++ rest) = some (j, rest)) : j.Reads := by
  intro depth fuel rest ends enough
  obtain ⟨behind, line⟩ := text depth
  obtain ⟨steps, rfl⟩ : ∃ n, fuel = n + 1 := by
    refine ⟨fuel - 1, ?_⟩
    rw [line, List.cons_append, List.length_cons] at enough
    omega
  exact step depth steps rest ends enough

/-- Null is read as it is written. -/
theorem reads_null : null.Reads :=
  reads_of_step 'n' (fun _ => ⟨_, rfl⟩) fun _ _ _ _ _ => rfl

/-- What begins with a digit or a minus is read as a number, with the characters that it takes. -/
theorem read?_number (fuel : Nat) (first : c = '-' ∨ c.isDigit) (rest : List Char) :
    read? (fuel + 1) (c :: rest) = (readNumber? (c :: rest)).map fun (_, after) =>
      (.number ((c :: rest).take ((c :: rest).length - after.length)), after) := by
  have other (d : Char) (h : d ≠ '-' ∧ ¬d.isDigit) : c ≠ d := by
    rintro rfl
    exact first.elim h.1 h.2
  have ink : skipBlanks (c :: rest) = c :: rest := by
    rw [skipBlanks, List.dropWhile_cons, if_neg]
    simp [other ' ' (by decide), other '\n' (by decide), other '\t' (by decide),
      other '\r' (by decide)]
  rw [read?, ink]
  simp only
  rw [if_neg (other 'n' (by decide)), if_neg (other 't' (by decide)), if_neg (other 'f' (by decide)),
    if_neg (other '"' (by decide)), if_neg (other '[' (by decide)), if_neg (other '\x7b' (by decide))]

/-- A number is read as it is written, if its spelling is that of a double. -/
theorem reads_number {spelling : List Char} (spells : SpellsDouble spelling) :
    (number spelling).Reads := by
  obtain ⟨⟨first, head, digit⟩, p, -, reads⟩ := spells
  obtain ⟨behind, rfl⟩ := List.head?_eq_some_iff.1 head
  refine reads_of_step first (fun _ => ⟨behind, rfl⟩) fun depth fuel rest ends _ => ?_
  change read? (fuel + 1) (first :: (behind ++ rest)) = _
  rw [read?_number fuel digit, ← List.cons_append, reads rest ends]
  simp only [Option.map_some, List.length_append, Nat.add_sub_cancel, List.take_left]

/-- Escaping makes no text shorter. -/
theorem length_le_flatMap_escapeChar (cs : List Char) :
    cs.length ≤ (cs.flatMap escapeChar).length := by
  induction cs with
  | nil => exact Nat.le_refl _
  | cons c cs ih =>
    have some_char : 0 < (escapeChar c).length := by
      unfold escapeChar
      repeat' split
      all_goals simp
    rw [List.flatMap_cons, List.length_append, List.length_cons]
    omega

/-- A string is read as it is written. -/
theorem reads_string (s : String) : (string s).Reads := by
  refine reads_of_step '"' (fun _ => ⟨_, rfl⟩) fun depth fuel rest _ enough => ?_
  have line : lines depth (string s) ++ rest =
      '"' :: (s.toList.flatMap escapeChar ++ '"' :: rest) := by
    change '"' :: (s.toList.flatMap escapeChar ++ ['"']) ++ rest = _
    simp only [List.cons_append, List.append_assoc, List.nil_append]
  have length := length_le_flatMap_escapeChar s.toList
  rw [line] at enough ⊢
  simp only [List.length_cons, List.length_append] at enough
  change (readString? fuel (s.toList.flatMap escapeChar ++ '"' :: rest)).map _ = _
  rw [readString?_quoted _ _ (by omega)]
  simp only [Option.map_some, ofString?, String.ofList_toList]

/-! ### Parts -/

/-- A kind of documents that have parts in brackets. -/
inductive Enclosure where
  | list
  | object

namespace Enclosure

/-- The bracket in front of the parts. -/
def opening : Enclosure → Char
  | list => '['
  | object => '\x7b'

/-- The bracket behind the parts. -/
def closing : Enclosure → Char
  | list => ']'
  | object => '\x7d'

/-- The document whose parts are at the front of the characters, from the first on. -/
def parts? (fuel : Nat) (cs : List Char) : Enclosure → Option (Json × List Char)
  | list => (readItems? fuel cs).map fun (items, rest) => (.list items, rest)
  | object => (readMembers? fuel cs).map fun (members, rest) => (ofMembers? members, rest)

end Enclosure

/-- Unless the brackets are closed at once, the parts are read. -/
theorem read?_opening (e : Enclosure) (fuel : Nat) (inside : ∀ rest, skipBlanks cs ≠ e.closing :: rest) :
    read? (fuel + 1) (e.opening :: cs) = e.parts? fuel cs := by
  have front : skipBlanks (e.opening :: cs) = e.opening :: cs := by cases e <;> rfl
  rw [read?, front]
  cases e <;> simp only [Enclosure.closing] at inside <;>
    simp only [Enclosure.opening, Enclosure.parts?, Char.reduceEq, if_false, if_true, readItems?_skipBlanks,
      readMembers?_skipBlanks]

/-- Behind a part there is a comma or a new line. -/
theorem endsNumber_further {α : Type} (further : List α → List Char) (none : further [] = [])
    (comma : ∀ x xs, ∃ others, further (x :: xs) = ',' :: others) (xs : List α) (outer : Nat)
    (rest : List Char) : EndsNumber (further xs ++ (newLine outer ++ rest)) := by
  cases xs with
  | nil =>
    rw [none]
    exact endsNumber_cons (Or.inr rfl)
  | cons x xs =>
    obtain ⟨others, front⟩ := comma x xs
    rw [front]
    exact endsNumber_cons (Or.inl rfl)

/-! ### Lists -/

/-- Items are read behind a new line as without it. -/
theorem readItems?_newLine (fuel depth : Nat) (cs : List Char) :
    readItems? fuel (newLine depth ++ cs) = readItems? fuel cs :=
  eq_of_newLine (readItems?_skipBlanks fuel) depth cs

/-- A number ends where further items or the end of the list begin. -/
theorem endsNumber_itemLines (depth outer : Nat) (items : List Json) (rest : List Char) :
    EndsNumber (itemLines depth items ++ (newLine outer ++ rest)) :=
  endsNumber_further (itemLines depth) rfl (fun _ _ => ⟨_, rfl⟩) items outer rest

/-- The items of a list are read to its bracket. -/
theorem readItems?_lines {item : Json} {items : List Json} (first : item.Reads)
    (others : ∀ j ∈ items, j.Reads) (outer : Nat) (rest : List Char)
    (enough : 2 * (lines depth item ++ (itemLines depth items ++
      (newLine outer ++ ']' :: rest))).length < fuel) :
    readItems? fuel (lines depth item ++ (itemLines depth items ++ (newLine outer ++ ']' :: rest))) =
      some (item :: items, rest) := by
  induction items generalizing item fuel with
  | nil =>
    obtain ⟨fuel, rfl⟩ : ∃ n, fuel = n + 1 := ⟨fuel - 1, by omega⟩
    rw [readItems?, first _ _ _ (endsNumber_itemLines _ _ _ _) (by omega)]
    simp only [itemLines, List.nil_append, Option.bind_some, skipBlanks_newLine]
    rfl
  | cons next items ih =>
    obtain ⟨fuel, rfl⟩ : ∃ n, fuel = n + 1 := ⟨fuel - 1, by omega⟩
    have shape : itemLines depth (next :: items) ++ (newLine outer ++ ']' :: rest) =
        ',' :: (newLine depth ++ (lines depth next ++ (itemLines depth items ++
          (newLine outer ++ ']' :: rest)))) := by
      simp only [itemLines, List.cons_append, List.append_assoc]
    rw [readItems?, first _ _ _ (endsNumber_itemLines _ _ _ _) (by omega)]
    rw [shape] at enough ⊢
    change (readItems? fuel _).map _ = _
    rw [readItems?_newLine, ih (others next (List.mem_cons_self ..))
      (fun j hj => others j (List.mem_cons_of_mem _ hj))]
    · rfl
    · simp only [List.length_append, List.length_cons] at enough ⊢
      omega

/-- The lines of a list with items. -/
theorem lines_list (depth : Nat) (item : Json) (items : List Json) :
    lines depth (list (item :: items)) =
      '[' :: (newLine (depth + 1) ++ lines (depth + 1) item ++ itemLines (depth + 1) items ++
        newLine depth ++ [']']) :=
  rfl

/-- A list is read as it is written, if its items are. -/
theorem reads_list {items : List Json} (reads : ∀ j ∈ items, j.Reads) : (list items).Reads := by
  cases items with
  | nil => exact reads_of_step '[' (fun _ => ⟨_, rfl⟩) fun _ _ _ _ _ => rfl
  | cons item items =>
    refine reads_of_step '[' (fun depth => ⟨_, lines_list ..⟩) fun depth fuel rest _ enough => ?_
    have shape : lines depth (list (item :: items)) ++ rest =
        '[' :: (newLine (depth + 1) ++ (lines (depth + 1) item ++ (itemLines (depth + 1) items ++
          (newLine depth ++ ']' :: rest)))) := by
      simp only [lines_list, List.cons_append, List.append_assoc, List.nil_append]
    rw [shape] at enough ⊢
    simp only [List.length_cons, List.length_append] at enough
    have first := reads item (List.mem_cons_self ..)
    refine (read?_opening .list fuel ?inside).trans ?parts
    case parts =>
      rw [Enclosure.parts?, readItems?_newLine,
        readItems?_lines first (fun j hj => reads j (List.mem_cons_of_mem _ hj))]
      · rfl
      · simp only [List.length_cons, List.length_append]
        omega
    case inside =>
      intro after bracket
      rw [skipBlanks_newLine] at bracket
      have value := first (depth + 1) fuel _
        (endsNumber_itemLines (depth + 1) depth items (']' :: rest))
        (by simp only [List.length_cons, List.length_append]; omega)
      rw [read?_of_bracket fuel bracket] at value
      cases value

/-! ### Objects -/

/-- Members are read behind a new line as without it. -/
theorem readMembers?_newLine (fuel depth : Nat) (cs : List Char) :
    readMembers? fuel (newLine depth ++ cs) = readMembers? fuel cs :=
  eq_of_newLine (readMembers?_skipBlanks fuel) depth cs

/-- A number ends where further members or the end of the object begin. -/
theorem endsNumber_memberLines (depth outer : Nat) (members : List (String × Json)) (rest : List Char) :
    EndsNumber (memberLines depth members ++ (newLine outer ++ rest)) :=
  endsNumber_further (memberLines depth) rfl (fun _ _ => ⟨_, rfl⟩) members outer rest

/-- A member is read up to what stands behind its value: a comma in front of further members, or the brace
of the object. -/
theorem readMembers?_member {name : String} {value : Json} (reads : value.Reads) (ends : EndsNumber rest)
    (enough : 2 * (quoted name ++ ':' :: ' ' :: (lines depth value ++ rest)).length ≤ fuel) :
    (∀ after, skipBlanks rest = ',' :: after →
      readMembers? (fuel + 1) (quoted name ++ ':' :: ' ' :: (lines depth value ++ rest)) =
        (readMembers? fuel after).map fun (members, rest) =>
          (withMember (some name.toList) value members, rest)) ∧
      ∀ after, skipBlanks rest = '\x7d' :: after →
        readMembers? (fuel + 1) (quoted name ++ ':' :: ' ' :: (lines depth value ++ rest)) =
          some (withMember (some name.toList) value (some []), after) := by
  have shape : quoted name ++ ':' :: ' ' :: (lines depth value ++ rest) =
      '"' :: (name.toList.flatMap escapeChar ++ '"' :: (':' :: ' ' :: (lines depth value ++ rest))) := by
    simp only [quoted, List.cons_append, List.append_assoc, List.nil_append]
  have length := length_le_flatMap_escapeChar name.toList
  rw [shape] at enough ⊢
  simp only [List.length_cons, List.length_append] at enough
  have name_read : readString? fuel
      (name.toList.flatMap escapeChar ++ '"' :: (':' :: ' ' :: (lines depth value ++ rest))) =
        some (some name.toList, ':' :: ' ' :: (lines depth value ++ rest)) :=
    readString?_quoted _ _ (by omega)
  have value_read : read? fuel (' ' :: (lines depth value ++ rest)) = some (value, rest) := by
    rw [← read?_skipBlanks]
    change read? fuel (skipBlanks (lines depth value ++ rest)) = _
    rw [read?_skipBlanks]
    exact reads _ _ _ ends (by simp only [List.length_append]; omega)
  have quote (cs : List Char) : skipBlanks ('"' :: cs) = '"' :: cs := rfl
  have colon (cs : List Char) : skipBlanks (':' :: cs) = ':' :: cs := rfl
  constructor <;> intro after behind
  all_goals
    rw [readMembers?]
    simp only [quote, name_read, Option.bind_some, colon, value_read, behind]

/-- The members of an object are read to its brace. -/
theorem readMembers?_lines {name : String} {value : Json} {members : List (String × Json)}
    (first : value.Reads) (others : ∀ m ∈ members, m.2.Reads) (outer : Nat) (rest : List Char)
    (enough : 2 * (quoted name ++ ':' :: ' ' :: (lines depth value ++ (memberLines depth members ++
      (newLine outer ++ '\x7d' :: rest)))).length < fuel) :
    readMembers? fuel (quoted name ++ ':' :: ' ' :: (lines depth value ++ (memberLines depth members ++
        (newLine outer ++ '\x7d' :: rest)))) =
      some (some ((name, value) :: members), rest) := by
  induction members generalizing name value fuel with
  | nil =>
    obtain ⟨fuel, rfl⟩ : ∃ n, fuel = n + 1 := ⟨fuel - 1, by omega⟩
    have behind : skipBlanks (memberLines depth [] ++ (newLine outer ++ '\x7d' :: rest)) =
        '\x7d' :: rest := by
      rw [memberLines, List.nil_append, skipBlanks_newLine]
      rfl
    rw [(readMembers?_member first (endsNumber_memberLines _ _ _ _) (by omega)).2 _ behind]
    simp only [withMember, Option.bind_some, Option.map_some, String.ofList_toList]
  | cons next members ih =>
    obtain ⟨next_name, next⟩ := next
    obtain ⟨fuel, rfl⟩ : ∃ n, fuel = n + 1 := ⟨fuel - 1, by omega⟩
    have shape : memberLines depth ((next_name, next) :: members) ++ (newLine outer ++ '\x7d' :: rest) =
        ',' :: (newLine depth ++ (quoted next_name ++ ':' :: ' ' :: (lines depth next ++
          (memberLines depth members ++ (newLine outer ++ '\x7d' :: rest))))) := by
      simp only [memberLines, List.cons_append, List.append_assoc]
    have behind := congrArg skipBlanks shape
    rw [(readMembers?_member first (endsNumber_memberLines _ _ _ _) (by omega)).1 _ behind]
    rw [shape] at enough
    rw [readMembers?_newLine, ih (others _ (List.mem_cons_self ..))
      (fun m hm => others m (List.mem_cons_of_mem _ hm))]
    · simp only [Option.map_some, withMember, Option.bind_some, String.ofList_toList]
    · simp only [List.length_append, List.length_cons] at enough ⊢
      omega

/-- The lines of an object with members. -/
theorem lines_object (depth : Nat) (name : String) (value : Json) (members : List (String × Json)) :
    lines depth (object ((name, value) :: members)) =
      '\x7b' :: (newLine (depth + 1) ++ quoted name ++ ':' :: ' ' :: lines (depth + 1) value ++
        memberLines (depth + 1) members ++ newLine depth ++ ['\x7d']) :=
  rfl

/-- An object is read as it is written, if its values are. -/
theorem reads_object {members : List (String × Json)} (reads : ∀ m ∈ members, m.2.Reads) :
    (object members).Reads := by
  cases members with
  | nil => exact reads_of_step '\x7b' (fun _ => ⟨_, rfl⟩) fun _ _ _ _ _ => rfl
  | cons member members =>
    obtain ⟨name, value⟩ := member
    refine reads_of_step '\x7b' (fun depth => ⟨_, lines_object ..⟩) fun depth fuel rest _ enough => ?_
    let inner := quoted name ++ ':' :: ' ' :: (lines (depth + 1) value ++
      (memberLines (depth + 1) members ++ (newLine depth ++ '\x7d' :: rest)))
    have shape : lines depth (object ((name, value) :: members)) ++ rest =
        '\x7b' :: (newLine (depth + 1) ++ inner) := by
      simp only [lines_object, inner, List.cons_append, List.append_assoc, List.nil_append]
    have quote : skipBlanks (newLine (depth + 1) ++ inner) = inner := by
      rw [skipBlanks_newLine]
      rfl
    have inside (after : List Char) : skipBlanks (newLine (depth + 1) ++ inner) ≠ '\x7d' :: after := by
      rw [quote]
      intro brace
      exact absurd (List.cons.inj brace).1 (by decide)
    rw [shape] at enough ⊢
    refine (read?_opening .object fuel inside).trans ?_
    rw [Enclosure.parts?, readMembers?_newLine]
    simp only [List.length_cons, List.length_append] at enough
    have all : readMembers? fuel inner = some (some ((name, value) :: members), rest) :=
      readMembers?_lines (reads _ (List.mem_cons_self ..))
        (fun m hm => reads m (List.mem_cons_of_mem _ hm)) depth rest
        (show 2 * inner.length < fuel by omega)
    rw [all]
    rfl

/-- A document is read from its text, if it is read as it is written wherever it stands. -/
theorem ofText?_text {j : Json} (reads : j.Reads) : ofText? j.text = some j := by
  have read := reads 0 (2 * (lines 0 j).length + 2) [] endsNumber_nil
    (by rw [List.append_nil]; omega)
  rw [List.append_nil] at read
  unfold ofText? text
  simp only [String.toList_ofList, read]
  rfl

/-- A double is read as it is written, as a number or as null. -/
theorem reads_ofFloat (x : Float) : (ofFloat x).Reads := by
  unfold ofFloat
  split
  · rename_i finite
    exact reads_number (spellsDouble_text (Number.isFinite_of_ofFloat_eq_finite finite))
  · exact reads_null

end Backtest.Format.Json
