import Backtest.Proofs.Files.Growth
import Backtest.Proofs.LookUps

/-!
# Paths into directories

A name joined to the path of a directory is one more step, whatever slashes and points the path has. A path
through a directory can only be followed by a name that the directory lists (`mem_names_of_target`).
-/

namespace Backtest.Files

/-- The names on a path, from the front. -/
def pathNames (path : String) : List String :=
  ((Text.pieces '/' path.toList).map String.ofList).filter fun n => n != ""

/-- The steps that lead into the directory at a path. -/
def stepsInto (path : String) : List String :=
  (if path.startsWith "/" then ["/"] else []) ++ (pathNames path).filter fun n => n != "."

/-- A name that is one step down. -/
structure IsStep (name : String) : Prop where
  some_character : name ≠ ""
  undivided : '/' ∉ name.toList
  down : name ≠ "." ∧ name ≠ ".."

variable {path name : String}

/-! ### Joining -/

/-- A slash stands between a path and a name that is joined to it, and it may be the last of the path. -/
theorem exists_front_of_joinPath (some_path : path ≠ "") (step : IsStep name) :
    ∃ front, (joinPath path name).toList = front ++ '/' :: name.toList ∧
      (path.toList = front ∨ path.toList = front ++ ['/']) := by
  have relative : name.startsWith "/" = false := by
    rw [String.startsWith_string_eq_false_iff]
    rintro ⟨rest, slash⟩
    exact step.undivided (slash ▸ List.mem_cons_self)
  have present : path.isEmpty = false := by simpa using some_path
  rw [joinPath, relative, present]
  simp only [Bool.or_self, Bool.false_eq_true, if_false]
  split
  · rename_i slash
    obtain ⟨front, split⟩ := String.Slice.endsWith_string_iff.1 slash
    rw [String.copy_toSlice] at split
    refine ⟨front, ?_, .inr split.symm⟩
    rw [String.toList_append, ← split, List.append_assoc]
    rfl
  · refine ⟨path.toList, ?_, .inl rfl⟩
    rw [String.toList_append, String.toList_append, List.append_assoc]
    rfl

/-- A name that is joined comes last. -/
theorem pathNames_joinPath (some_path : path ≠ "") (step : IsStep name) :
    pathNames (joinPath path name) = pathNames path ++ [name] := by
  obtain ⟨front, joined, before⟩ := exists_front_of_joinPath some_path step
  have kept : (name != "") = true := by simpa using step.some_character
  have names : pathNames path = ((Text.pieces '/' front).map String.ofList).filter fun n => n != "" := by
    unfold pathNames
    rcases before with same | slash
    · rw [same]
    · rw [slash, Text.pieces_append]
      simp [Text.pieces]
  rw [names, pathNames, joined, Text.pieces_append, Text.pieces_of_not_mem step.undivided, List.map_append,
    List.filter_append, List.map_singleton, String.ofList_toList, List.filter_singleton, kept]
  rfl

/-- A joined path is absolute if the path is. -/
theorem startsWith_joinPath (some_path : path ≠ "") (step : IsStep name) :
    (joinPath path name).startsWith "/" = path.startsWith "/" := by
  obtain ⟨front, joined, before⟩ := exists_front_of_joinPath some_path step
  rw [Bool.eq_iff_iff, String.startsWith_string_iff, String.startsWith_string_iff, joined]
  cases front with
  | nil =>
    rcases before with same | slash
    · exact absurd (String.toList_eq_nil_iff.1 same) some_path
    · rw [slash]
      simp [List.cons_prefix_cons]
  | cons c front =>
    rcases before with same | slash
    · rw [same]
      simp [List.cons_prefix_cons]
    · rw [slash]
      simp [List.cons_prefix_cons]

/-- A path with a name behind it is not empty. -/
theorem joinPath_ne_empty (some_path : path ≠ "") (step : IsStep name) : joinPath path name ≠ "" := by
  obtain ⟨front, joined, -⟩ := exists_front_of_joinPath some_path step
  intro none
  rw [none] at joined
  simp at joined

/-- The steps into a path with a name behind it are those of the path and then the name. -/
theorem stepsInto_joinPath (some_path : path ≠ "") (step : IsStep name) :
    stepsInto (joinPath path name) = stepsInto path ++ [name] := by
  have kept : (name != ".") = true := by simpa using step.down.1
  rw [stepsInto, stepsInto, startsWith_joinPath some_path step, pathNames_joinPath some_path step,
    List.filter_append, List.filter_singleton, kept, List.append_assoc]
  rfl

/-- The route of a path with names on it, the last of which stays even if it is a point. -/
theorem Route.ofPath?_eq (some_path : path ≠ "") :
    Route.ofPath? path = some
      ⟨(if path.startsWith "/" then ["/"] else []) ++ (((pathNames path).dropLast.filter fun n => n != ".") ++
        (pathNames path).getLast?.toList), path.endsWith "/"⟩ := by
  have present : path.isEmpty = false := by simpa using some_path
  rw [Route.ofPath?, present]
  simp only [Bool.false_eq_true, if_false, pathNames]
  split <;> rfl

/-- The route of a joined path goes into the directory and then takes the name. -/
theorem Route.ofPath?_joinPath (some_path : path ≠ "") (step : IsStep name) :
    Route.ofPath? (joinPath path name) = some ⟨stepsInto path ++ [name], false⟩ := by
  have plain : (joinPath path name).endsWith "/" = false := by
    obtain ⟨front, joined, -⟩ := exists_front_of_joinPath some_path step
    rw [Bool.eq_false_iff, ne_eq, String.endsWith, String.Slice.endsWith_string_iff, String.copy_toSlice, joined]
    rintro ⟨before, slash⟩
    obtain none | ⟨cs, c, chars⟩ := List.eq_nil_or_concat' name.toList
    · exact step.some_character (String.toList_eq_nil_iff.1 none)
    · rw [chars, ← List.cons_append, ← List.append_assoc] at slash
      have last : "/".toList = [c] := (List.append_inj' slash rfl).2
      exact step.undivided (chars ▸ last ▸ List.mem_append_right _ List.mem_cons_self)
  rw [Route.ofPath?_eq (joinPath_ne_empty some_path step), plain, startsWith_joinPath some_path step,
    pathNames_joinPath some_path step, List.dropLast_concat, List.getLast?_concat, stepsInto, List.append_assoc]
  rfl

/-! ### Following -/

namespace Workspace

variable {w : Workspace} {place : List String} {steps : List String} {t : Target}

/-- Steps are entered in two parts as in one. -/
theorem enter_append (w : Workspace) (place steps rest : List String) :
    w.enter place (steps ++ rest) = (w.enter place steps).bind fun between => w.enter between rest := by
  induction steps generalizing place with
  | nil => rfl
  | cons name steps ih =>
    rw [List.cons_append, enter, enter]
    split
    · rfl
    · rfl
    · exact ih _
    · rfl

/-- One more step is taken from where the steps before it lead. -/
theorem find_concat_eq_ok (h : w.find (steps ++ [name]) = .ok t) :
    ∃ between, w.enter [] steps = .ok between ∧ w.lookUp between name = .ok t.entry ∧
      t.place = step between name := by
  rw [find, List.getLast?_concat, List.dropLast_concat] at h
  obtain ⟨between, entered, h⟩ := exists_of_bind_eq_ok h
  obtain ⟨entry, found, h⟩ := exists_of_bind_eq_ok h
  cases h
  exact ⟨between, entered, found, rfl⟩

/-- Steps that lead to a directory lead into it. -/
theorem enter_of_find (h : w.find steps = .ok ⟨place, some .directory⟩) : w.enter [] steps = .ok place := by
  obtain rfl | ⟨steps, name, rfl⟩ := List.eq_nil_or_concat' steps
  · cases h
    rfl
  · obtain ⟨between, entered, found, rfl⟩ := find_concat_eq_ok h
    rw [enter_append, entered]
    simp only [Except.bind, enter, found]

/-- A path to a directory leads into it, and a point in its end stays there. -/
theorem enter_of_target (h : w.target path = .ok ⟨place, some .directory⟩) :
    path ≠ "" ∧ w.enter [] (stepsInto path) = .ok place := by
  obtain ⟨-, route, hroute, found, -⟩ := target_eq_ok_iff.1 h
  have some_path : path ≠ "" := by
    rintro rfl
    cases hroute
  refine ⟨some_path, ?_⟩
  rw [Route.ofPath?_eq some_path] at hroute
  cases hroute
  rw [stepsInto]
  obtain none | ⟨before, last, names⟩ := List.eq_nil_or_concat' (pathNames path)
  · rw [none] at found ⊢
    exact enter_of_find found
  · rw [names, List.dropLast_concat, List.getLast?_concat, Option.toList_some, ← List.append_assoc] at found
    rw [names, List.filter_append, ← List.append_assoc]
    by_cases point : last = "."
    · obtain ⟨between, entered, -, same⟩ := find_concat_eq_ok found
      rw [point, step, if_pos rfl] at same
      cases same
      simpa [point] using entered
    · have kept : (last != ".") = true := by simpa using point
      rw [List.filter_singleton, kept]
      exact enter_of_find found

/-- The names of a path are those of the entries in the directory that it leads to. -/
theorem names_eq_ok {names : List String} (h : w.names path = .ok names) :
    ∃ place, w.target path = .ok ⟨place, some .directory⟩ ∧
      ∀ name, place ++ [name] ∈ w.entries.keys → name ∈ names := by
  unfold Workspace.names at h
  obtain ⟨⟨place, entry⟩, led, h⟩ := exists_of_bind_eq_ok h
  match entry with
  | some .directory =>
    cases h
    refine ⟨place, led, fun name here => List.mem_filterMap.2 ⟨place ++ [name], here, ?_⟩⟩
    rw [if_pos ⟨by simp, List.dropLast_concat⟩, List.getLast?_concat]
  | some (.file _) | some .sink | some .full | none => cases h

/-- A name in a directory that leads to something is that of an entry, if it is not the name of a device. -/
theorem mem_keys_of_get? {e : Entry} (found : w.get? (place ++ [name]) = some e) (down : IsStep name)
    (apart : name ∉ ["dev", "null", "full"]) : place ++ [name] ∈ w.entries.keys := by
  obtain ⟨some_character, undivided, -, up⟩ := down
  have last {others : List String} (same : place ++ [name] = others) : some name = others.getLast? := by
    rw [← same, List.getLast?_concat]
  unfold get? at found
  split at found
  · rename_i given
    rw [isGiven, Bool.or_eq_true, Bool.or_eq_true, beq_iff_eq, beq_iff_eq, List.all_eq_true] at given
    rcases given with (dots | root) | devices
    · exact absurd (beq_iff_eq.1 (dots name (by simp))) up
    · cases last root
      exact absurd (List.mem_singleton_self _) undivided
    · cases last devices
      exact absurd (by simp) apart
  split at found
  · rename_i null
    cases last null
    exact absurd (by simp) apart
  split at found
  · rename_i full
    cases last full
    exact absurd (by simp) apart
  · exact SortedMap.mem_keys_iff.2 ⟨e, found⟩

/-- What a path leads to through a name in a directory, it leads to through a name that is listed. -/
theorem mem_names_of_target {names : List String} {inner : String} (listed : w.names path = .ok names)
    (down : IsStep name) (apart : name ∉ ["dev", "null", "full"]) (down' : IsStep inner)
    (led : w.target (joinPath (joinPath path name) inner) = .ok t) : name ∈ names := by
  obtain ⟨place, directory, contained⟩ := names_eq_ok listed
  obtain ⟨some_path, entered⟩ := enter_of_target directory
  obtain ⟨-, route, hroute, found, -⟩ := target_eq_ok_iff.1 led
  rw [Route.ofPath?_joinPath (joinPath_ne_empty some_path down) down', stepsInto_joinPath some_path down] at hroute
  cases hroute
  obtain ⟨between, through, -, -⟩ := find_concat_eq_ok found
  rw [enter_append, entered] at through
  simp only [Except.bind, enter] at through
  split at through
  · cases through
  · cases through
  · rename_i there
    have entry := (lookUp_eq_ok there).symm
    rw [step, if_neg down.down.1, if_neg down.down.2] at entry
    exact contained name (mem_keys_of_get? entry down apart)
  · cases through

/-- What is in a directory that is not listed cannot be read. -/
theorem exists_fault_of_not_mem {names : List String} {inner : String} (listed : w.names path = .ok names)
    (down : IsStep name) (apart : name ∉ ["dev", "null", "full"]) (down' : IsStep inner) (absent : name ∉ names) :
    ∃ fault, w.names (joinPath (joinPath path name) inner) = .error fault := by
  cases read : w.names (joinPath (joinPath path name) inner) with
  | error fault => exact ⟨fault, rfl⟩
  | ok others =>
    obtain ⟨_, led, -⟩ := names_eq_ok read
    exact absurd (mem_names_of_target listed down apart down' led) absent

end Workspace

end Backtest.Files
