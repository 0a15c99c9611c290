import Backtest.Files.Workspace

/-!
# Workspaces that grow

Making sure that a file is there puts entries into a workspace and takes none away (`within_ensureFile`). What
could be read before reads the same afterwards (`readText_within`), and making sure once more changes nothing
(`ensureFile_again`).
-/

namespace Backtest

/-- A step of a failing computation that succeeds as a whole succeeds itself. -/
theorem exists_of_bind_eq_ok {ε α β : Type} {x : Except ε α} {f : α → Except ε β} {b : β}
    (h : x.bind f = .ok b) : ∃ a, x = .ok a ∧ f a = .ok b := by
  cases x with
  | error e => cases h
  | ok a => exact ⟨a, rfl, h⟩

end Backtest

namespace Backtest.Files.Workspace

/-- Where one workspace has a directory, the other has one. -/
def KeepsDirectories (w v : Workspace) : Prop :=
  ∀ place, w.get? place = some .directory → v.get? place = some .directory

/-- Where something stands in one workspace, the same stands in the other. -/
def Within (w v : Workspace) : Prop :=
  ∀ place e, w.get? place = some e → v.get? place = some e

/-- A place with nothing or a file at it, which is where files can be put. -/
def Free (w : Workspace) (place : List String) : Prop :=
  ∀ e, w.get? place = some e → ∃ content, e = .file content

variable {w v u : Workspace}

/-- Every workspace is within itself. -/
theorem Within.refl (w : Workspace) : w.Within w :=
  fun _ _ h => h

/-- Growth in two steps is growth. -/
theorem Within.trans (first : w.Within v) (second : v.Within u) : w.Within u :=
  fun place e h => second place e (first place e h)

/-- A workspace that has grown has kept its directories. -/
theorem Within.directories (grows : w.Within v) : w.KeepsDirectories v :=
  fun place h => grows place _ h

section Put

variable {place : List String} {e : Entry}

/-- What is put at a free place stands there. -/
theorem get?_put_self (free : w.Free place) : (w.put place e).get? place = some e := by
  unfold Free get? at free
  unfold get? put
  split at free
  · obtain ⟨_, no⟩ := free _ rfl
    cases no
  split at free
  · obtain ⟨_, no⟩ := free _ rfl
    cases no
  split at free
  · obtain ⟨_, no⟩ := free _ rfl
    cases no
  · rename_i given sink full
    rw [if_neg given, if_neg sink, if_neg full, SortedMap.get?_insert_self]

/-- What is put at a place changes nothing elsewhere. -/
theorem get?_put_of_ne {other : List String} (h : other ≠ place) :
    (w.put place e).get? other = w.get? other := by
  unfold get? put
  rw [SortedMap.get?_insert_of_ne _ h]

/-- What is put at a free place takes no directory away. -/
theorem keepsDirectories_put (free : w.Free place) : w.KeepsDirectories (w.put place e) := by
  intro other directory
  by_cases here : other = place
  · subst here
    obtain ⟨_, no⟩ := free _ directory
    cases no
  · rw [get?_put_of_ne here, directory]

/-- What is put where there is nothing takes nothing away. -/
theorem within_put (unused : w.get? place = none) : w.Within (w.put place e) := by
  intro other x known
  by_cases here : other = place
  · subst here
    rw [unused] at known
    cases known
  · rw [get?_put_of_ne here, known]

/-- To put a file where it stands changes nothing. -/
theorem put_self {content : ByteArray} (present : w.get? place = some (.file content)) :
    w.put place (.file content) = w := by
  have entry : w.entries.get? place = some (.file content) := by
    unfold get? at present
    repeat' split at present
    all_goals first | cases present | exact present
  unfold put
  rw [SortedMap.insert_self entry]

end Put

/-! ### Following paths -/

/-- What a name stands for is what stands at the place that it leads to. -/
theorem lookUp_eq_ok {place : List String} {name : String} {entry : Option Entry}
    (h : w.lookUp place name = .ok entry) : entry = w.get? (step place name) := by
  unfold lookUp at h
  split at h
  · cases h
  · cases h
    rfl

/-- A name that can be looked up can be looked up in any other workspace, with what that has there. -/
theorem lookUp_keeps {place : List String} {name : String} {entry : Option Entry}
    (h : w.lookUp place name = .ok entry) (v : Workspace) :
    v.lookUp place name = .ok (v.get? (step place name)) := by
  unfold lookUp at h ⊢
  split at h
  · cases h
  · rename_i short
    rw [if_neg short]

/-- Where one workspace can be entered, another that keeps its directories can. -/
theorem enter_keeps (keeps : w.KeepsDirectories v) {place last : List String} {steps : List String}
    (h : w.enter place steps = .ok last) : v.enter place steps = .ok last := by
  induction steps generalizing place with
  | nil => exact h
  | cons name rest ih =>
    rw [enter] at h ⊢
    cases found : w.lookUp place name with
    | error fault =>
      rw [found] at h
      cases h
    | ok entry =>
      have entry_eq := lookUp_eq_ok found
      rw [found] at h
      rw [lookUp_keeps found v]
      match entry with
      | some .directory =>
        rw [keeps _ entry_eq.symm]
        exact ih h
      | some (.file _) | some .sink | some .full | none => cases h

/-- What steps lead to is what stands at their place. -/
theorem find_eq_ok {steps : List String} {t : Target} (h : w.find steps = .ok t) :
    t.entry = w.get? t.place := by
  unfold find at h
  split at h
  · cases h
    rfl
  · obtain ⟨place, -, h⟩ := exists_of_bind_eq_ok h
    obtain ⟨entry, found, h⟩ := exists_of_bind_eq_ok h
    cases h
    exact lookUp_eq_ok found

/-- Steps lead to the same place while no directory is lost. -/
theorem find_keeps (keeps : w.KeepsDirectories v) {steps : List String} {t : Target}
    (h : w.find steps = .ok t) : v.find steps = .ok ⟨t.place, v.get? t.place⟩ := by
  unfold find at h ⊢
  split at h
  · cases h
    rfl
  · obtain ⟨place, entered, h⟩ := exists_of_bind_eq_ok h
    obtain ⟨entry, found, h⟩ := exists_of_bind_eq_ok h
    cases h
    rw [enter_keeps keeps entered]
    simp only [bind, Except.bind, lookUp_keeps found v]
    rfl

/-- A path leads where its steps do; it may end in a slash unless a file or device is there. -/
theorem target_eq_ok_iff {path : String} {t : Target} :
    w.target path = .ok t ↔
      checkPath path = .ok () ∧ ∃ route, Route.ofPath? path = some route ∧
        w.find route.steps = .ok t ∧ (route.directory → t.entry = none ∨ t.entry = some .directory) := by
  constructor
  · intro h
    unfold target at h
    obtain ⟨_, checked, h⟩ := exists_of_bind_eq_ok h
    split at h
    · cases h
    · rename_i route hroute
      obtain ⟨found, hfound, h⟩ := exists_of_bind_eq_ok h
      refine ⟨checked, route, hroute, ?_⟩
      split at h
      · rename_i nothing
        cases h
        exact ⟨hfound, fun _ => .inl nothing⟩
      · rename_i directory
        cases h
        exact ⟨hfound, fun _ => .inr directory⟩
      · split at h
        · cases h
        · rename_i plain
          cases h
          exact ⟨hfound, fun slash => absurd slash plain⟩
  · rintro ⟨checked, route, hroute, found, kind⟩
    obtain ⟨place, entry⟩ := t
    rw [target, checked]
    simp only [bind, Except.bind, hroute, found]
    cases entry with
    | none => rfl
    | some e =>
      cases e with
      | directory => rfl
      | file | sink | full =>
        have plain : ¬route.directory := fun slash => by simpa using kind slash
        exact if_neg plain

/-- What stands at a path stays at the path. -/
theorem target_within (grows : w.Within v) {path : String} {place : List String} {e : Entry}
    (h : w.target path = .ok ⟨place, some e⟩) : v.target path = .ok ⟨place, some e⟩ := by
  obtain ⟨checked, route, hroute, found, kind⟩ := target_eq_ok_iff.1 h
  have there := find_keeps grows.directories found
  rw [grows place e (find_eq_ok found).symm] at there
  exact target_eq_ok_iff.2 ⟨checked, route, hroute, there, kind⟩

/-- In a workspace that has grown a file has the bytes that it had. -/
theorem readBytes_within (grows : w.Within v) {path : String} {content : ByteArray}
    (h : w.readBytes path = .ok content) : v.readBytes path = .ok content := by
  unfold readBytes at h ⊢
  obtain ⟨⟨place, entry⟩, found, h⟩ := exists_of_bind_eq_ok h
  cases entry with
  | none => cases h
  | some e =>
    rw [target_within grows found]
    exact h

/-- A text that could be read reads the same in a workspace that has grown. -/
theorem readText_within (grows : w.Within v) {path text : String} (h : w.readText path = .ok text) :
    v.readText path = .ok text := by
  unfold readText at h ⊢
  obtain ⟨content, read, h⟩ := exists_of_bind_eq_ok h
  rw [readBytes_within grows read]
  exact h

/-! ### Making directories and files -/

/-- Steps lead to a directory if and only if one is found at their end. -/
theorem leadsToDirectory_iff {steps : List String} :
    w.leadsToDirectory steps ↔ ∃ place, w.find steps = .ok ⟨place, some .directory⟩ := by
  unfold leadsToDirectory
  split
  · rename_i place found
    exact ⟨fun _ => ⟨place, found⟩, fun _ => rfl⟩
  · rename_i other
    exact ⟨fun no => (nomatch no), fun ⟨place, found⟩ => absurd found (other place)⟩

/-- In a workspace that has grown steps lead to a directory as before. -/
theorem leadsToDirectory_within (grows : w.Within v) {steps : List String}
    (h : w.leadsToDirectory steps) : v.leadsToDirectory steps := by
  obtain ⟨place, found⟩ := leadsToDirectory_iff.1 h
  have there := find_keeps grows.directories found
  rw [grows.directories place (find_eq_ok found).symm] at there
  exact leadsToDirectory_iff.2 ⟨place, there⟩

/-- A directory is made where there is nothing. -/
theorem makeDirectory_eq_ok {steps : List String} {made : Workspace}
    (h : w.makeDirectory steps = .ok made) : w.Within made ∧ made.leadsToDirectory steps := by
  unfold makeDirectory at h
  obtain ⟨_, -, h⟩ := exists_of_bind_eq_ok h
  obtain ⟨⟨place, entry⟩, found, h⟩ := exists_of_bind_eq_ok h
  cases entry with
  | some e => cases h
  | none =>
    cases h
    have unused : w.get? place = none := (find_eq_ok found).symm
    have free : w.Free place := fun e here => by
      rw [unused] at here
      cases here
    have there := find_keeps (keepsDirectories_put (e := .directory) free) found
    rw [get?_put_self free] at there
    exact ⟨within_put unused, leadsToDirectory_iff.2 ⟨place, there⟩⟩

/-- Where there is a directory none is made, and whether that is for a bad path does not hang on the
workspace. -/
theorem makeDirectory_of_leads {steps : List String} (leads : w.leadsToDirectory steps) :
    ∃ fault, w.makeDirectory steps = .error fault ∧
      (fault = .notFound → ∀ v : Workspace, v.makeDirectory steps = .error .notFound) := by
  obtain ⟨place, found⟩ := leadsToDirectory_iff.1 leads
  unfold makeDirectory
  rw [found]
  rcases checkPath (pathOfSteps steps) with fault | _
  · exact ⟨fault, rfl, fun same _ => by rw [same]; rfl⟩
  · exact ⟨.alreadyExists, rfl, fun no => by cases no⟩

/-- Makes a directory, unless it is there, in a directory that should be there. -/
def finishDirectory (w : Workspace) (steps : List String) : Except IoFault Unit × Workspace :=
  match w.makeDirectory steps with
  | .ok made => (.ok (), made)
  | .error fault => if w.leadsToDirectory steps then (.ok (), w) else (.error fault, w)

/-- Finishing a directory takes nothing away. -/
theorem within_finishDirectory (w : Workspace) (steps : List String) :
    w.Within (w.finishDirectory steps).2 := by
  unfold finishDirectory
  split
  · rename_i made h
    exact (makeDirectory_eq_ok h).1
  · split <;> exact .refl w

/-- When a directory is finished its steps lead to it. -/
theorem leads_of_finishDirectory {steps : List String} {made : Workspace}
    (h : w.finishDirectory steps = (.ok (), made)) : made.leadsToDirectory steps := by
  unfold finishDirectory at h
  split at h
  · rename_i hmade
    cases h
    exact (makeDirectory_eq_ok hmade).2
  · split at h
    · rename_i leads
      cases h
      exact leads
    · cases h

/-- A directory that is there is finished without a change. -/
theorem finishDirectory_of_leads {steps : List String} (leads : w.leadsToDirectory steps) :
    w.finishDirectory steps = (.ok (), w) := by
  obtain ⟨fault, failed, -⟩ := makeDirectory_of_leads leads
  rw [finishDirectory, failed]
  exact if_pos leads

/-- A directory is made at once, or behind its parents if they are missing. -/
theorem makeDirectories_cons (w : Workspace) (name : String) (parents : List String) :
    w.makeDirectories (name :: parents) =
      match w.makeDirectory (name :: parents).reverse with
      | .error .notFound =>
        match w.makeDirectories parents with
        | (.ok (), made) => made.finishDirectory (name :: parents).reverse
        | (.error fault, made) => (.error fault, made)
      | _ => w.finishDirectory (name :: parents).reverse := by
  rw [makeDirectories]
  rfl

/-- Making directories takes nothing away. -/
theorem within_makeDirectories (w : Workspace) (names : List String) :
    w.Within (w.makeDirectories names).2 := by
  induction names with
  | nil => exact .refl w
  | cons name parents ih =>
    rw [makeDirectories_cons]
    split
    · split
      · rename_i made hmade
        rw [hmade] at ih
        exact ih.trans (within_finishDirectory made _)
      · rename_i fault made hmade
        rw [hmade] at ih
        exact ih
    · exact within_finishDirectory w _

/-- Directories that have been made are not made once more. -/
theorem makeDirectories_again {names : List String} {made : Workspace}
    (h : w.makeDirectories names = (.ok (), made)) (grows : made.Within v) :
    v.makeDirectories names = (.ok (), v) := by
  induction names generalizing made with
  | nil => rfl
  | cons name parents ih =>
    rw [makeDirectories_cons] at h ⊢
    have leads : made.leadsToDirectory (name :: parents).reverse := by
      split at h
      · split at h
        · exact leads_of_finishDirectory h
        · cases h
      · exact leads_of_finishDirectory h
    have leads := leadsToDirectory_within grows leads
    obtain ⟨fault, failed, unchanging⟩ := makeDirectory_of_leads leads
    rw [failed]
    split
    · rename_i same
      cases same
      rw [unchanging rfl w] at h
      cases hparents : w.makeDirectories parents with
      | mk result between =>
        rw [hparents] at h
        cases result with
        | error fault => cases h
        | ok _ =>
          have later : between.Within v := by
            have own := within_finishDirectory between (name :: parents).reverse
            rw [show between.finishDirectory (name :: parents).reverse = (.ok (), made) from h] at own
            exact own.trans grows
          rw [ih hparents later]
          exact finishDirectory_of_leads leads
    · exact finishDirectory_of_leads leads

section Writing

variable {path : String} {place : List String} {content : ByteArray} {route : Route}

/-- The path of a file has no slash in its end. -/
theorem plain_of_checkFilePath (h : w.checkFilePath path = .ok ())
    (hroute : Route.ofPath? path = some route) : route.directory = false := by
  obtain ⟨steps, directory⟩ := route
  cases directory with
  | false => rfl
  | true =>
    unfold checkFilePath at h
    rw [hroute] at h
    obtain ⟨_, -, h⟩ := exists_of_bind_eq_ok h
    cases h

/-- A path without a slash in its end is that of a file. -/
theorem checkFilePath_of_plain (w : Workspace) (hroute : Route.ofPath? path = some route)
    (plain : route.directory = false) : w.checkFilePath path = .ok () := by
  obtain ⟨steps, directory⟩ := route
  cases plain
  rw [checkFilePath, hroute]

/-- A file is written where the path leads, and where there is nothing or a file. -/
theorem writable_eq_some (h : w.writable path = .ok (some (place, content))) :
    (∃ entry, w.target path = .ok ⟨place, entry⟩) ∧ w.checkFilePath path = .ok () ∧
      (w.get? place = some (.file content) ∨ w.get? place = none) := by
  unfold writable at h
  obtain ⟨_, checked, h⟩ := exists_of_bind_eq_ok h
  obtain ⟨_, checkedFile, h⟩ := exists_of_bind_eq_ok h
  obtain ⟨⟨there, entry⟩, led, h⟩ := exists_of_bind_eq_ok h
  obtain ⟨-, route, -, found, -⟩ := target_eq_ok_iff.1 led
  have stands := find_eq_ok found
  match entry with
  | some (.file _) =>
    cases h
    exact ⟨⟨_, led⟩, checkedFile, .inl stands.symm⟩
  | none =>
    cases h
    exact ⟨⟨_, led⟩, checkedFile, .inr stands.symm⟩
  | some .directory | some .sink | some .full => cases h

/-- A file is written where there is nothing or a file. -/
theorem free_of_writable (h : w.writable path = .ok (some (place, content))) : w.Free place := by
  intro e here
  rcases (writable_eq_some h).2.2 with file | nothing
  · rw [file] at here
    cases here
    exact ⟨content, rfl⟩
  · rw [nothing] at here
    cases here

/-- To write what a file holds takes nothing away. -/
theorem within_put_content (h : w.writable path = .ok (some (place, content))) :
    w.Within (w.put place (.file content)) := by
  rcases (writable_eq_some h).2.2 with file | nothing
  · rw [put_self file]
    exact .refl w
  · exact within_put nothing

/-- What has been written at a path is found there. -/
theorem target_put (h : w.writable path = .ok (some (place, content))) (written : ByteArray) :
    (w.put place (.file written)).target path = .ok ⟨place, some (.file written)⟩ := by
  obtain ⟨⟨entry, led⟩, checkedFile, -⟩ := writable_eq_some h
  obtain ⟨checked, route, hroute, found, -⟩ := target_eq_ok_iff.1 led
  have free := free_of_writable h
  have there := find_keeps (keepsDirectories_put (e := .file written) free) found
  rw [get?_put_self free] at there
  have plain := plain_of_checkFilePath checkedFile hroute
  exact target_eq_ok_iff.2 ⟨checked, route, hroute, there, fun slash => by simp [plain] at slash⟩

/-- What has been written at a path is read there. -/
theorem readBytes_put (h : w.writable path = .ok (some (place, content))) (written : ByteArray) :
    (w.put place (.file written)).readBytes path = .ok written := by
  rw [readBytes, target_put h]
  rfl

/-- What has been written at a path can be written again. -/
theorem writable_put (h : w.writable path = .ok (some (place, content))) (written : ByteArray) :
    (w.put place (.file written)).writable path = .ok (some (place, written)) := by
  have led := target_put h written
  obtain ⟨checked, route, hroute, -, -⟩ := target_eq_ok_iff.1 led
  have plain := plain_of_checkFilePath (writable_eq_some h).2.1 hroute
  rw [writable, checked, checkFilePath_of_plain _ hroute plain, led]
  rfl

end Writing

/-- Making sure of a file takes nothing away. -/
theorem within_ensureFile (w : Workspace) (path : String) : w.Within (w.ensureFile path).2 := by
  unfold ensureFile
  cases Route.ofPath? path with
  | none => exact .refl w
  | some route =>
    have grows := within_makeDirectories w route.steps.dropLast.reverse
    simp only
    split
    · rename_i fault made hmade
      rw [hmade] at grows
      exact grows
    rename_i made hmade
    rw [hmade] at grows
    split
    · rename_i place content writable
      exact grows.trans (within_put_content writable)
    · exact grows
    · exact grows

/-- A file that is there is made sure of without a change. -/
theorem ensureFile_again {path : String} {made : Workspace}
    (h : w.ensureFile path = (.ok (), made)) : made.ensureFile path = (.ok (), made) := by
  unfold ensureFile at h ⊢
  cases hroute : Route.ofPath? path with
  | none =>
    rw [hroute] at h
    cases h
  | some route =>
    rw [hroute] at h
    simp only at h ⊢
    rcases hmade : w.makeDirectories route.steps.dropLast.reverse with ⟨fault | _, between⟩
    · rw [hmade] at h
      cases h
    rw [hmade] at h
    simp only at h
    split at h
    · rename_i place content writable
      obtain rfl := (Prod.mk.inj h).2
      rw [makeDirectories_again hmade (within_put_content writable)]
      simp only [writable_put writable, put_self (get?_put_self (free_of_writable writable))]
    · rename_i device
      obtain rfl := (Prod.mk.inj h).2
      rw [makeDirectories_again hmade (.refl _)]
      simp only [device]
    · cases h

end Backtest.Files.Workspace
