import Backtest.Language.Value

/-!
# Bindings

The names that expressions see, in the order of their first binding. Binding a name again changes its
value and not its place.
-/

namespace Backtest.Language

/-- Entries in order, with a name's value set. -/
def setEntry (name : String) (value : Value) : List (String × Value) → List (String × Value)
  | [] => [(name, value)]
  | (n, v) :: rest =>
    if n = name then (n, value) :: rest else (n, v) :: setEntry name value rest

/-- The names in a list of bindings stay in their order, and a new name comes last. -/
theorem setEntry_names (name : String) (value : Value) (l : List (String × Value)) :
    (setEntry name value l).map (·.1) =
      if name ∈ l.map (·.1) then l.map (·.1) else l.map (·.1) ++ [name] := by
  induction l with
  | nil => simp [setEntry]
  | cons e rest ih =>
    rw [setEntry]
    by_cases h : e.1 = name
    · simp [h]
    · have : name ≠ e.1 := fun hn => h hn.symm
      rw [if_neg h, List.map_cons, ih]
      by_cases hm : name ∈ rest.map (·.1)
      · simp [this, hm]
      · simp only [List.map_cons, List.mem_cons, this, hm, or_self, if_false, List.cons_append]

/-- No name is bound twice. -/
theorem setEntry_nodup {name : String} {value : Value} {l : List (String × Value)}
    (h : (l.map (·.1)).Nodup) : ((setEntry name value l).map (·.1)).Nodup := by
  rw [setEntry_names]
  split
  · exact h
  · rename_i hm
    refine List.nodup_append.2 ⟨h, by simp, fun a ha b hb => ?_⟩
    rintro rfl
    rw [List.mem_singleton] at hb
    exact hm (hb ▸ ha)

/-- Names with their values, no name twice, in the order of their first binding. -/
structure Bindings where
  entries : List (String × Value)
  distinct : (entries.map (·.1)).Nodup

namespace Bindings

/-- No bindings. -/
def empty : Bindings :=
  ⟨[], .nil⟩

instance : Inhabited Bindings := ⟨empty⟩

/-- The bound names in order. -/
def names (b : Bindings) : List String :=
  b.entries.map (·.1)

/-- The value of a name. -/
def get? (b : Bindings) (name : String) : Option Value :=
  b.entries.lookup name

/-- The bindings with a name bound to a value, in its place if it has one and else at the end. -/
def insert (b : Bindings) (name : String) (value : Value) : Bindings :=
  ⟨setEntry name value b.entries, setEntry_nodup b.distinct⟩

/-- The bindings that a list of names and values makes in order. -/
def ofList (entries : List (String × Value)) : Bindings :=
  entries.foldl (fun b e => b.insert e.1 e.2) empty

/-- Binding a name leaves the names in order and puts a new one at the end. -/
theorem names_insert (b : Bindings) (name : String) (value : Value) :
    (b.insert name value).names = if name ∈ b.names then b.names else b.names ++ [name] :=
  setEntry_names name value b.entries

/-- A name that is bound has the new value, and the others keep theirs. -/
theorem lookup_setEntry (name other : String) (value : Value) (l : List (String × Value)) :
    (setEntry name value l).lookup other =
      if other = name then some value else l.lookup other := by
  induction l with
  | nil =>
    by_cases h : other = name
    · simp [setEntry, h]
    · simp [setEntry, List.lookup_cons, beq_false_of_ne h, h]
  | cons e rest ih =>
    rw [setEntry]
    by_cases h : e.1 = name
    · rw [if_pos h, List.lookup_cons, List.lookup_cons]
      subst h
      by_cases ho : other = e.1
      · simp [ho]
      · simp [beq_false_of_ne ho, ho]
    · rw [if_neg h, List.lookup_cons, List.lookup_cons, ih]
      by_cases ho : other = e.1
      · have : other ≠ name := ho ▸ h
        simp [ho, h]
      · simp [beq_false_of_ne ho]

/-- Binding a name changes the value of that name alone. -/
theorem get?_insert (b : Bindings) (name other : String) (value : Value) :
    (b.insert name value).get? other = if other = name then some value else b.get? other :=
  lookup_setEntry name other value b.entries

end Bindings

end Backtest.Language
