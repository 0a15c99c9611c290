/-!
# Sorted maps

Maps from keys to values that are kept as lists in increasing order of the keys. Each map has one
list, so two maps that answer every look-up alike are equal.
-/

namespace Backtest

universe u v

/-- A finite map, as its entries in strictly increasing order of the keys. -/
structure SortedMap (κ : Type u) (α : Type v) [Ord κ] where
  entries : List (κ × α)
  sorted : entries.Pairwise fun a b => compare a.1 b.1 = .lt

namespace SortedMap

variable {κ : Type u} {α : Type v} [Ord κ]

/-- The map without entries. -/
def empty : SortedMap κ α :=
  ⟨[], .nil⟩

instance : Inhabited (SortedMap κ α) := ⟨empty⟩

/-- The value of a key. -/
def get? (m : SortedMap κ α) (k : κ) : Option α :=
  (m.entries.find? fun e => compare k e.1 == .eq).map (·.2)

/-- Whether a key has a value. -/
def contains (m : SortedMap κ α) (k : κ) : Bool :=
  (m.get? k).isSome

/-- The keys in increasing order. -/
def keys (m : SortedMap κ α) : List κ :=
  m.entries.map (·.1)

/-- The values in the order of their keys. -/
def values (m : SortedMap κ α) : List α :=
  m.entries.map (·.2)

/-- Entries in order, with the value of a key set. -/
def insertEntry (k : κ) (a : α) : List (κ × α) → List (κ × α)
  | [] => [(k, a)]
  | (j, b) :: rest =>
    match compare k j with
    | .lt => (k, a) :: (j, b) :: rest
    | .eq => (k, a) :: rest
    | .gt => (j, b) :: insertEntry k a rest

/-- After an insertion the entries are the new one and old ones. -/
theorem key_of_mem_insertEntry {k : κ} {a : α} {l : List (κ × α)} {e : κ × α}
    (h : e ∈ insertEntry k a l) : e = (k, a) ∨ e ∈ l := by
  induction l with
  | nil => simpa [insertEntry] using h
  | cons d rest ih =>
    rw [insertEntry] at h
    split at h
    · simpa using h
    · rcases List.mem_cons.1 h with h | h
      · exact .inl h
      · exact .inr (List.mem_cons_of_mem _ h)
    · rcases List.mem_cons.1 h with h | h
      · exact .inr (h ▸ List.mem_cons_self)
      · exact (ih h).imp_right (List.mem_cons_of_mem _)

variable [Std.TransOrd κ] [Std.LawfulEqOrd κ]

/-- An insertion keeps the keys in order. -/
theorem insertEntry_sorted {k : κ} {a : α} {l : List (κ × α)}
    (h : l.Pairwise fun a b => compare a.1 b.1 = .lt) :
    (insertEntry k a l).Pairwise fun a b => compare a.1 b.1 = .lt := by
  induction l with
  | nil => simp [insertEntry]
  | cons d rest ih =>
    obtain ⟨j, b⟩ := d
    obtain ⟨hd, hrest⟩ := List.pairwise_cons.1 h
    rw [insertEntry]
    split
    · rename_i hlt
      refine List.pairwise_cons.2 ⟨fun e he => ?_, h⟩
      rcases List.mem_cons.1 he with rfl | he
      · exact hlt
      · exact Std.TransCmp.lt_trans hlt (hd e he)
    · rename_i heq
      have := Std.LawfulEqCmp.eq_of_compare heq
      subst this
      exact List.pairwise_cons.2 ⟨fun e he => hd e he, hrest⟩
    · rename_i hgt
      refine List.pairwise_cons.2 ⟨fun e he => ?_, ih hrest⟩
      rcases key_of_mem_insertEntry he with rfl | he
      · exact Std.OrientedCmp.lt_of_gt hgt
      · exact hd e he

/-- The map with the value of a key set. -/
def insert (m : SortedMap κ α) (k : κ) (a : α) : SortedMap κ α :=
  ⟨insertEntry k a m.entries, insertEntry_sorted m.sorted⟩

omit [Std.TransOrd κ] [Std.LawfulEqOrd κ] in
/-- The map without a key. -/
def erase (m : SortedMap κ α) (k : κ) : SortedMap κ α :=
  ⟨m.entries.filter fun e => compare k e.1 != .eq, m.sorted.filter _⟩

/-- The map of a list of entries; of several for one key the last counts. -/
def ofList (entries : List (κ × α)) : SortedMap κ α :=
  entries.foldl (fun m e => m.insert e.1 e.2) empty

omit [Std.TransOrd κ] [Std.LawfulEqOrd κ] in
/-- The map with every value replaced by a function of its key and itself. -/
def mapValues {β : Type v} (m : SortedMap κ α) (f : κ → α → β) : SortedMap κ β :=
  ⟨m.entries.map fun e => (e.1, f e.1 e.2), List.pairwise_map.2 m.sorted⟩

omit [Std.TransOrd κ] in
/-- After an insertion the key has the new value, and the other keys have their old ones. -/
theorem find?_insertEntry (k j : κ) (a : α) (l : List (κ × α)) :
    ((insertEntry k a l).find? fun e => compare j e.1 == .eq) =
      if compare j k == .eq then some (k, a) else l.find? fun e => compare j e.1 == .eq := by
  induction l with
  | nil => simp [insertEntry, List.find?_cons]; split <;> simp_all
  | cons d rest ih =>
    obtain ⟨i, b⟩ := d
    rw [insertEntry]
    split
    · simp only [List.find?_cons]
      split <;> simp_all
    · rename_i heq
      have := Std.LawfulEqCmp.eq_of_compare heq
      subst this
      simp only [List.find?_cons]
      split <;> simp_all
    · rename_i hgt
      simp only [List.find?_cons, ih]
      by_cases hk : compare j k = .eq
      · have := Std.LawfulEqCmp.eq_of_compare hk
        subst this
        simp [hgt]
      · simp [hk]

/-- Setting a key changes the look-up of that key alone. -/
theorem get?_insert (m : SortedMap κ α) (k j : κ) (a : α) :
    (m.insert k a).get? j = if compare j k == .eq then some a else m.get? j := by
  unfold get? insert
  rw [find?_insertEntry]
  split <;> rfl

/-- An inserted key has the value that it was given. -/
theorem get?_insert_self (m : SortedMap κ α) (k : κ) (a : α) : (m.insert k a).get? k = some a := by
  simp [get?_insert]

/-- An insertion changes nothing of the other keys. -/
theorem get?_insert_of_ne (m : SortedMap κ α) {k j : κ} (h : j ≠ k) (a : α) :
    (m.insert k a).get? j = m.get? j := by
  rw [get?_insert, if_neg]
  exact fun same => h (Std.LawfulEqCmp.eq_of_compare (beq_iff_eq.1 same))

/-- To insert what a key has changes nothing. -/
theorem insertEntry_self {k : κ} {a : α} {l : List (κ × α)}
    (sorted : l.Pairwise fun a b => compare a.1 b.1 = .lt)
    (found : (l.find? fun e => compare k e.1 == .eq).map (·.2) = some a) : insertEntry k a l = l := by
  induction l with
  | nil => cases found
  | cons d rest ih =>
    obtain ⟨j, b⟩ := d
    obtain ⟨first, sorted⟩ := List.pairwise_cons.1 sorted
    rw [List.find?_cons] at found
    rw [insertEntry]
    cases order : compare k j with
    | eq =>
      obtain rfl := Std.LawfulEqCmp.eq_of_compare order
      rw [order] at found
      cases found
      rfl
    | gt =>
      rw [order] at found
      exact congrArg _ (ih sorted found)
    | lt =>
      rw [order] at found
      replace found : (rest.find? fun e => compare k e.1 == .eq).map (·.2) = some a := found
      obtain ⟨e, here, -⟩ := Option.map_eq_some_iff.1 found
      have equal := List.find?_some here
      have same : k = e.1 := Std.LawfulEqCmp.eq_of_compare (beq_iff_eq.1 equal)
      have after : compare j k = .lt := same ▸ first e (List.mem_of_find?_eq_some here)
      rw [Std.OrientedCmp.gt_of_lt after] at order
      cases order

/-- Setting a key to the value that it has changes nothing. -/
theorem insert_self {m : SortedMap κ α} {k : κ} {a : α} (h : m.get? k = some a) : m.insert k a = m := by
  unfold insert
  congr
  exact insertEntry_self m.sorted h

/-- Setting a key adds it to the keys that have a value. -/
theorem contains_insert (m : SortedMap κ α) (k j : κ) (a : α) :
    (m.insert k a).contains j = true ↔ j = k ∨ m.contains j = true := by
  unfold contains
  rw [get?_insert]
  by_cases h : compare j k = .eq
  · simp [Std.LawfulEqCmp.eq_of_compare h]
  · have hne : j ≠ k := fun hjk => h (hjk ▸ Std.ReflCmp.compare_self)
    simp [h, hne]

omit [Std.TransOrd κ] [Std.LawfulEqOrd κ] in
/-- The empty map has no keys. -/
@[simp] theorem get?_empty (j : κ) : (empty : SortedMap κ α).get? j = none :=
  rfl

/-- After some insertions a key has the last value that it was given, or its old one. -/
theorem get?_foldl_insert (entries : List (κ × α)) (m : SortedMap κ α) (k : κ) :
    (entries.foldl (fun m e => m.insert e.1 e.2) m).get? k =
      ((entries.filter fun e => compare k e.1 == .eq).getLast?.map (·.2)).or (m.get? k) := by
  induction entries generalizing m with
  | nil => rfl
  | cons e rest ih =>
    rw [List.foldl_cons, ih, get?_insert, List.filter_cons]
    split
    · rw [List.getLast?_cons]
      cases (rest.filter fun e => compare k e.1 == .eq).getLast? <;> rfl
    · rfl

/-- Of several entries for one key the last is looked up. -/
theorem get?_ofList (entries : List (κ × α)) (k : κ) :
    (ofList entries).get? k = (entries.filter fun e => compare k e.1 == .eq).getLast?.map (·.2) := by
  rw [ofList, get?_foldl_insert, get?_empty, Option.or_none]

/-- A key whose entries all have one value is looked up with it. -/
theorem get?_ofList_of_forall {entries : List (κ × α)} {k : κ} {a : α} (here : (k, a) ∈ entries)
    (same : ∀ b, (k, b) ∈ entries → b = a) : (ofList entries).get? k = some a := by
  have mem : (k, a) ∈ entries.filter fun e => compare k e.1 == .eq := by simp [here]
  rw [get?_ofList]
  obtain ⟨e, last⟩ : ∃ e, (entries.filter fun e => compare k e.1 == .eq).getLast? = some e :=
    ⟨_, List.getLast?_eq_some_getLast (List.ne_nil_of_mem mem)⟩
  obtain ⟨there, equal⟩ := List.mem_filter.1 (List.mem_of_getLast? last)
  obtain rfl : k = e.1 := Std.LawfulEqCmp.eq_of_compare (beq_iff_eq.1 equal)
  rw [last, Option.map_some, same e.2 there]

/-- After some insertions every entry is an old one or has been inserted. -/
theorem mem_foldl_insert {entries : List (κ × α)} {m : SortedMap κ α} {e : κ × α}
    (h : e ∈ (entries.foldl (fun m e => m.insert e.1 e.2) m).entries) : e ∈ m.entries ∨ e ∈ entries := by
  induction entries generalizing m with
  | nil => exact .inl h
  | cons d rest ih =>
    rcases ih h with inside | later
    · rcases key_of_mem_insertEntry inside with rfl | here
      · exact .inr List.mem_cons_self
      · exact .inl here
    · exact .inr (List.mem_cons_of_mem _ later)

/-- The entries of a map come from its list. -/
theorem mem_of_mem_ofList {entries : List (κ × α)} {e : κ × α} (h : e ∈ (ofList entries).entries) :
    e ∈ entries := by
  rcases mem_foldl_insert h with none | here
  · cases none
  · exact here

omit [Std.LawfulEqOrd κ] in
/-- A key behind all others is inserted in the end. -/
theorem insertEntry_of_lt {k : κ} {a : α} {l : List (κ × α)} (h : ∀ e ∈ l, compare e.1 k = .lt) :
    insertEntry k a l = l ++ [(k, a)] := by
  induction l with
  | nil => rfl
  | cons d rest ih =>
    have first : compare k d.1 = .gt := Std.OrientedCmp.gt_of_lt (h d List.mem_cons_self)
    rw [insertEntry, first, List.cons_append, ← ih fun e he => h e (List.mem_cons_of_mem _ he)]

/-- Entries in order are inserted one behind the other. -/
theorem entries_foldl_insert {entries : List (κ × α)} {m : SortedMap κ α}
    (sorted : (m.entries ++ entries).Pairwise fun a b => compare a.1 b.1 = .lt) :
    (entries.foldl (fun m e => m.insert e.1 e.2) m).entries = m.entries ++ entries := by
  induction entries generalizing m with
  | nil => exact (List.append_nil _).symm
  | cons d rest ih =>
    have last : (m.insert d.1 d.2).entries = m.entries ++ [d] :=
      insertEntry_of_lt fun e he =>
        (List.pairwise_append.1 sorted).2.2 e he d List.mem_cons_self
    rw [List.foldl_cons, ih, last, List.append_assoc, List.singleton_append]
    rwa [last, List.append_assoc, List.singleton_append]

/-- Entries in order are those of their map. -/
theorem entries_ofList {entries : List (κ × α)}
    (sorted : entries.Pairwise fun a b => compare a.1 b.1 = .lt) : (ofList entries).entries = entries :=
  entries_foldl_insert sorted

omit [Std.TransOrd κ] in
/-- Leaving out a key changes the look-up of that key alone. -/
theorem get?_erase (m : SortedMap κ α) (k j : κ) :
    (m.erase k).get? j = if compare j k == .eq then none else m.get? j := by
  unfold get? erase
  rw [List.find?_filter]
  split
  · rename_i heq
    have := Std.LawfulEqCmp.eq_of_compare (beq_iff_eq.1 heq)
    subst this
    simp
  · rename_i hne
    congr 2
    funext e
    by_cases h : compare j e.1 = .eq
    · have := Std.LawfulEqCmp.eq_of_compare h
      subst this
      have hk : compare k e.1 ≠ .eq := fun hk =>
        hne (beq_iff_eq.2 (Std.LawfulEqCmp.eq_of_compare hk ▸ h))
      simp [hk]
    · simp [h]

omit [Std.TransOrd κ] in
/-- The values of a map are looked up as they are replaced. -/
theorem get?_mapValues {β : Type v} (m : SortedMap κ α) (f : κ → α → β) (j : κ) :
    (m.mapValues f).get? j = (m.get? j).map (f j) := by
  unfold get? mapValues
  rw [List.find?_map]
  cases h : m.entries.find? fun e => compare j e.1 == .eq with
  | none => simp only [Function.comp_def, h, Option.map_none]
  | some e =>
    have found := List.find?_some h
    have same : j = e.1 := Std.LawfulEqCmp.eq_of_compare (beq_iff_eq.1 found)
    simp only [Function.comp_def, h, Option.map_some]
    rw [same]

end SortedMap

end Backtest
