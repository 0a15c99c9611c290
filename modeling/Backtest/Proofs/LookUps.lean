import Backtest.SortedMap
import Mathlib.Data.List.Sort

/-!
# Maps and their look-ups

A map is settled by what is looked up in it. Which entries a map is made from is therefore all that matters
about a list in which no key has two values, and neither their order nor their repetitions do.
-/

namespace Backtest.SortedMap

universe u v

variable {κ : Type u} {α : Type v} [Ord κ] [Std.TransOrd κ] [Std.LawfulEqOrd κ]

/-- The entries of a map are what is looked up in it. -/
theorem get?_eq_some_iff {m : SortedMap κ α} {k : κ} {a : α} : m.get? k = some a ↔ (k, a) ∈ m.entries := by
  constructor
  · intro found
    obtain ⟨e, here, rfl⟩ := Option.map_eq_some_iff.1 found
    have equal := List.find?_some here
    obtain rfl : k = e.1 := Std.LawfulEqCmp.eq_of_compare (beq_iff_eq.1 equal)
    exact List.mem_of_find?_eq_some here
  · intro here
    obtain ⟨before, after, split⟩ := List.append_of_mem here
    have sorted := m.sorted
    rw [split, List.pairwise_append] at sorted
    have smaller : (before.find? fun e => compare k e.1 == .eq) = none := by
      refine List.find?_eq_none.2 fun e he => ?_
      have less : compare e.1 k = .lt := sorted.2.2 e he (k, a) List.mem_cons_self
      rw [Std.OrientedCmp.gt_of_lt less]
      decide
    rw [get?, split, List.find?_append, smaller]
    simp

omit [Std.TransOrd κ] [Std.LawfulEqOrd κ] in
/-- The keys of a map are in order. -/
theorem keys_pairwise (m : SortedMap κ α) : m.keys.Pairwise fun j k => compare j k = .lt :=
  List.pairwise_map.2 m.sorted

/-- The keys of a map are those with a value. -/
theorem mem_keys_iff {m : SortedMap κ α} {k : κ} : k ∈ m.keys ↔ ∃ a, m.get? k = some a := by
  simp only [get?_eq_some_iff, keys, List.mem_map, Prod.exists, exists_and_right, exists_eq_right]

/-- The place of a key is the number of keys before it. -/
theorem countP_keys {m : SortedMap κ α} {k : κ} {i : Nat} (here : m.keys[i]? = some k) :
    m.keys.countP (compare · k == .lt) = i := by
  have ordered := m.keys_pairwise
  generalize m.keys = ks at here ordered
  induction ks generalizing i with
  | nil => cases here
  | cons j ks ih =>
    obtain ⟨first, ordered⟩ := List.pairwise_cons.1 ordered
    cases i with
    | zero =>
      obtain rfl : j = k := Option.some.inj here
      refine List.countP_eq_zero.2 fun l hl => ?_
      rcases List.mem_cons.1 hl with rfl | later
      · simp
      · simp [Std.OrientedCmp.gt_of_lt (first l later)]
    | succ i =>
      have later : ks[i]? = some k := here
      have before : compare j k = .lt := first k (List.mem_of_getElem? later)
      rw [List.countP_cons_of_pos (by simp [before]), ih later ordered]

/-- Maps with the same look-ups are equal. -/
theorem ext_get? {m n : SortedMap κ α} (same : ∀ k, m.get? k = n.get? k) : m = n := by
  let before (d e : κ × α) : Prop := compare d.1 e.1 = .lt
  have irrefl : Std.Irrefl before := ⟨fun e less => by
    have same : compare e.1 e.1 = .eq := Std.ReflCmp.compare_self
    cases same.symm.trans less⟩
  have asymm : Std.Asymm before := ⟨fun d e less more => by
    have greater : compare e.1 d.1 = .gt := Std.OrientedCmp.gt_of_lt less
    cases greater.symm.trans more⟩
  have entries : m.entries = n.entries := by
    refine List.Pairwise.eq_of_mem_iff m.sorted n.sorted fun e => ?_
    rw [← get?_eq_some_iff, same, get?_eq_some_iff]
  cases m
  cases n
  cases entries
  rfl

/-- In a map that is made from a list in which a key has one value, that value is found. -/
theorem get?_ofList_eq_some_iff {entries : List (κ × α)} {k : κ}
    (functional : ∀ a b, (k, a) ∈ entries → (k, b) ∈ entries → a = b) {a : α} :
    (ofList entries).get? k = some a ↔ (k, a) ∈ entries := by
  constructor
  · intro found
    exact mem_of_mem_ofList (get?_eq_some_iff.1 found)
  · intro here
    exact get?_ofList_of_forall here fun b there => functional b a there here

/-- Lists with the same entries, in which no key has two values, make the same map. -/
theorem ofList_congr {entries others : List (κ × α)} (same : ∀ e, e ∈ entries ↔ e ∈ others)
    (functional : ∀ k a b, (k, a) ∈ entries → (k, b) ∈ entries → a = b) :
    ofList entries = ofList others := by
  refine ext_get? fun k => Option.ext fun a => ?_
  rw [get?_ofList_eq_some_iff (functional k), same, get?_ofList_eq_some_iff]
  intro b c first second
  exact functional k b c ((same _).2 first) ((same _).2 second)

end Backtest.SortedMap
