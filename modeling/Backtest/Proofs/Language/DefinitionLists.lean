import Backtest.Language.Definition
import Mathlib.Data.List.Forall2
import Mathlib.Data.List.Induction

/-!
# Lists of definitions

What a list of definition strings comes to. The strings are split first, and one that is no definition
refuses them all. The definitions are then bound in order up to the first without a value: a name keeps the
place of its first binding and has the value of its last, and what was bound before a failure stays bound.
-/

namespace Backtest.Language

namespace Definition

/-- Whether a string can be split into a name and an expression: it has one equals sign, and what stands
before that is an identifier once its blanks are dropped. -/
def WellFormed (define : String) : Prop :=
  define.toList.count '=' = 1 ∧
    isIdentifier (String.ofList (Text.trimBlanks (define.toList.takeWhile (· != '='))))

/-- How a definition is written: its name, with blanks around it, the only equals sign, its expression. -/
structure WrittenAs (d : Definition) (define : String) : Prop where
  front : ∃ front, define.toList = front ++ '=' :: d.expression.toList ∧
    d.name = String.ofList (Text.trimBlanks front) ∧ '=' ∉ front
  single : '=' ∉ d.expression.toList
  identifier : isIdentifier d.name

/-- A text with a mark in it once, split there. -/
theorem split_at_mark {cs : List Char} {mark : Char} (once : cs.count mark = 1) :
    cs = cs.takeWhile (· != mark) ++ mark :: (cs.dropWhile (· != mark)).drop 1 ∧
      mark ∉ cs.takeWhile (· != mark) ∧ mark ∉ (cs.dropWhile (· != mark)).drop 1 := by
  induction cs with
  | nil => contradiction
  | cons c cs ih =>
    by_cases h : c = mark
    · subst h
      have none : c ∉ cs := by
        rw [List.count_cons_self] at once
        exact List.count_eq_zero.1 (by omega)
      simp [none]
    · rw [List.count_cons_of_ne h] at once
      obtain ⟨split, before, after⟩ := ih once
      have other : (c != mark) = true := by simpa using h
      rw [List.takeWhile_cons, List.dropWhile_cons, other, if_pos rfl, if_pos rfl, List.cons_append,
        ← split]
      exact ⟨rfl, by simp [Ne.symm h, before], after⟩

/-- A string is split into the definition that it is a writing of. -/
theorem ofString?_eq_some_iff {define : String} {d : Definition} :
    ofString? define = some d ↔ d.WrittenAs define := by
  constructor
  · intro h
    unfold ofString? at h
    simp only at h
    split at h
    · rename_i once
      obtain ⟨split, before, after⟩ := split_at_mark once
      split at h
      · rename_i identifier
        cases h
        refine ⟨⟨_, ?_, rfl, before⟩, ?_, identifier⟩
        · rw [String.toList_ofList]
          exact split
        · rwa [String.toList_ofList]
      · cases h
    · cases h
  · rintro ⟨⟨front, split, name, before⟩, after, identifier⟩
    have front_ne : ∀ c ∈ front, (c != '=') = true := by
      rintro c hc
      rw [bne_iff_ne]
      rintro rfl
      exact before hc
    have once : define.toList.count '=' = 1 := by
      rw [split, List.count_append, List.count_cons_self, List.count_eq_zero.2 before,
        List.count_eq_zero.2 after]
    have taken : define.toList.takeWhile (· != '=') = front := by
      rw [split, List.takeWhile_append_of_pos front_ne]
      simp
    have dropped : (define.toList.dropWhile (· != '=')).drop 1 = d.expression.toList := by
      rw [split, List.dropWhile_append_of_pos front_ne]
      simp
    obtain ⟨n, e⟩ := d
    dsimp only at name identifier dropped
    subst name
    simp only [ofString?, once, if_pos, taken, dropped, identifier, String.ofList_toList]

/-- A text is well formed if and only if it is a definition. -/
theorem wellFormed_iff {define : String} : WellFormed define ↔ ∃ d, ofString? define = some d := by
  unfold WellFormed ofString?
  simp only
  split
  · rename_i once
    split
    · rename_i identifier
      simp [once, identifier]
    · rename_i other
      simp [other]
  · rename_i other
    simp [other]

end Definition

section Splitting

/-- Texts are split into definitions in two parts as in one. -/
theorem splitDefinitions_append (xs ys : List String) :
    splitDefinitions (xs ++ ys) =
      match splitDefinitions xs with
      | .ok ds => (splitDefinitions ys).map (ds ++ ·)
      | .error e => .error e := by
  rw [splitDefinitions, List.mapM_append, ← splitDefinitions, ← splitDefinitions]
  cases splitDefinitions xs with
  | error e => rfl
  | ok ds => cases splitDefinitions ys <;> rfl

/-- Strings that all are definitions are split into these. -/
theorem splitDefinitions_of_written {defines : List String} {definitions : List Definition}
    (written : List.Forall₂ Definition.WrittenAs definitions defines) :
    splitDefinitions defines = .ok definitions := by
  induction written with
  | nil => rfl
  | @cons d define definitions defines first _ ih =>
    rw [splitDefinitions, List.mapM_cons, Definition.ofString?_eq_some_iff.2 first]
    rw [splitDefinitions] at ih
    rw [ih]
    rfl

/-- What is written as a definition is well formed. -/
theorem wellFormed_of_written {defines : List String} {definitions : List Definition}
    (written : List.Forall₂ Definition.WrittenAs definitions defines) :
    ∀ s ∈ defines, Definition.WellFormed s := by
  induction written with
  | nil => simp
  | @cons d define definitions defines first _ ih =>
    have wellFormed := Definition.wellFormed_iff.2 ⟨d, Definition.ofString?_eq_some_iff.2 first⟩
    exact List.forall_mem_cons.2 ⟨wellFormed, ih⟩

/-- The first string that is no definition refuses them all. -/
theorem splitDefinitions_of_malformed {before after : List String} {define : String}
    (earlier : ∀ s ∈ before, Definition.WellFormed s) (malformed : ¬Definition.WellFormed define) :
    splitDefinitions (before ++ define :: after) = .error (.malformed define) := by
  induction before with
  | nil =>
    have none : Definition.ofString? define = none := by
      rw [Definition.wellFormed_iff, ← Option.isSome_iff_exists] at malformed
      simpa using malformed
    rw [List.nil_append, splitDefinitions, List.mapM_cons, none]
    rfl
  | cons s before ih =>
    obtain ⟨first, rest⟩ := List.forall_mem_cons.1 earlier
    obtain ⟨d, split⟩ := Definition.wellFormed_iff.1 first
    have ih := ih rest
    rw [splitDefinitions] at ih
    rw [List.cons_append, splitDefinitions, List.mapM_cons, split, ih]
    rfl

/-- Either all strings are definitions, or there is a first one that is not. -/
theorem written_or_malformed (defines : List String) :
    (∃ definitions, List.Forall₂ Definition.WrittenAs definitions defines) ∨
      ∃ before define after, defines = before ++ define :: after ∧
        (∀ s ∈ before, Definition.WellFormed s) ∧ ¬Definition.WellFormed define := by
  induction defines with
  | nil => exact .inl ⟨[], .nil⟩
  | cons s rest ih =>
    by_cases first : Definition.WellFormed s
    · rcases ih with ⟨definitions, written⟩ | ⟨before, define, after, rfl, earlier, malformed⟩
      · obtain ⟨d, split⟩ := Definition.wellFormed_iff.1 first
        exact .inl ⟨d :: definitions, .cons (Definition.ofString?_eq_some_iff.1 split) written⟩
      · exact .inr ⟨s :: before, define, after, rfl, List.forall_mem_cons.2 ⟨first, earlier⟩, malformed⟩
    · exact .inr ⟨[], s, rest, rfl, by simp, first⟩

end Splitting

section Binding

variable {seed last : Bindings} {definitions : List Definition}

/-- Definitions are bound in two parts as in one. -/
theorem bindDefinitions_append (seed : Bindings) (xs ys : List Definition) :
    bindDefinitions seed (xs ++ ys) =
      match bindDefinitions seed xs with
      | (.ok (), mid) => bindDefinitions mid ys
      | (.error e, mid) => (.error e, mid) := by
  induction xs generalizing seed with
  | nil => rfl
  | cons d rest ih =>
    rw [List.cons_append, bindDefinitions, bindDefinitions]
    cases evalText seed d.expression with
    | error e => rfl
    | ok v => exact ih (seed.insert d.name v)

/-- One more element at the end. -/
theorem eraseDups_concat (xs : List String) (x : String) :
    (xs ++ [x]).eraseDups = if x ∈ xs then xs.eraseDups else xs.eraseDups ++ [x] := by
  rw [List.eraseDups_append]
  by_cases h : x ∈ xs
  · simp [List.removeAll, h]
  · have alone : [x].eraseDups = [x] := by simp [List.eraseDups_cons]
    simp [List.removeAll, h, alone]

/-- What definitions bind that all have a value where they stand: the names that are new stand behind the
others in the order of their first definition, and a name has the value of its last. -/
structure Binds (seed : Bindings) (definitions : List Definition) (last : Bindings) : Prop where
  distinct : last.names.Nodup
  names : last.names =
    seed.names ++ ((definitions.map (·.name)).filter (· ∉ seed.names)).eraseDups
  value : ∀ before d after, definitions = before ++ d :: after →
    ∃ v, evalText (bindDefinitions seed before).2 d.expression = .ok v ∧
      ((∀ other ∈ after, other.name ≠ d.name) → last.get? d.name = some v)
  kept : ∀ name, (∀ d ∈ definitions, d.name ≠ name) → last.get? name = seed.get? name

/-- Without definitions nothing is bound. -/
theorem Binds.nil (seed : Bindings) : Binds seed [] seed where
  distinct := seed.distinct
  names := by simp
  value := by simp
  kept := fun _ _ => rfl

/-- One more definition that has a value. -/
theorem Binds.snoc {d : Definition} {v : Value} (binds : Binds seed definitions last)
    (bound : (bindDefinitions seed definitions).2 = last)
    (value : evalText last d.expression = .ok v) :
    Binds seed (definitions ++ [d]) (last.insert d.name v) where
  distinct := (last.insert d.name v).distinct
  names := by
    rw [Bindings.names_insert, binds.names, List.map_append, List.filter_append, List.map_singleton]
    by_cases seeded : d.name ∈ seed.names
    · simp [seeded]
    · have new : [d.name].filter (· ∉ seed.names) = [d.name] := by simp [seeded]
      rw [new, eraseDups_concat]
      by_cases earlier : d.name ∈ (definitions.map (·.name)).filter (· ∉ seed.names)
      · rw [if_pos earlier, if_pos (List.mem_append_right _ (List.mem_eraseDups.2 earlier))]
      · rw [if_neg earlier, if_neg, List.append_assoc]
        simp only [List.mem_append, List.mem_eraseDups, seeded, earlier, or_self, not_false_eq_true]
  value := by
    intro before x after split
    rcases List.eq_nil_or_concat' after with rfl | ⟨after, y, rfl⟩
    · obtain ⟨rfl, same⟩ := List.append_inj' split rfl
      cases same
      refine ⟨v, bound ▸ value, fun _ => ?_⟩
      rw [Bindings.get?_insert, if_pos rfl]
    · rw [← List.cons_append, ← List.append_assoc] at split
      obtain ⟨rfl, same⟩ := List.append_inj' split rfl
      cases same
      obtain ⟨w, there, latest⟩ := binds.value before x after rfl
      refine ⟨w, there, fun others => ?_⟩
      rw [List.forall_mem_append] at others
      rw [Bindings.get?_insert, if_neg, latest others.1]
      exact fun same => others.2 d (by simp) same.symm
  kept := by
    intro name others
    rw [List.forall_mem_append] at others
    rw [Bindings.get?_insert, if_neg, binds.kept name others.1]
    exact fun same => others.2 d (by simp) same.symm

/-- Definitions that all have a value where they stand bind in order. -/
theorem binds_of_bindDefinitions (h : bindDefinitions seed definitions = (.ok (), last)) :
    Binds seed definitions last := by
  induction definitions using List.reverseRecOn generalizing last with
  | nil =>
    cases h
    exact .nil seed
  | append_singleton definitions d ih =>
    rw [bindDefinitions_append] at h
    rcases before : bindDefinitions seed definitions with ⟨e | _, mid⟩
    · rw [before] at h
      cases h
    · rw [before] at h
      dsimp only at h
      rw [bindDefinitions] at h
      split at h
      · rename_i v value
        cases h
        exact (ih before).snoc (congrArg Prod.snd before) value
      · cases h

/-- What stops the binding of definitions: nothing, or the first of those that are left. -/
def Stops (last : Bindings) : List Definition → Except DefinitionError Unit → Prop
  | [], result => result = .ok ()
  | d :: _, result =>
    ∃ e, evalText last d.expression = .error e ∧ result = .error (.evaluation d.name e)

/-- Definitions are bound up to the first without a value. -/
theorem bindDefinitions_stops (seed : Bindings) (definitions : List Definition) :
    ∃ bound rest result last, definitions = bound ++ rest ∧
      bindDefinitions seed bound = (.ok (), last) ∧
      bindDefinitions seed definitions = (result, last) ∧ Stops last rest result := by
  induction definitions generalizing seed with
  | nil => exact ⟨[], [], .ok (), seed, rfl, rfl, rfl, rfl⟩
  | cons d rest ih =>
    cases value : evalText seed d.expression with
    | error e =>
      refine ⟨[], d :: rest, .error (.evaluation d.name e), seed, rfl, rfl, ?_, e, value, rfl⟩
      rw [bindDefinitions, value]
    | ok v =>
      obtain ⟨bound, left, result, last, rfl, through, whole, stops⟩ := ih (seed.insert d.name v)
      refine ⟨d :: bound, left, result, last, rfl, ?_, ?_, stops⟩
      · rw [bindDefinitions, value]
        exact through
      · rw [bindDefinitions, value]
        exact whole

/-- First position, last value, clean failure. If some string is no definition, the first such string is the
error and nothing is bound. Else the definitions are bound in order up to the first without a value under the
bindings made so far, which is the error if there is one. The names that they bind are new names behind those
that were there, in the order of their first definition; each has the value that its last definition has
under the bindings made before it, and a name without a definition has the value that it had. -/
theorem define_binds_in_order (seed : Bindings) (defines : List String) :
    (∃ before refused after, defines = before ++ refused :: after ∧
      (∀ s ∈ before, Definition.WellFormed s) ∧ ¬Definition.WellFormed refused ∧
      define seed defines = (.error (.malformed refused), seed)) ∨
    ((∀ s ∈ defines, Definition.WellFormed s) ∧
      ∃ bound rest result last, List.Forall₂ Definition.WrittenAs (bound ++ rest) defines ∧
        define seed defines = (result, last) ∧ Binds seed bound last ∧
        Stops last rest result) := by
  rcases written_or_malformed defines with
    ⟨definitions, written⟩ | ⟨before, refused, after, rfl, earlier, malformed⟩
  · obtain ⟨bound, rest, result, last, rfl, through, whole, stops⟩ :=
      bindDefinitions_stops seed definitions
    refine .inr ⟨wellFormed_of_written written, bound, rest, result, last, written, ?_,
      binds_of_bindDefinitions through, stops⟩
    rw [define, splitDefinitions_of_written written]
    exact whole
  · refine .inl ⟨before, refused, after, rfl, earlier, malformed, ?_⟩
    rw [define, splitDefinitions_of_malformed earlier malformed]

end Binding

end Backtest.Language
