import Backtest.Proofs.Language.DefinitionLists
import Backtest.Proofs.Language.Mentions
import Backtest.Proofs.Language.RoundTrip

/-!
# Independent definitions

Two definitions next to each other may change places if they bind different names and neither mentions the
name of the other. Their order shows only in the order in which the names are listed, and nothing that
follows can see that.
-/

namespace Backtest.Language

/-- Definitions of different names of which neither mentions the other's name. -/
structure Definition.Independent (d other : Definition) : Prop where
  names : d.name ≠ other.name
  unmentioned : ∀ e, parse d.expression = .ok e → other.name ∉ e.names
  unmentioning : ∀ e, parse other.expression = .ok e → d.name ∉ e.names

/-- Ends of two lists of definitions: both bind everything, to the same values, or both stop, for whatever
reasons. -/
inductive SameEnd : Except DefinitionError Unit × Bindings → Except DefinitionError Unit × Bindings → Prop
    where
  | bound {b c : Bindings} (alike : b.Alike c) : SameEnd (.ok (), b) (.ok (), c)
  | stopped (e f : DefinitionError) (b c : Bindings) : SameEnd (.error e, b) (.error f, c)

variable {b c : Bindings}

/-- Bindings that are alike cannot be told apart by definitions. -/
theorem bindDefinitions_alike (alike : b.Alike c) (definitions : List Definition) :
    SameEnd (bindDefinitions b definitions) (bindDefinitions c definitions) := by
  induction definitions generalizing b c with
  | nil => exact .bound alike
  | cons d rest ih =>
    rw [bindDefinitions, bindDefinitions, evalText_congr fun e _ => alike.agreeOn e.names]
    cases evalText c d.expression with
    | error e => exact .stopped _ _ _ _
    | ok v => exact ih (alike.insert d.name v)

/-- The value of a text does not depend on a name that it does not mention. -/
theorem evalText_insert {text name : String} (fresh : ∀ e, parse text = .ok e → name ∉ e.names)
    (b : Bindings) (v : Value) : evalText (b.insert name v) text = evalText b text :=
  evalText_congr fun e read => Bindings.agreeOn_insert (fresh e read) b v

/-- Independent definitions in front of others may change places. -/
theorem bindDefinitions_swap {first second : Definition} (independent : first.Independent second)
    (b : Bindings) (rest : List Definition) :
    SameEnd (bindDefinitions b (first :: second :: rest)) (bindDefinitions b (second :: first :: rest)) := by
  have later := evalText_insert independent.unmentioning b
  have earlier := evalText_insert independent.unmentioned b
  simp only [bindDefinitions]
  cases hf : evalText b first.expression with
  | error e =>
    cases hs : evalText b second.expression with
    | error f => exact .stopped _ _ _ _
    | ok w =>
      simp only [earlier, hf]
      exact .stopped _ _ _ _
  | ok v =>
    cases hs : evalText b second.expression with
    | error f =>
      simp only [later, hs]
      exact .stopped _ _ _ _
    | ok w =>
      simp only [later, earlier, hf, hs]
      exact bindDefinitions_alike (.insert_comm independent.names (fun _ => rfl) v w) rest

/-- Independent definitions commute. With two of them in the other place a list of definitions succeeds or
fails as before, and if it succeeds every name has the same value, so that the entries are the same but for
their order. -/
theorem buildBindings_swap {s t : String} {first second : Definition} (hs : first.WrittenAs s)
    (ht : second.WrittenAs t) (independent : first.Independent second) (seed : Bindings)
    (before after : List String) :
    ((∃ b, buildBindings seed (before ++ [s, t] ++ after) = .ok b) ↔
      ∃ c, buildBindings seed (before ++ [t, s] ++ after) = .ok c) ∧
    ∀ b c, buildBindings seed (before ++ [s, t] ++ after) = .ok b →
      buildBindings seed (before ++ [t, s] ++ after) = .ok c →
      (∀ name, b.get? name = c.get? name) ∧ b.entries.Perm c.entries := by
  have one : splitDefinitions [s, t] = .ok [first, second] :=
    splitDefinitions_of_written (.cons hs (.cons ht .nil))
  have other : splitDefinitions [t, s] = .ok [second, first] :=
    splitDefinitions_of_written (.cons ht (.cons hs .nil))
  have ends : SameEnd (define seed (before ++ [s, t] ++ after)) (define seed (before ++ [t, s] ++ after)) := by
    simp only [define, splitDefinitions_append, one, other]
    rcases splitDefinitions before with e | ds
    · exact .stopped _ _ _ _
    rcases splitDefinitions after with e | es
    · exact .stopped _ _ _ _
    simp only [Except.map, List.append_assoc, List.cons_append, List.nil_append]
    rw [bindDefinitions_append, bindDefinitions_append]
    rcases bindDefinitions seed ds with ⟨e | _, mid⟩
    · exact .stopped _ _ _ _
    · exact bindDefinitions_swap independent mid es
  rw [buildBindings, buildBindings]
  generalize define seed (before ++ [s, t] ++ after) = one at ends ⊢
  generalize define seed (before ++ [t, s] ++ after) = other at ends ⊢
  cases ends with
  | bound alike =>
    refine ⟨⟨fun _ => ⟨_, rfl⟩, fun _ => ⟨_, rfl⟩⟩, ?_⟩
    rintro b c hb hc
    cases hb
    cases hc
    exact ⟨alike, alike.perm⟩
  | stopped e f b c => exact ⟨by simp, by simp⟩

/-- Two definitions between one that both need and one that needs the first of them. -/
theorem buildBindings_swap_between_others :
    let b := (((Bindings.empty.insert "a" (.int 1)).insert "b" (.int 1)).insert "c" (.int 2)).insert "d" (.int 1)
    buildBindings .empty (["a=1"] ++ ["b=a", "c=2"] ++ ["d=b"]) = .ok b ∧
      ∃ c, buildBindings .empty (["a=1"] ++ ["c=2", "b=a"] ++ ["d=b"]) = .ok c ∧
        (∀ name, b.get? name = c.get? name) ∧ b.entries.Perm c.entries := by
  intro b
  have a : parse "a" = .ok (.name "a") := parse_text (e := .name "a") (.name (by decide))
  have name : parse "b" = .ok (.name "b") := parse_text (e := .name "b") (.name (by decide))
  have one : parse "1" = .ok (.literal (.int 1)) :=
    parse_text (e := .literal (.int 1)) (.literal (.int 1 (by decide)))
  have two : parse "2" = .ok (.literal (.int 2)) :=
    parse_text (e := .literal (.int 2)) (.literal (.int 2 (by decide)))
  have written : ∀ s d, Definition.ofString? s = some d → d.WrittenAs s :=
    fun s d h => Definition.ofString?_eq_some_iff.1 h
  have split : splitDefinitions (["a=1"] ++ ["b=a", "c=2"] ++ ["d=b"]) =
      .ok [⟨"a", "1"⟩, ⟨"b", "a"⟩, ⟨"c", "2"⟩, ⟨"d", "b"⟩] := by decide +kernel
  have first : buildBindings .empty (["a=1"] ++ ["b=a", "c=2"] ++ ["d=b"]) = .ok b := by
    rw [buildBindings, define, split]
    simp only [bindDefinitions, evalText, one, two, a, name]
    rfl
  have independent : Definition.Independent ⟨"b", "a"⟩ ⟨"c", "2"⟩ := by
    refine ⟨by decide, fun e read => ?_, fun e read => ?_⟩
    · cases a.symm.trans read
      decide
    · cases two.symm.trans read
      decide
  have swap := buildBindings_swap (written "b=a" _ (by decide +kernel)) (written "c=2" _ (by decide +kernel))
    independent .empty ["a=1"] ["d=b"]
  obtain ⟨c, other⟩ := swap.1.1 ⟨b, first⟩
  exact ⟨first, c, other, swap.2 b c first other⟩

end Backtest.Language
