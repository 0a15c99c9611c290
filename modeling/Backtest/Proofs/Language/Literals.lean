import Backtest.Proofs.Language.HostRelation
import Backtest.Proofs.Language.Quotation
import Backtest.Proofs.Language.Reading

/-!
# Evaluating literals

The literal of a value without doubles, read and evaluated. It has a value unless it holds the least whole
number, and that is the value itself up to the characters of its texts. The law is proved on the characters
of the literal, by recursion on the value, and covers the literals that fail.
-/

namespace Backtest.Language

open Backtest.Number Backtest.Text

namespace Value

mutual

/-- The parts of a value that are no lists. -/
def leaves : Value → List Value
  | list items => leavesOf items
  | v => [v]

/-- The parts of values that are no lists. -/
def leavesOf : List Value → List Value
  | [] => []
  | v :: rest => v.leaves ++ leavesOf rest

end

mutual

/-- What the literal of a value evaluates to, if to anything. That of the least whole number is the negative
of a number that does not fit. -/
def reread? : Value → Option Value
  | int n => if n = Int64.minValue then none else some (int n)
  | str s => some (str (String.ofList (s.toList.flatMap rereadChar)))
  | list items => (rereadItems? items).map list
  | v => some v

/-- What the literals of items evaluate to. -/
def rereadItems? : List Value → Option (List Value)
  | [] => some []
  | v :: rest => v.reread?.bind fun w => (rereadItems? rest).map (w :: ·)

end

mutual

/-- The tree of a literal. A negative number is the negative of another. -/
def tree : Value → Expr
  | int n => if n.toInt < 0 then .unary .neg (.literal (int (-n))) else .literal (int n)
  | list items => .list (trees items)
  | v => .literal v

/-- The trees of the literals of items. -/
def trees : List Value → List Expr
  | [] => []
  | v :: rest => v.tree :: trees rest

end

/-- No part is a double. -/
def FloatFree (leaves : List Value) : Prop :=
  ∀ x, float x ∉ leaves

/-- Two lists of values are without doubles if each is. -/
theorem floatFree_append {vs ws : List Value} :
    FloatFree (vs ++ ws) ↔ FloatFree vs ∧ FloatFree ws := by
  simp only [FloatFree, List.mem_append, not_or, forall_and]

end Value

section Rereading

/-- What a part that is no list has to be to come back. -/
def Faithful (v : Value) : Prop :=
  v ≠ .int Int64.minValue ∧ ∀ s, v = .str s → ∀ c ∈ s.toList, Kept c

mutual

/-- A value comes back exactly if all its parts do. -/
theorem reread?_eq_self_iff (v : Value) : v.reread? = some v ↔ ∀ leaf ∈ v.leaves, Faithful leaf := by
  cases v with
  | nothing => simp [Value.reread?, Value.leaves, Faithful]
  | bool b => simp [Value.reread?, Value.leaves, Faithful]
  | int n => simp [Value.reread?, Value.leaves, Faithful]
  | float x => simp [Value.reread?, Value.leaves, Faithful]
  | str s =>
    have same : String.ofList (s.toList.flatMap rereadChar) = s ↔ ∀ c ∈ s.toList, Kept c := by
      rw [← reread_eq_self_iff, String.ext_iff, String.toList_ofList]
    simp [Value.reread?, Value.leaves, Faithful, same]
  | list items =>
    have ih := rereadItems?_eq_self_iff items
    simp [Value.reread?, Value.leaves, ← ih]

/-- Items are read back as they are if and only if each leaf of them is. -/
theorem rereadItems?_eq_self_iff (items : List Value) :
    Value.rereadItems? items = some items ↔ ∀ leaf ∈ Value.leavesOf items, Faithful leaf := by
  cases items with
  | nil => simp [Value.rereadItems?, Value.leavesOf]
  | cons v rest =>
    have ihv := reread?_eq_self_iff v
    have ih := rereadItems?_eq_self_iff rest
    rw [Value.leavesOf, List.forall_mem_append, ← ihv, ← ih, Value.rereadItems?]
    cases v.reread? with
    | none => simp
    | some w => cases Value.rereadItems? rest <;> simp

end

end Rereading

section Evaluation

variable {σ : Type} (host : Host σ) (bindings : Bindings)

/-- The negative of a number is exact, unless the number is the least. -/
theorem toInt_neg_of_ne_minValue {n : Int64} (h : n ≠ Int64.minValue) : (-n).toInt = -n.toInt := by
  have other : n.toInt ≠ Int64.minValue.toInt := fun same => h (Int64.toInt_inj.1 same)
  have least := n.le_toInt
  have greatest := n.toInt_le
  rw [Int64.toInt_minValue] at other
  rw [Int64.toInt_maxValue] at greatest
  rw [Int64.toInt_neg]
  exact Int.bmod_eq_of_le (by omega) (by omega)

/-- A number that has been negated is restored by its negation, but for the least one. -/
theorem applyNegation_neg {n : Int64} (h : n ≠ Int64.minValue) :
    applyNegation (.int (-n)) = .ok (.int n) := by
  have negated := toInt_neg_of_ne_minValue h
  have fits : Fits n.toInt := ⟨n.minValue_le_toInt, n.toInt_le⟩
  rw [applyNegation, exactInt, negated, Int.neg_neg, if_pos fits, Int64.ofInt_toInt]

mutual

/-- The tree of a literal evaluates to what comes back. -/
theorem evaluate_tree {v w : Value} (h : v.reread? = some w) (s : σ) :
    evaluate host bindings w.tree s = (.ok w, s) := by
  cases v with
  | nothing =>
    cases h
    rfl
  | bool b =>
    cases h
    rfl
  | float x =>
    cases h
    rfl
  | str t =>
    cases h
    rfl
  | int n =>
    rw [Value.reread?] at h
    split at h
    · contradiction
    · rename_i other
      cases h
      rw [Value.tree]
      split
      · rw [evaluate, evaluate, EvalM.bind_apply]
        change (applyNegation (.int (-n)), s) = _
        rw [applyNegation_neg other]
      · rfl
  | list items =>
    obtain ⟨ws, all, rfl⟩ := Option.map_eq_some_iff.1 h
    rw [Value.tree, evaluate, EvalM.bind_apply, evaluateAll_trees all]
    rfl

/-- The trees of items that are read back have the items as their values. -/
theorem evaluateAll_trees {vs ws : List Value} (h : Value.rereadItems? vs = some ws) (s : σ) :
    evaluateAll host bindings (Value.trees ws) s = (.ok ws, s) := by
  cases vs with
  | nil =>
    cases h
    rfl
  | cons v rest =>
    obtain ⟨w, first, others⟩ := Option.bind_eq_some_iff.1 h
    obtain ⟨ws, more, rfl⟩ := Option.map_eq_some_iff.1 others
    rw [Value.trees, evaluateAll, EvalM.bind_apply, evaluate_tree first]
    dsimp only
    rw [EvalM.bind_apply, evaluateAll_trees more]
    rfl

end

end Evaluation

section Ends

/-- What may stand behind a literal. -/
inductive Ends : List Char → Prop where
  | nil : Ends []
  | comma (rest : List Char) : Ends (',' :: rest)
  | bracket (rest : List Char) : Ends (']' :: rest)

namespace Ends

variable {cs rest : List Char} (ends : Ends rest)

include ends

/-- Where items end every level ends. -/
theorem ended (level : Level) : level.Ended rest := by
  cases ends <;>
    cases level with
    | chain c => cases c <;> rfl
    | _ => trivial

/-- Where items end a number ends. -/
theorem endsNumber : EndsNumber rest := by
  cases ends with
  | nil => exact ⟨fun _ _ => rfl, rfl⟩
  | comma rest => exact ⟨fun _ _ => by simp [scanNumber], rfl⟩
  | bracket rest => exact ⟨fun _ _ => by simp [scanNumber], rfl⟩

/-- Where items end a word ends. -/
theorem endsWord : ∀ c ∈ rest.head?, isWordChar c = false := by
  cases ends with
  | nil => simp
  | comma rest => simp +decide
  | bracket rest => simp +decide

/-- What is read at a level in front of something that ends it, is read at every looser one. -/
theorem read?_loosen {level looser : Level} {x : Option Expr} (fronts : Fronts level cs)
    (loose : level.rank ≤ looser.rank) (read : read? level cs = x.map (·, rest)) :
    read? looser cs = x.map (·, rest) := by
  rw [← read]
  refine Language.read?_loosen fronts loose fun e rest' h between _ => ?_
  obtain ⟨_, -, same⟩ := Option.map_eq_some_iff.1 (read.symm.trans h)
  cases same
  exact ends.ended between

end Ends

end Ends

section Fronts

variable {c : Char} {cs tail : List Char}

/-- There is no symbol where another character stands in front. -/
theorem symbol?_of_head_ne {text : String} {m : Char} {ms : List Char} (first : text.toList = m :: ms)
    (front : skipBlank cs = c :: tail) (other : c ≠ m) : symbol? text cs = none := by
  rw [symbol?, front, first, afterText?, if_neg other.symm]

/-- The first character tells that a text begins with no operator and no closing mark. -/
theorem fronts_of_head (front : skipBlank cs = c :: tail) (other : c ∉ [')', ']', '-', '+', 'n']) :
    Fronts .atom cs := by
  simp only [List.mem_cons, List.not_mem_nil, or_false, not_or] at other
  obtain ⟨paren, bracket, minus, plus, n⟩ := other
  refine ⟨?_, fun _ => ⟨symbol?_of_head_ne rfl front minus, symbol?_of_head_ne rfl front plus⟩, ?_⟩
  · simp only [List.mem_cons, List.not_mem_nil, or_false]
    rintro mark (rfl | rfl)
    · exact symbol?_of_head_ne rfl front paren
    · exact symbol?_of_head_ne rfl front bracket
  · intro _
    rw [keyword?, symbol?_of_head_ne rfl front n]

/-- What a literal begins with is neither overlooked nor taken for the end of a list. -/
structure Begins (c : Char) : Prop where
  apart : c ≠ ']'
  front : ∀ cs, skipBlank (c :: cs) = c :: cs

/-- A digit begins a value. -/
theorem begins_of_isDigit (digit : c.isDigit) : Begins c := by
  have other : ∀ {d : Char}, d.isDigit = false → c ≠ d := by
    rintro d hd rfl
    exact absurd digit (by simp [hd])
  exact ⟨other (by decide), skipBlank_cons (isBlank_eq_false (.inr digit)) (other (by decide))⟩

/-- The text of a value without doubles begins as values do. -/
theorem exists_front_repr {v : Value} (floatFree : Value.FloatFree v.leaves) :
    ∃ c tail, v.repr.toList = c :: tail ∧ Begins c := by
  cases v with
  | nothing => exact ⟨'N', _, rfl, by decide, fun _ => rfl⟩
  | bool b => cases b <;> exact ⟨_, _, rfl, by decide, fun _ => rfl⟩
  | int n =>
    rw [Value.repr, String.toList_ofList, intText]
    split
    · exact ⟨'-', _, rfl, by decide, fun _ => rfl⟩
    · obtain ⟨d, ds, split, digit, -⟩ := exists_front_digits n.toInt.natAbs []
      rw [List.append_nil] at split
      exact ⟨d, ds, split, begins_of_isDigit digit⟩
  | float x => exact absurd (by simp [Value.leaves]) (floatFree x)
  | str s =>
    rw [Value.repr, quote, String.toList_ofList]
    exact ⟨'"', _, rfl, by decide, fun _ => rfl⟩
  | list items =>
    rw [Value.repr, String.toList_append, String.toList_append]
    exact ⟨'[', _, rfl, by decide, fun _ => rfl⟩

/-- So does the text of items. -/
theorem exists_front_reprItems {v : Value} (floatFree : Value.FloatFree v.leaves) (items : List Value) :
    ∃ c tail, (Value.reprItems (v :: items)).toList = c :: tail ∧ Begins c := by
  obtain ⟨c, tail, split, begins⟩ := exists_front_repr floatFree
  cases items with
  | nil => exact ⟨c, tail, split, begins⟩
  | cons w rest =>
    refine ⟨c, tail ++ ", ".toList ++ (Value.reprItems (w :: rest)).toList, ?_, begins⟩
    rw [Value.reprItems, String.toList_append, String.toList_append, split]
    rfl

/-- The literals of items up to the end of their list begin with no blank. -/
theorem skipBlank_reprItems {items : List Value} (floatFree : Value.FloatFree (Value.leavesOf items))
    (rest : List Char) :
    skipBlank ((Value.reprItems items).toList ++ ']' :: rest) =
      (Value.reprItems items).toList ++ ']' :: rest := by
  cases items with
  | nil => rfl
  | cons v items =>
    obtain ⟨c, tail, split, begins⟩ :=
      exists_front_reprItems (Value.floatFree_append.1 floatFree).1 items
    rw [split]
    exact begins.front _

end Fronts

section Reading

variable {cs rest : List Char}

/-- The words for the values that are constants. -/
theorem read?_reserved {word : String} {v : Value} (reserved : word ∈ reservedWords)
    (known : constant? word = some v) (front : skipBlank cs = word.toList ++ rest) (ends : Ends rest) :
    read? .loosest cs = (some (Expr.literal v)).map (·, rest) := by
  have atom := read?_constant (isWord_of_reserved reserved) known front ends.endsWord
  obtain ⟨_, read⟩ := read?_eq_some.1 atom
  exact ends.read?_loosen (fronts_of_atom read) (by decide) atom

/-- Digits in front of an end are read as an integer if they are one, at every level. -/
theorem Ends.read?_digits {m : Nat} {level : Level} (ends : Ends rest)
    (front : skipBlank cs = digits m ++ rest) (loose : Level.atom.rank ≤ level.rank) :
    read? level cs = ((readInt64? (digits m)).map fun n => Expr.literal (.int n)).map (·, rest) := by
  obtain ⟨d, ds, split, digit, -⟩ := exists_front_digits m rest
  have other : d ∉ [')', ']', '-', '+', 'n'] := by
    intro hd
    simp only [List.mem_cons, List.not_mem_nil, or_false] at hd
    rcases hd with rfl | rfl | rfl | rfl | rfl <;> contradiction
  refine ends.read?_loosen (fronts_of_head (front.trans split) other) loose ?_
  rw [Language.read?_digits front ends.endsNumber, Option.map_map]
  rfl

/-- A whole number. Its sign is no part of its digits, so that those of the least number do not fit. -/
theorem read?_intText (n : Int64) (front : skipBlank cs = intText n.toInt ++ rest) (ends : Ends rest) :
    read? .loosest cs = ((Value.int n).reread?.map Value.tree).map (·, rest) := by
  by_cases negative : n.toInt < 0
  · rw [intText, if_pos negative, List.cons_append] at front
    have operand : read? .sign (digits n.toInt.natAbs ++ rest) =
        ((readInt64? (digits n.toInt.natAbs)).map fun n => Expr.literal (.int n)).map (·, rest) := by
      obtain ⟨d, ds, split, -, kept⟩ := exists_front_digits n.toInt.natAbs rest
      exact ends.read?_digits (kept.trans split.symm) (by decide)
    have found : symbol? "-" cs = some (digits n.toInt.natAbs ++ rest) := by
      rw [symbol?, front]
      rfl
    refine ends.read?_loosen (fronts_of_sign front (.inl rfl)) (by decide) ?_
    rw [read?_sign cs, found]
    dsimp only
    rw [operand, Value.reread?]
    by_cases least : n = Int64.minValue
    · have large : readInt64? (digits n.toInt.natAbs) = none := by
        rw [least]
        decide +kernel
      rw [if_pos least, large]
      rfl
    · have negated : (-n).toInt = -n.toInt := toInt_neg_of_ne_minValue least
      have nonneg : 0 ≤ (-n).toInt := by omega
      have fits : readInt64? (digits n.toInt.natAbs) = some (-n) := by
        rw [← readInt64?_digits nonneg, negated, Int.natAbs_neg]
      rw [if_neg least, fits]
      simp only [Option.map_some, Value.tree, if_pos negative]
  · have nonneg : 0 ≤ n.toInt := by omega
    have other : n ≠ Int64.minValue := by
      rintro rfl
      contradiction
    rw [intText, if_neg negative] at front
    rw [ends.read?_digits front (by decide), readInt64?_digits nonneg, Value.reread?, if_neg other]
    simp only [Option.map_some, Value.tree, if_neg negative]

mutual

/-- The literal of a value is read as the tree of what comes back. -/
theorem read?_repr (v : Value) (floatFree : Value.FloatFree v.leaves) {cs rest : List Char}
    (front : skipBlank cs = v.repr.toList ++ rest) (ends : Ends rest) :
    read? .loosest cs = (v.reread?.map Value.tree).map (·, rest) := by
  cases v with
  | nothing => exact read?_reserved (by decide) rfl front ends
  | bool b =>
    cases b with
    | true => exact read?_reserved (by decide) rfl front ends
    | false => exact read?_reserved (by decide) rfl front ends
  | int n =>
    rw [Value.repr, String.toList_ofList] at front
    exact read?_intText n front ends
  | float x => exact absurd (by simp [Value.leaves]) (floatFree x)
  | str s =>
    have opening : skipBlank cs = '"' :: (s.toList.flatMap quoteChar ++ '"' :: rest) := by
      rw [front, Value.repr, quote, String.toList_ofList, quoteChars, List.cons_append,
        List.cons_append, List.append_assoc]
      rfl
    refine ends.read?_loosen (fronts_of_head opening (by decide)) (by decide) ?_
    rw [read?_string opening, scanString_quoted]
    rfl
  | list items =>
    have opening : skipBlank cs = '[' :: ((Value.reprItems items).toList ++ ']' :: rest) := by
      rw [front, Value.repr, String.toList_append, String.toList_append, List.append_assoc]
      rfl
    refine ends.read?_loosen (fronts_of_head opening (by decide)) (by decide) ?_
    rw [read?_list opening, readItems?_repr items floatFree (skipBlank_reprItems floatFree rest),
      Value.reread?]
    cases Value.rereadItems? items <;> simp [Value.tree]

/-- Items are read back from their text as their values are. -/
theorem readItems?_repr (items : List Value) (floatFree : Value.FloatFree (Value.leavesOf items))
    {cs rest : List Char} (front : skipBlank cs = (Value.reprItems items).toList ++ ']' :: rest) :
    readItems? ']' cs = ((Value.rereadItems? items).map Value.trees).map (·, rest) := by
  cases items with
  | nil => exact readItems?_of_close front
  | cons v more =>
    obtain ⟨first, others⟩ := Value.floatFree_append.1 floatFree
    have opening : ∀ tail, skipBlank cs ≠ ']' :: tail := by
      intro tail closing
      obtain ⟨c, tail', split, begins⟩ := exists_front_reprItems first more
      rw [closing, split] at front
      exact begins.apart (List.head_eq_of_cons_eq front).symm
    rw [readItems?_of_item opening, Value.rereadItems?]
    cases more with
    | nil =>
      have closing : skipBlank (']' :: rest) = ']' :: rest := rfl
      rw [read?_repr v first front (.bracket rest)]
      cases v.reread? <;> simp [closing, Value.rereadItems?, Value.trees]
    | cons w more =>
      have item : skipBlank cs =
          v.repr.toList ++ ',' :: ' ' :: ((Value.reprItems (w :: more)).toList ++ ']' :: rest) := by
        rw [front, Value.reprItems, String.toList_append, String.toList_append, List.append_assoc,
          List.append_assoc]
        rfl
      have comma : ∀ cs, skipBlank (',' :: cs) = ',' :: cs := fun _ => rfl
      have later := readItems?_repr (w :: more) others
        ((skipBlank_space _).trans (skipBlank_reprItems others rest))
      rw [read?_repr v first item (.comma _)]
      cases v.reread? with
      | none => rfl
      | some v' =>
        simp only [Option.map_some, Option.bind_some, comma, later]
        cases Value.rereadItems? (w :: more) <;> simp [Value.trees]

end

end Reading

section Values

/-- A text has a value if it is parsed as an expression with that value. -/
theorem toOption_evalText (b : Bindings) (text : String) :
    (evalText b text).toOption =
      (parse text).toOption.bind fun e => (evaluate Host.core b e ()).1.toOption := by
  rw [evalText]
  cases parse text <;> rfl

/-- The literal of a value evaluates to what comes back, if anything does. -/
theorem toOption_evalText_repr {v : Value} (floatFree : Value.FloatFree v.leaves) (b : Bindings) :
    (evalText b v.repr).toOption = v.reread? := by
  have front : skipBlank v.repr.toList = v.repr.toList ++ [] := by
    obtain ⟨c, tail, split, begins⟩ := exists_front_repr floatFree
    rw [List.append_nil, split]
    exact begins.front tail
  rw [toOption_evalText, toOption_parse, toOption_readExpr, read?_repr v floatFree front .nil]
  cases back : v.reread? with
  | none => rfl
  | some w =>
    simp only [Option.map_some, Option.bind_some, skipBlank, evaluate_tree Host.core b back]
    rfl

/-- Printing and evaluating. The literal of a value without doubles evaluates to the value exactly if no part
of it is the least whole number and no text has a character that is quoted with an escape other than those
for a newline, a tab, a double quote and a backslash. -/
theorem evalText_repr_eq_ok_iff (v : Value) (floatFree : ∀ x, .float x ∉ v.leaves) (b : Bindings) :
    evalText b v.repr = .ok v ↔
      .int Int64.minValue ∉ v.leaves ∧
        ∀ s, .str s ∈ v.leaves → ∀ c ∈ s.toList, spelling c = .plain ∨ c ∈ ['\n', '\t', '"', '\\'] := by
  have value : evalText b v.repr = .ok v ↔ v.reread? = some v := by
    rw [← toOption_evalText_repr floatFree b]
    cases evalText b v.repr <;> simp [Except.toOption]
  rw [value, reread?_eq_self_iff]
  constructor
  · intro faithful
    exact ⟨fun least => (faithful _ least).1 rfl, fun s text => (faithful _ text).2 s rfl⟩
  · rintro ⟨least, texts⟩ leaf hleaf
    exact ⟨fun same => least (same ▸ hleaf), fun s same => texts s (same ▸ hleaf)⟩

/-- A list with a text, a negative number and a list in it comes back, and one with a carriage return does
not. -/
theorem evalText_repr_of_lists :
    let v : Value := .list [.str "a\t\"b\"", .list [.int (-9223372036854775807), .nothing]]
    let lossy : Value := .list [.str "a\r"]
    v.repr = "[\"a\\t\\\"b\\\"\", [-9223372036854775807, None]]" ∧ evalText .empty v.repr = .ok v ∧
      lossy.repr = "[\"a\\r\"]" ∧ ¬evalText .empty lossy.repr = .ok lossy := by
  intro v lossy
  have kept : "a\t\"b\"".toList.all (decide <| Kept ·) := by decide +kernel
  have lost : ¬Kept '\r' := by decide +kernel
  refine ⟨by decide +kernel, ?_, by decide +kernel, ?_⟩
  · refine (evalText_repr_eq_ok_iff v (by simp [v, Value.leaves, Value.leavesOf]) .empty).2 ⟨?_, ?_⟩
    · simp [v, Value.leaves, Value.leavesOf]
    · intro s hs
      have text : s = "a\t\"b\"" := by simpa [v, Value.leaves, Value.leavesOf] using hs
      exact fun c hc => of_decide_eq_true (List.all_eq_true.1 kept c (text ▸ hc))
  · rw [evalText_repr_eq_ok_iff lossy (by simp [lossy, Value.leaves, Value.leavesOf]) .empty]
    rintro ⟨-, texts⟩
    exact lost (texts "a\r" (by simp [lossy, Value.leaves, Value.leavesOf]) '\r' (by simp))

end Values

end Backtest.Language
