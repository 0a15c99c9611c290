import Backtest.Proofs.Language.Descent
import Backtest.Proofs.Language.Tokens

/-!
# Reading tokens

The descent of the reader, one rule for each way in which a level is read, stated on tokens instead of
characters.
-/

namespace Backtest.Language

/-- Tokens are read at a level as an expression, with some tokens left behind it, whatever blanks stand
before them. -/
def Reads (level : Level) (ts : List String) (e : Expr) (rest : List String) : Prop :=
  ∀ cs, skipBlank cs = skipBlank (spaced ts) → ∃ h, readLevel level cs = .ok (e, ⟨spaced rest, h⟩)

/-- Tokens behind the operands so far go on with a chain. -/
def ReadsMore (c : Chain) (left : Expr) (ts : List String) (e : Expr) (rest : List String) : Prop :=
  ∃ h, readChain c left (spaced ts) = .ok (e, ⟨spaced rest, h⟩)

/-- Tokens are read at a level if and only if the level answers with the expression. -/
theorem reads_iff {level : Level} {ts rest : List String} {e : Expr} :
    Reads level ts e rest ↔
      ∀ cs, skipBlank cs = skipBlank (spaced ts) → read? level cs = some (e, spaced rest) :=
  forall₂_congr fun _ _ => read?_eq_some.symm

/-- Tokens go on with a chain if and only if the chain answers so. -/
theorem readsMore_iff {c : Chain} {left e : Expr} {ts rest : List String} :
    ReadsMore c left ts e rest ↔ readMore? c left (spaced ts) = some (e, spaced rest) :=
  readMore?_eq_some.symm

section Rules

variable {c : Chain} {ts mid rest : List String} {left right e : Expr} {op : BinaryOp}

/-- A chain that ends. -/
theorem ReadsMore.stop (h : chainOp? c (spaced ts) = none) : ReadsMore c left ts left ts :=
  readsMore_iff.2 (readMore?_of_none h left)

/-- A chain with one more operand. -/
theorem ReadsMore.step (level : op.level = .chain c) (operand : Reads c.operand ts right mid)
    (more : ReadsMore c (.binary op left right) mid e rest) :
    ReadsMore c left (op.symbol :: ts) e rest := by
  rw [readsMore_iff] at more ⊢
  rw [readMore?_of_some (chainOp?_spaced level ts), reads_iff.1 operand _ rfl]
  exact more

/-- A chain is read as an operand and what goes on with it. -/
theorem Reads.chain (operand : Reads c.operand ts left mid) (more : ReadsMore c left mid e rest) :
    Reads (.chain c) ts e rest := by
  rw [reads_iff] at operand ⊢
  intro cs hcs
  rw [read?_chain, operand cs hcs]
  exact readsMore_iff.1 more

/-- A negation is read behind its keyword. -/
theorem Reads.not (operand : Reads .negation ts e rest) :
    Reads .negation (UnaryOp.not.symbol :: ts) (.unary .not e) rest := by
  rw [reads_iff] at operand ⊢
  intro cs hcs
  have found : keyword? "not" cs = some (spaced ts) := by
    rw [keyword?_congr hcs]
    cases ts <;> rfl
  simp only [read?_negation, found, operand _ rfl, Option.map_some]

/-- A negative is read behind its sign. -/
theorem Reads.neg (operand : Reads .sign ts e rest) :
    Reads .sign (UnaryOp.neg.symbol :: ts) (.unary .neg e) rest := by
  rw [reads_iff] at operand ⊢
  intro cs hcs
  have found : symbol? "-" cs = some (spaced ts) := by
    rw [symbol?_congr hcs]
    rfl
  simp only [read?_sign cs, found, operand _ rfl, Option.map_some]

/-- A comparison is read as two sums around its operator, if no other operator stands behind. -/
theorem Reads.compare (level : op.level = .comparison)
    (hleft : Reads (.chain .sum) mid left (op.symbol :: ts))
    (hright : Reads (.chain .sum) ts right rest) (ended : comparisonOp? (spaced rest) = none) :
    Reads .comparison mid (.binary op left right) rest := by
  rw [reads_iff] at hleft hright ⊢
  intro cs hcs
  simp only [read?_comparison, hleft cs hcs, comparisonOp?_spaced level, hright _ rfl, ended,
    Option.bind_some]

/-- A power is read as an atom and a signed exponent. -/
theorem Reads.pow (hleft : Reads .atom mid left ("**" :: ts)) (hright : Reads .sign ts right rest) :
    Reads .power mid (.binary (.arithmetic .pow) left right) rest := by
  rw [reads_iff] at hleft hright ⊢
  intro cs hcs
  have found : symbol? "**" (spaced ("**" :: ts)) = some (spaced ts) := rfl
  simp only [read?_power, hleft cs hcs, found, hright _ rfl, Option.bind_some, Option.map_some]

end Rules

section Levels

/-- The level that binds next more tightly. -/
def Level.below : Level → Level
  | .chain c => c.operand
  | .negation => .comparison
  | .comparison => .chain .sum
  | .sign => .power
  | .power => .atom
  | .atom => .atom

/-- The next tighter level has a rank less by one. -/
theorem Level.rank_below (level : Level) : level.below.rank = level.rank - 1 := by
  cases level with
  | chain c => cases c <;> rfl
  | _ => rfl

/-- The loosest level has the highest rank. -/
theorem Level.rank_le_loosest (level : Level) : level.rank ≤ Level.loosest.rank := by
  cases level with
  | chain c => cases c <;> decide
  | _ => decide

/-- A level is told by its rank. -/
theorem Level.eq_of_rank_eq {a b : Level} (h : a.rank = b.rank) : a = b := by
  rcases a with (_ | _ | _ | _) | _ | _ | _ | _ | _ <;>
    rcases b with (_ | _ | _ | _) | _ | _ | _ | _ | _ <;> first | rfl | contradiction

end Levels

section Fronts

/-- What a text that is read at a level does not begin with. -/
structure Fronts (level : Level) (cs : List Char) : Prop where
  opens : ∀ mark ∈ [")", "]"], symbol? mark cs = none
  unsigned : level.rank ≤ Level.power.rank → symbol? "-" cs = none ∧ symbol? "+" cs = none
  affirmed : level.rank ≤ Level.comparison.rank → keyword? "not" cs = none

variable {cs : List Char} {x : Expr × Shorter cs}

/-- An atom begins with no closing bracket and no sign. -/
theorem symbol?_eq_none_of_atom (h : readLevel .atom cs = .ok x) :
    ∀ mark ∈ [")", "]", "-", "+"], symbol? mark cs = none := by
  intro mark hmark
  cases found : symbol? mark cs with
  | none => rfl
  | some rest =>
    have front := skipBlank_of_symbol? found
    rw [readLevel] at h
    simp only [List.mem_cons, List.not_mem_nil, or_false] at hmark
    rcases hmark with rfl | rfl | rfl | rfl
    all_goals
      split at h
      · contradiction
      · rename_i c tail hc
        rw [hc] at front
        cases front
        simp +decide at h

/-- Reading an atom that begins as a word does. -/
theorem read?_word {cs tail word rest : List Char} {c : Char} (front : skipBlank cs = c :: tail)
    (start : isWordStart c) (span : spanWord (c :: tail) = (word, rest)) :
    read? .atom cs =
      match constant? (String.ofList word) with
      | some value => some (.literal value, rest)
      | none =>
        if isOperatorWord (String.ofList word) then none
        else
          match skipBlank rest with
          | [] => some (.name (String.ofList word), rest)
          | d :: after =>
            if d = '(' then
              (readItems? ')' after).map fun (args, last) => (.call (String.ofList word) args, last)
            else some (.name (String.ofList word), rest) := by
  obtain ⟨number, quote, paren, bracket, -⟩ := isWordStart_apart start
  rw [read?_atom, front, atFront?, if_neg (Bool.not_eq_true _ ▸ number), if_neg quote, if_neg paren,
    if_neg bracket, if_pos start, span]
  rfl

/-- An atom begins with no negation. -/
theorem keyword?_eq_none_of_atom (h : readLevel .atom cs = .ok x) : keyword? "not" cs = none := by
  cases found : keyword? "not" cs with
  | none => rfl
  | some rest =>
    have front : skipBlank cs = 'n' :: 'o' :: 't' :: rest :=
      skipBlank_of_symbol? (symbol?_of_keyword? found)
    have word : IsWord "not" := isWord_of_reserved (by simp [reservedWords])
    have span : spanWord ('n' :: 'o' :: 't' :: rest) = ("not".toList, rest) :=
      spanWord_append word.chars (word_of_keyword? found)
    obtain ⟨e, after⟩ := x
    have none := read?_word front (by decide) span
    rw [read?, h, taken_ok, String.ofList_toList] at none
    simp [constant?, isOperatorWord] at none

/-- No prefix operator stands in front of an atom. -/
theorem fronts_of_atom (h : readLevel .atom cs = .ok x) : Fronts .atom cs where
  opens mark hmark := symbol?_eq_none_of_atom h mark (List.mem_append_left ["-", "+"] hmark)
  unsigned _ := ⟨symbol?_eq_none_of_atom h "-" (by simp), symbol?_eq_none_of_atom h "+" (by simp)⟩
  affirmed _ := keyword?_eq_none_of_atom h

/-- A text that begins with a sign. -/
theorem fronts_of_sign {c : Char} {rest : List Char} (front : skipBlank cs = c :: rest)
    (h : c = '-' ∨ c = '+') : Fronts .sign cs where
  opens mark hmark := by
    simp only [List.mem_cons, List.not_mem_nil, or_false] at hmark
    rw [symbol?, front]
    rcases h with rfl | rfl <;> rcases hmark with rfl | rfl <;> rfl
  unsigned h := absurd h (by decide)
  affirmed _ := by
    rw [keyword?, symbol?, front]
    rcases h with rfl | rfl <;> rfl

/-- A level whose texts begin with those of a tighter one. -/
theorem Fronts.loosen {level looser : Level} (fronts : Fronts level cs) (h : level.rank ≤ looser.rank) :
    Fronts looser cs where
  opens := fronts.opens
  unsigned tight := fronts.unsigned (Nat.le_trans h tight)
  affirmed tight := fronts.affirmed (Nat.le_trans h tight)

/-- What is read at a level begins as at the next tighter one, unless with an operator. -/
theorem Fronts.of_below {level : Level} (h : readLevel level cs = .ok x)
    (below : ∀ y, readLevel level.below cs = .ok y → Fronts level.below cs) : Fronts level cs := by
  have loosen : ∀ y, readLevel level.below cs = .ok y → Fronts level cs := fun y hy =>
    (below y hy).loosen (by rw [level.rank_below]; exact Nat.sub_le ..)
  cases level with
  | chain c =>
    rw [readLevel] at h
    split at h
    · contradiction
    · rename_i first
      exact loosen _ first
  | negation =>
    rw [readLevel] at h
    split at h
    · rename_i rest found
      have front := skipBlank_of_symbol? (symbol?_of_keyword? found)
      refine ⟨fun mark hmark => ?_, fun tight => absurd tight (by decide),
        fun tight => absurd tight (by decide)⟩
      simp only [List.mem_cons, List.not_mem_nil, or_false] at hmark
      rw [symbol?, front]
      rcases hmark with rfl | rfl <;> rfl
    · exact loosen _ h
  | comparison =>
    rw [readLevel] at h
    split at h
    · contradiction
    · rename_i first
      exact loosen _ first
  | sign =>
    rw [readLevel] at h
    split at h
    · rename_i rest found
      exact fronts_of_sign (skipBlank_of_symbol? found) (.inl rfl)
    · split at h
      · rename_i rest found
        exact fronts_of_sign (skipBlank_of_symbol? found) (.inr rfl)
      · exact loosen _ h
  | power =>
    rw [readLevel] at h
    split at h
    · contradiction
    · rename_i first
      exact loosen _ first
  | atom => exact fronts_of_atom h

/-- None of a looser level stands in front of what a level reads. -/
theorem fronts_of_readLevel {level : Level} (h : readLevel level cs = .ok x) : Fronts level cs := by
  induction distance : level.rank generalizing level x with
  | zero =>
    obtain rfl : level = .atom := Level.eq_of_rank_eq distance
    exact fronts_of_atom h
  | succ n ih =>
    refine .of_below h fun y hy => ih hy ?_
    rw [level.rank_below, distance, Nat.add_sub_cancel]

end Fronts

section Looseness

variable {level : Level} {cs : List Char}

/-- A level answers as the next tighter one does, when none of its own operators stands before or behind what
that reads. -/
theorem read?_eq_below (fronts : Fronts level.below cs)
    (ended : ∀ e rest, read? level.below cs = some (e, rest) → level.Ended rest) :
    read? level cs = read? level.below cs := by
  cases level with
  | chain c =>
    rw [read?_chain]
    cases h : read? c.operand cs with
    | none => exact h.symm
    | some read =>
      have none : chainOp? c read.2 = none := ended _ _ h
      simp only [Option.bind_some, readMore?_of_none none]
      exact h.symm
  | negation =>
    rw [read?_negation, fronts.affirmed (by decide)]
    rfl
  | comparison =>
    rw [read?_comparison]
    cases h : read? (.chain .sum) cs with
    | none => exact h.symm
    | some read =>
      have none : comparisonOp? read.2 = none := ended _ _ h
      simp only [Option.bind_some, none]
      exact h.symm
  | sign =>
    obtain ⟨minus, plus⟩ := fronts.unsigned (by decide)
    rw [read?_sign, minus, plus]
    rfl
  | power =>
    rw [read?_power]
    cases h : read? .atom cs with
    | none => exact h.symm
    | some read =>
      have none : symbol? "**" read.2 = none := ended _ _ h
      simp only [Option.bind_some, none]
      exact h.symm
  | atom => rfl

/-- Every looser level answers as a level does, when nothing goes on with what that reads. -/
theorem read?_loosen {looser : Level} (fronts : Fronts level cs) (loose : level.rank ≤ looser.rank)
    (ended : ∀ e rest, read? level cs = some (e, rest) →
      ∀ between : Level, between.rank ≤ looser.rank → between.Ended rest) :
    read? looser cs = read? level cs := by
  induction distance : looser.rank - level.rank generalizing looser with
  | zero =>
    have same : level.rank = looser.rank := by omega
    rw [Level.eq_of_rank_eq same]
  | succ n ih =>
    have below := looser.rank_below
    have tighter : read? looser.below cs = read? level cs :=
      ih (by omega) (fun e rest h between hb => ended e rest h between (by omega)) (by omega)
    rw [read?_eq_below (fronts.loosen (by omega)), tighter]
    rw [tighter]
    exact fun e rest h => ended e rest h looser (Nat.le_refl _)

variable {ts rest : List String} {e : Expr}

/-- What may follow a level ends every tighter one. -/
theorem Follows.ended {looser : Level} (follows : Follows looser ts) (h : level.rank ≤ looser.rank) :
    level.Ended (spaced ts) :=
  (follows.mono h).excludes.1

/-- What is read at a level is read at every looser one. -/
theorem Reads.loosen {looser : Level} (h : Reads level ts e rest) (loose : level.rank ≤ looser.rank)
    (follows : Follows looser rest) : Reads looser ts e rest := by
  rw [reads_iff]
  intro cs hcs
  obtain ⟨_, read⟩ := h cs hcs
  have tight := reads_iff.1 h cs hcs
  rw [read?_loosen (fronts_of_readLevel read) loose, tight]
  rw [tight]
  rintro _ _ ⟨⟩ between hb
  exact follows.ended hb

end Looseness

section Atoms

/-- Tokens up to a closing mark are read as items. -/
def ReadsItems (close : Char) (ts : List String) (items : List Expr) (rest : List String) : Prop :=
  ∃ h, readItems close (spaced ts) = .ok (items, ⟨spaced rest, h⟩)

/-- Tokens are read as items if and only if these are answered. -/
theorem readsItems_iff {close : Char} {ts rest : List String} {items : List Expr} :
    ReadsItems close ts items rest ↔ readItems? close (spaced ts) = some (items, spaced rest) :=
  readItems?_eq_some.symm

variable {word : String} {ts mid rest : List String} {e : Expr} {items args : List Expr}
  {value : Value}

/-- A word that is a constant. -/
theorem read?_constant {cs rest : List Char} (h : IsWord word) (known : constant? word = some value)
    (front : skipBlank cs = word.toList ++ rest) (stop : ∀ c ∈ rest.head?, isWordChar c = false) :
    read? .atom cs = some (.literal value, rest) := by
  have span := spanWord_append h.chars stop
  obtain ⟨c, tail, split, start⟩ := h.start
  rw [split, List.cons_append] at front span
  rw [read?_word front start span, ← split, String.ofList_toList, known]

/-- A reserved word is read as its value. -/
theorem Reads.constant (h : IsWord word) (known : constant? word = some value) :
    Reads .atom (word :: rest) (.literal value) rest := by
  rw [reads_iff]
  intro cs hcs
  rw [spaced_cons, skipBlank_space, h.skipBlank_append] at hcs
  exact read?_constant h known hcs (isWordChar_head_spaced rest)

/-- An identifier is read as a name, where no call follows. -/
theorem Reads.name {level : Level} (h : isIdentifier word) (follows : Follows level rest) :
    Reads .atom (word :: rest) (.name word) rest := by
  rw [reads_iff]
  intro cs hcs
  obtain ⟨unknown, ordinary⟩ := not_reserved_of_isIdentifier h
  obtain ⟨c, tail, h⟩ := (isWord_of_isIdentifier h).exists_front rest
  rw [read?_word (hcs.trans h.front) h.start h.span, String.ofList_toList, unknown]
  simp only [ordinary, Bool.false_eq_true, if_false]
  split
  · rfl
  · rename_i d after hd
    have closed : d ≠ '(' := by
      rintro rfl
      exact follows.excludes.2 (congrArg List.head? hd)
    rw [if_neg closed]

/-- An identifier in front of arguments is read as a call. -/
theorem Reads.call (h : isIdentifier word) (items : ReadsItems ')' ts args rest) :
    Reads .atom (word :: "(" :: ts) (.call word args) rest := by
  rw [reads_iff]
  intro cs hcs
  obtain ⟨unknown, ordinary⟩ := not_reserved_of_isIdentifier h
  obtain ⟨c, tail, h⟩ := (isWord_of_isIdentifier h).exists_front ("(" :: ts)
  have opening : skipBlank (spaced ("(" :: ts)) = '(' :: spaced ts := rfl
  rw [read?_word (hcs.trans h.front) h.start h.span, String.ofList_toList, unknown]
  simp only [ordinary, Bool.false_eq_true, if_false, opening, if_true, readsItems_iff.1 items,
    Option.map_some]

/-- Digits are read as a number if that fits. -/
theorem read?_digits {m : Nat} {cs rest : List Char} (front : skipBlank cs = Number.digits m ++ rest)
    (ends : EndsNumber rest) :
    read? .atom cs =
      (Number.readInt64? (Number.digits m)).map fun n => (.literal (.int n), rest) := by
  obtain ⟨d, ds, split, digit, -⟩ := exists_front_digits m rest
  have start : isNumberStart d := by simp [isNumberStart, digit]
  rw [read?_number (front.trans split) start, ← split, readNumber_digits m ends]
  cases Number.readInt64? (Number.digits m) <;> rfl

/-- A whole number. -/
theorem Reads.int {n : Int64} (nonneg : 0 ≤ n.toInt) :
    Reads .atom (String.ofList (Number.digits n.toInt.natAbs) :: rest) (.literal (.int n)) rest := by
  rw [reads_iff]
  intro cs hcs
  obtain ⟨d, ds, split, -, front⟩ := exists_front_digits n.toInt.natAbs (spaced rest)
  rw [spaced_cons, skipBlank_space, String.toList_ofList, front, ← split] at hcs
  rw [read?_digits hcs (endsNumber_spaced rest), readInt64?_digits nonneg, Option.map_some]

/-- A text. -/
theorem Reads.str (s : String) : Reads .atom ((Value.str s).token :: rest) (.literal (.str s)) rest := by
  rw [reads_iff]
  intro cs hcs
  have front : skipBlank cs = '"' :: (s.toList.flatMap escapeChar ++ '"' :: spaced rest) := by
    rw [hcs, spaced_cons, skipBlank_space, Value.token, String.toList_ofList, List.cons_append,
      List.cons_append, List.append_assoc]
    rfl
  simp only [read?_string front, scanString_escaped, Option.map_some, String.ofList_toList]

/-- An expression in parentheses. -/
theorem Reads.parentheses (h : Reads .loosest ts e (")" :: rest)) : Reads .atom ("(" :: ts) e rest := by
  rw [reads_iff] at h ⊢
  intro cs hcs
  have opening : skipBlank cs = '(' :: spaced ts := hcs
  have closing : skipBlank (spaced (")" :: rest)) = ')' :: spaced rest := rfl
  simp only [read?_parentheses opening, h _ rfl, closing, Option.bind_some, if_true]

/-- A list. -/
theorem Reads.list (h : ReadsItems ']' ts items rest) : Reads .atom ("[" :: ts) (.list items) rest := by
  rw [reads_iff]
  intro cs hcs
  have opening : skipBlank cs = '[' :: spaced ts := hcs
  rw [read?_list opening, readsItems_iff.1 h, Option.map_some]

end Atoms

section Items

variable {ts mid rest : List String} {e : Expr} {items : List Expr} {close : Char} {mark : String}

/-- The marks that end items. -/
inductive Closes : Char → String → Prop where
  | paren : Closes ')' ")"
  | bracket : Closes ']' "]"

/-- A closing mark stands in front, once blanks are skipped. -/
theorem Closes.skipBlank_spaced (closes : Closes close mark) (rest : List String) :
    skipBlank (spaced (mark :: rest)) = close :: spaced rest := by
  cases closes <;> rfl

/-- No items. -/
theorem ReadsItems.nil (closes : Closes close mark) : ReadsItems close (mark :: rest) [] rest :=
  readsItems_iff.2 (readItems?_of_close (closes.skipBlank_spaced rest))

/-- An item is not mistaken for the end. -/
theorem Closes.not_item (closes : Closes close mark) (item : Reads .loosest ts e rest) :
    ∀ tail, skipBlank (spaced ts) ≠ close :: tail := by
  intro tail front
  obtain ⟨_, item⟩ := item (spaced ts) rfl
  have none : symbol? mark (spaced ts) = none :=
    (fronts_of_readLevel item).opens mark (by cases closes <;> simp)
  rw [symbol?, front] at none
  cases closes <;> contradiction

/-- The last item. -/
theorem ReadsItems.last (closes : Closes close mark) (item : Reads .loosest ts e (mark :: rest)) :
    ReadsItems close ts [e] rest := by
  rw [readsItems_iff, readItems?_of_item (closes.not_item item), reads_iff.1 item _ rfl]
  simp only [Option.bind_some, closes.skipBlank_spaced, if_true]

/-- An item with others behind it. -/
theorem ReadsItems.cons (closes : Closes close mark) (item : Reads .loosest ts e ("," :: mid))
    (more : ReadsItems close mid items rest) : ReadsItems close ts (e :: items) rest := by
  have comma : skipBlank (spaced ("," :: mid)) = ',' :: spaced mid := rfl
  have apart : ',' ≠ close := by
    cases closes <;> decide
  rw [readsItems_iff] at more ⊢
  rw [readItems?_of_item (closes.not_item item), reads_iff.1 item _ rfl]
  simp only [Option.bind_some, comma, if_neg apart, if_true, more, Option.map_some]

end Items

end Backtest.Language
