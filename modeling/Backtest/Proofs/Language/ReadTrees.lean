import Backtest.Proofs.Language.Reading

/-!
# The trees that are read

Whatever text is read as an expression, the tree has identifiers for names, and its whole numbers are not
negative, since a sign is never part of a number. What is known of the literals of texts and of the faults in them
is carried through the descent once (`Admits.attempt`), for trees and for failures.
-/

namespace Backtest.Language

open Backtest.Number

/-- The literals that occur in texts: doubles besides those that trees are written with. -/
def Value.Readable (value : Value) : Prop :=
  value.Plain ∨ ∃ x, value = .float x

/-- A number that is read holds digits and points. -/
theorem mem_kept (hasPoint hasDigit : Bool) (cs : List Char) :
    ∀ c ∈ (scanNumber hasPoint hasDigit cs).kept, c.isDigit ∨ c = '.' := by
  induction cs generalizing hasPoint hasDigit with
  | nil => simp [scanNumber]
  | cons c cs ih =>
    unfold scanNumber
    split
    · rename_i digit
      exact List.forall_mem_cons.2 ⟨.inl digit, ih hasPoint true⟩
    · split
      · exact ih hasPoint hasDigit
      · split
        · rename_i point
          exact List.forall_mem_cons.2 ⟨.inr point.1, ih true hasDigit⟩
        · simp

/-- Characters without a sign give a number that is not negative. -/
theorem nonneg_of_readInt64? {ds : List Char} {n : Int64} (h : readInt64? ds = some n)
    (unsigned : ∀ c ∈ ds, c.isDigit ∨ c = '.') : 0 ≤ n.toInt := by
  have split : splitSign ds = (false, ds) := by
    unfold splitSign
    split
    · have := unsigned '-' List.mem_cons_self
      contradiction
    · have := unsigned '+' List.mem_cons_self
      contradiction
    · rfl
  obtain ⟨m, hm, rfl⟩ := Option.map_eq_some_iff.1 h
  rw [readInteger?, split] at hm
  simp only [Bool.false_eq_true, if_false] at hm
  split at hm
  · contradiction
  · split at hm
    · rename_i range
      cases hm
      rw [Int64.toInt_ofInt_of_le range.1 (Int.lt_of_le_of_lt range.2 (by decide))]
      exact Int.natCast_nonneg _
    · contradiction

/-- A number that is read can be read again. -/
theorem readable_of_readNumber {cs rest : List Char} {value : Value}
    (h : readNumber cs = .ok (value, rest)) : value.Readable := by
  unfold readNumber at h
  simp only at h
  split at h
  · contradiction
  · split at h
    · contradiction
    · rename_i exponent after hexponent
      split at h
      · rename_i v found
        cases h
        split at found
        · obtain ⟨x, -, rfl⟩ := Option.map_eq_some_iff.1 found
          exact .inr ⟨x, rfl⟩
        · rename_i whole
          obtain ⟨n, hn, rfl⟩ := Option.map_eq_some_iff.1 found
          have none : exponent = [] := by
            cases exponent with
            | nil => rfl
            | cons c cs => simp at whole
          rw [none, List.append_nil] at hn
          exact .inl (.int n (nonneg_of_readInt64? hn (mem_kept false false cs)))
      · contradiction

/-- So can a constant. -/
theorem readable_of_constant? {word : String} {value : Value} (h : constant? word = some value) :
    value.Readable := by
  unfold constant? at h
  split at h
  · cases h
    exact .inl (.bool true)
  · split at h
    · cases h
      exact .inl (.bool false)
    · split at h
      · cases h
        exact .inl .nothing
      · contradiction

/-- A word that is neither a constant nor an operator is an identifier. -/
theorem isIdentifier_of_word {c : Char} {tail : List Char} (start : isWordStart c)
    (unknown : constant? (String.ofList (spanWord (c :: tail)).1) = none)
    (ordinary : isOperatorWord (String.ofList (spanWord (c :: tail)).1) = false) :
    isIdentifier (String.ofList (spanWord (c :: tail)).1) := by
  have span : (spanWord (c :: tail)).1 = c :: tail.takeWhile isWordChar := by
    simp [spanWord, isWordChar_of_isWordStart start]
  rw [span] at unknown ordinary ⊢
  generalize hword : String.ofList (c :: tail.takeWhile isWordChar) = word at unknown ordinary ⊢
  have chars : word.toList = c :: tail.takeWhile isWordChar := by rw [← hword, String.toList_ofList]
  have free : word ∉ reservedWords := by
    intro reserved
    simp only [reservedWords, List.mem_cons, List.not_mem_nil, or_false] at reserved
    rcases reserved with rfl | rfl | rfl | rfl | rfl | rfl <;> contradiction
  rw [isIdentifier, chars]
  simp [start, free]

/-- The trees that are read from texts. -/
abbrev Expr.FromText : Expr → Prop :=
  Expr.WellFormed Value.Readable

section Delivers

variable {α β : Type} {good : α → Prop} {fine : β → Prop} {refused : Failure → Prop} {result : Except Failure α}

/-- What is known of a result: of what it has if it is a success, and of the failure if it is none. -/
def Delivers (good : α → Prop) (refused : Failure → Prop) : Except Failure α → Prop
  | .ok a => good a
  | .error failure => refused failure

/-- Of two steps is known what is known of the second, behind whatever the first delivers. -/
theorem Delivers.bind {f : α → Except Failure β} (first : Delivers good refused result)
    (next : ∀ a, result = .ok a → good a → Delivers fine refused (f a)) :
    Delivers fine refused (result.bind f) := by
  cases result with
  | error failure => exact first
  | ok a => exact next a rfl first

/-- A changed value is known by what the change keeps, and fails as before. -/
theorem Delivers.map {f : α → β} (first : Delivers good refused result) (keeps : ∀ a, good a → fine (f a)) :
    Delivers fine refused (result.map f) := by
  cases result with
  | error failure => exact first
  | ok a => exact keeps a first

end Delivers

section Descent

/-- What is known of the literals of texts and of the faults in them. -/
structure Admits (value : Value → Prop) (refused : Failure → Prop) : Prop where
  number : ∀ cs, Delivers (fun read => value read.1) refused (readNumber cs)
  string : ∀ text, value (.str text)
  constant : ∀ {word v}, constant? word = some v → value v
  other : ∀ {fault} rest, (∀ word, fault ≠ .invalidNumber word) → refused ⟨fault, rest⟩

variable {value : Value → Prop} {refused : Failure → Prop} {cs : List Char}

/-- A reader reads well formed trees, and fails as is known. -/
abbrev DeliversTree (value : Value → Prop) (refused : Failure → Prop) :
    Except Failure (Expr × List Char) → Prop :=
  Delivers (fun read => read.1.WellFormed value) refused

/-- So do all readers on less than some characters. -/
abbrev WellRead (value : Value → Prop) (refused : Failure → Prop) : Nat → Prop :=
  HoldsBelow (fun level cs => DeliversTree value refused (attempt level cs))
    (fun c left cs => left.WellFormed value → DeliversTree value refused (attemptMore c left cs))
    fun close cs => Delivers (fun read => ∀ e ∈ read.1, e.WellFormed value) refused (attemptItems close cs)

namespace WellRead

variable (ih : WellRead value refused cs.length)

include ih

/-- What begins with a name is well formed, if what is read behind it is. -/
theorem named {name : String} (identifier : isIdentifier name) {rest : List Char}
    (shorter : rest.length < cs.length) : DeliversTree value refused (attemptNamed name rest) := by
  rw [attemptNamed]
  split
  · exact .name identifier
  · rename_i front
    split
    · have items := ih.items ')' (Nat.lt_trans (length_of_skipBlank front) shorter)
      exact items.map fun _ args => .call identifier args
    · exact .name identifier

/-- So is a power, if its atom is. -/
theorem power (atom : DeliversTree value refused (attempt .atom cs)) :
    DeliversTree value refused (attempt .power cs) := by
  rw [attempt_power]
  refine atom.bind fun (base, rest) read first => ?_
  dsimp only
  split
  · exact first
  · rename_i next
    have shorter := Nat.lt_trans (symbol?_shorter next (by decide)) (length_of_attempt read)
    exact (ih.level .sign shorter).map fun _ exponent => .binary _ first exponent

/-- So is a sign, if a power is. -/
theorem sign (power : DeliversTree value refused (attempt .power cs)) :
    DeliversTree value refused (attempt .sign cs) := by
  rw [attempt_sign]
  split
  · rename_i next
    exact (ih.level .sign (symbol?_shorter next (by decide))).map fun _ operand => .unary .neg operand
  split
  · rename_i next
    exact ih.level .sign (symbol?_shorter next (by decide))
  · exact power

/-- So is a chain, if its first operand is. -/
theorem chained (c : Chain) (operand : DeliversTree value refused (attempt c.operand cs)) :
    DeliversTree value refused (attempt (.chain c) cs) := by
  rw [attempt_chain]
  exact operand.bind fun (left, rest) read first => ih.chain c left (length_of_attempt read) first

/-- So is a negation, if a comparison is. -/
theorem negation (comparison : DeliversTree value refused (attempt .comparison cs)) :
    DeliversTree value refused (attempt .negation cs) := by
  rw [attempt_negation]
  split
  · rename_i next
    exact (ih.level .negation (keyword?_shorter next (by decide))).map fun _ operand => .unary .not operand
  · exact comparison

/-- So is what goes on with a chain. -/
theorem chainFrom (c : Chain) {left : Expr} (first : left.WellFormed value) :
    DeliversTree value refused (attemptMore c left cs) := by
  cases next : chainOp? c cs with
  | none =>
    rw [attemptMore_of_none next]
    exact first
  | some found =>
    obtain ⟨op, rest⟩ := found
    have shorter := chainOp?_shorter next
    rw [attemptMore_of_some next]
    exact (ih.level c.operand shorter).bind fun (right, after) read second =>
      ih.chain c _ (Nat.lt_trans (length_of_attempt read) shorter) (.binary op first second)

end WellRead

namespace Admits

variable (admits : Admits value refused)

include admits

/-- A closing character that is missing is no number. -/
theorem close (c : Char) (cs : List Char) : Delivers (fun _ => True) refused (attemptClose c cs) := by
  rw [attemptClose]
  split
  · exact admits.other _ (by simp)
  · split
    · trivial
    · exact admits.other _ (by simp)

variable (ih : WellRead value refused cs.length)

include ih

/-- What begins with a word is well formed, if what is read behind it is. -/
theorem word {c : Char} {tail : List Char} (start : isWordStart c) (within : (c :: tail).length ≤ cs.length) :
    DeliversTree value refused
      (attemptWord (String.ofList (spanWord (c :: tail)).1) (spanWord (c :: tail)).2 (c :: tail)) := by
  rw [attemptWord]
  split
  · rename_i known
    exact .literal (admits.constant known)
  · rename_i unknown
    split
    · exact admits.other _ (by simp)
    · rename_i ordinary
      have identifier := isIdentifier_of_word start unknown (Bool.eq_false_iff.2 ordinary)
      exact ih.named identifier (Nat.lt_of_lt_of_le (spanWord_shorter start) within)

/-- So is an atom. -/
theorem atom : DeliversTree value refused (attempt .atom cs) := by
  rw [attempt_atom]
  cases front : skipBlank cs with
  | nil => exact admits.other _ (by simp)
  | cons c tail =>
    have shorter := length_of_skipBlank front
    rw [attemptFront]
    split
    · exact (admits.number _).map fun _ number => .literal number
    split
    · split
      · exact admits.other _ (by simp)
      · exact .literal (admits.string _)
    split
    · refine (ih.level .loosest shorter).bind fun read _ inner => ?_
      exact (admits.close ')' read.2).map fun _ _ => inner
    split
    · exact (ih.items ']' shorter).map fun _ items => .list items
    split
    · rename_i start
      exact admits.word ih start shorter
    · exact admits.other _ (by simp)

/-- So is a comparison, if a sum is. -/
theorem comparison (sum : DeliversTree value refused (attempt (.chain .sum) cs)) :
    DeliversTree value refused (attempt .comparison cs) := by
  rw [attempt_comparison]
  refine sum.bind fun (left, rest) read first => ?_
  dsimp only
  split
  · exact first
  · rename_i op operand next
    have shorter := Nat.lt_trans (comparisonOp?_shorter next) (length_of_attempt read)
    refine (ih.level (.chain .sum) shorter).bind fun (right, after) _ second => ?_
    dsimp only
    split
    · exact admits.other _ (by simp)
    · exact .binary op first second

/-- So are items, if the first of them is. -/
theorem itemsFrom (close : Char) (item : DeliversTree value refused (attempt .loosest cs)) :
    Delivers (fun read => ∀ e ∈ read.1, e.WellFormed value) refused (attemptItems close cs) := by
  by_cases closed : ∃ tail, skipBlank cs = close :: tail
  · obtain ⟨tail, front⟩ := closed
    rw [attemptItems_of_close front]
    exact List.forall_mem_nil _
  · rw [attemptItems_of_item fun tail front => closed ⟨tail, front⟩]
    refine item.bind fun (item, rest) read first => ?_
    dsimp only
    rw [attemptMoreItems]
    split
    · exact admits.other _ (by simp)
    · rename_i front
      split
      · exact List.forall_mem_singleton.2 first
      split
      · have shorter := Nat.lt_trans (length_of_skipBlank front) (length_of_attempt read)
        exact (ih.items close shorter).map fun _ others => List.forall_mem_cons.2 ⟨first, others⟩
      · exact admits.other _ (by simp)

omit ih

/-- What is read at a level is well formed, and fails as is known of numbers and of other faults. -/
theorem attempt (level : Level) (cs : List Char) : DeliversTree value refused (attempt level cs) :=
  Hereditary.holds
    { atom := admits.atom
      power := WellRead.power
      sign := WellRead.sign
      comparison := admits.comparison
      negation := WellRead.negation
      chained := fun c _ below => WellRead.chained below c
      chain := fun c _ _ below => WellRead.chainFrom below c
      items := fun close _ below => admits.itemsFrom below close } level cs

/-- So is an expression that is the whole text. -/
theorem readExpr (cs : List Char) : Delivers (Expr.WellFormed value) refused (readExpr cs) := by
  rw [readExpr_eq]
  refine (admits.attempt .loosest cs).bind fun (e, rest) _ whole => ?_
  have ending : Delivers (fun _ => True) refused (readEnd rest) := by
    rw [readEnd]
    split
    · trivial
    · exact admits.other _ (by simp)
  exact ending.map fun _ _ => whole

end Admits

end Descent

/-- The literals of texts can be read again, whatever the faults are. -/
theorem admits_readable : Admits Value.Readable fun _ => True where
  number cs := by
    cases read : readNumber cs with
    | error failure => trivial
    | ok found => exact readable_of_readNumber read
  string text := .inl (.str text)
  constant := readable_of_constant?
  other _ _ := trivial

/-- Every tree that a text is read as is well formed, doubles being allowed. -/
theorem fromText_of_parse {text : String} {e : Expr} (h : parse text = .ok e) : e.FromText := by
  have read := admits_readable.readExpr text.toList
  rw [parse] at h
  cases whole : readExpr text.toList with
  | error failure =>
    rw [whole] at h
    contradiction
  | ok e' =>
    rw [whole] at h read
    cases h
    exact read

end Backtest.Language
