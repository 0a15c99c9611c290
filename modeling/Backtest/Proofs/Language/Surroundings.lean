import Backtest.Language.Script
import Backtest.Proofs.Language.Descent
import Backtest.Proofs.Language.Tokens

/-!
# What stands around a text

Readers skip blanks and comments before everything that they read. So what stands before a text does not
matter, and blanks and a comment behind it are left behind what is read of it. Only a text that is not read
may become another one: a quote in the comment can end a string that was open.
-/

namespace Backtest.Language

open Backtest.Text

section Before

variable {cs ds : List Char}

/-- A level is read from the first character that is no blank, in success and in failure. -/
theorem attempt_congr (level : Level) (h : skipBlank cs = skipBlank ds) : attempt level cs = attempt level ds := by
  induction level using Level.of_tighter with
  | atom => rw [attempt_atom, attempt_atom, h]
  | power atom => rw [attempt_power, attempt_power, atom]
  | sign power => rw [attempt_sign, attempt_sign, power, symbol?_congr h, symbol?_congr h]
  | comparison sum => rw [attempt_comparison, attempt_comparison, sum]
  | negation comparison => rw [attempt_negation, attempt_negation, comparison, keyword?_congr h]
  | chained c operand => rw [attempt_chain, attempt_chain, operand]

/-- Blanks in front are skipped. -/
theorem skipBlank_append_of_blank {ws : List Char} (blank : ∀ c ∈ ws, isBlank c) (cs : List Char) :
    skipBlank (ws ++ cs) = skipBlank cs := by
  induction ws with
  | nil => rfl
  | cons c ws ih =>
    obtain ⟨first, rest⟩ := List.forall_mem_cons.1 blank
    rw [List.cons_append, skipBlank, if_pos first, ih rest]

end Before

section Lexemes

/-- Blanks and a comment, or nothing. -/
def Silent (tail : List Char) : Prop :=
  skipBlank tail = []

/-- Blanks make up a silent text. -/
theorem silent_of_blank {ws : List Char} (blank : ∀ c ∈ ws, isBlank c) : Silent ws := by
  have skipped := skipBlank_append_of_blank blank []
  rwa [List.append_nil] at skipped

/-- The characters that a silent text begins with belong to no token. -/
theorem apart_of_silent {c : Char} (h : isBlank c ∨ c = '#') :
    isWordChar c = false ∧ c.isDigit = false ∧ c ∉ ['.', '_', '+', '-', '=', '"', '\''] := by
  have none : (isWordChar c || c.isDigit || ['.', '_', '+', '-', '=', '"', '\''].contains c) = false := by
    rcases h with blank | rfl
    · exact eq_false_of_has blankRanges
        (fun c => isWordChar c || c.isDigit || ['.', '_', '+', '-', '=', '"', '\''].contains c)
        (by decide +kernel) blank
    · decide
  simpa [and_assoc] using none

/-- A spelling of which no silent text begins with a part. -/
def Mark (text : String) : Prop :=
  text.toList ≠ [] ∧ text.toList.all fun c => !isBlank c && c != '#'

instance (text : String) : Decidable (Mark text) :=
  inferInstanceAs (Decidable (_ ∧ _))

/-- A mark has no blank and begins no comment. -/
theorem Mark.plain {text : String} (mark : Mark text) : ∀ c ∈ text.toList, isBlank c = false ∧ c ≠ '#' := by
  simpa using mark.2

namespace Silent

variable {tail : List Char} (silent : Silent tail)

include silent

/-- What is silent begins with a blank or a comment. -/
theorem head : ∀ c ∈ tail.head?, isBlank c ∨ c = '#' := by
  cases tail with
  | nil => simp
  | cons c rest =>
    rw [Silent, skipBlank] at silent
    intro d hd
    cases hd
    split at silent
    · rename_i blank
      exact .inl blank
    · split at silent
      · rename_i comment
        exact .inr comment
      · contradiction

/-- What is silent is skipped if nothing else is there, and else stays behind. -/
theorem skipBlank_append (cs : List Char) :
    skipBlank (cs ++ tail) =
      match skipBlank cs with
      | [] => []
      | c :: rest => c :: (rest ++ tail) := by
  induction cs with
  | nil => exact silent
  | cons c cs ih =>
    rw [List.cons_append, skipBlank, skipBlank]
    by_cases blank : isBlank c
    · rw [if_pos blank, if_pos blank, ih]
    · rw [if_neg blank, if_neg blank]
      by_cases comment : c = '#'
      · rw [if_pos comment, if_pos comment]
      · rw [if_neg comment, if_neg comment]

/-- A text is found in front of what is silent where it is found without it. -/
theorem afterText?_append {ts : List Char} (plain : ∀ c ∈ ts, isBlank c = false ∧ c ≠ '#')
    (cs : List Char) : afterText? ts (cs ++ tail) = (afterText? ts cs).map (· ++ tail) := by
  induction ts generalizing cs with
  | nil => rfl
  | cons t ts ih =>
    obtain ⟨first, rest⟩ := List.forall_mem_cons.1 plain
    cases cs with
    | nil =>
      cases tail with
      | nil => rfl
      | cons c tail =>
        have other : t ≠ c := by
          rintro rfl
          simpa [first] using silent.head t rfl
        simp [afterText?, other]
    | cons c cs =>
      rw [List.cons_append, afterText?, afterText?]
      split
      · exact ih rest cs
      · rfl

/-- So is a symbol. -/
theorem symbol?_append {text : String} (mark : Mark text) (cs : List Char) :
    symbol? text (cs ++ tail) = (symbol? text cs).map (· ++ tail) := by
  rw [symbol?, symbol?, silent.skipBlank_append]
  cases skipBlank cs with
  | nil =>
    cases h : text.toList with
    | nil => exact absurd h mark.1
    | cons c cs => rfl
  | cons c rest => exact silent.afterText?_append mark.plain (c :: rest)

/-- So is a keyword. -/
theorem keyword?_append {word : String} (mark : Mark word) (cs : List Char) :
    keyword? word (cs ++ tail) = (keyword? word cs).map (· ++ tail) := by
  rw [keyword?, keyword?, silent.symbol?_append mark]
  rcases symbol? word cs with _ | _ | ⟨c, rest⟩
  · rfl
  · cases tail with
    | nil => rfl
    | cons c tail =>
      have other := (apart_of_silent (silent.head c rfl)).1
      simp [other]
  · by_cases more : isWordChar c
    · simp [more]
    · simp [more]

/-- So is the first of some symbols. -/
theorem firstSymbol?_append {α : Type} {table : List (String × α)} (marks : ∀ entry ∈ table, Mark entry.1)
    (cs : List Char) :
    firstSymbol? table (cs ++ tail) = (firstSymbol? table cs).map fun (a, rest) => (a, rest ++ tail) := by
  rw [firstSymbol?, firstSymbol?]
  induction table with
  | nil => rfl
  | cons entry table ih =>
    obtain ⟨first, others⟩ := List.forall_mem_cons.1 marks
    rw [List.findSome?_cons, List.findSome?_cons, silent.symbol?_append first, ih others]
    cases symbol? entry.1 cs <;> rfl

/-- So is a comparison. -/
theorem comparisonOp?_append (cs : List Char) :
    comparisonOp? (cs ++ tail) = (comparisonOp? cs).map fun (op, rest) => (op, rest ++ tail) :=
  silent.firstSymbol?_append (by decide) cs

/-- So is an operator of a chain. -/
theorem chainOp?_append (c : Chain) (cs : List Char) :
    chainOp? c (cs ++ tail) = (chainOp? c cs).map fun (op, rest) => (op, rest ++ tail) := by
  cases c with
  | disjunction =>
    rw [chainOp?, chainOp?, silent.keyword?_append (by decide), Option.map_map, Option.map_map]
    rfl
  | conjunction =>
    rw [chainOp?, chainOp?, silent.keyword?_append (by decide), Option.map_map, Option.map_map]
    rfl
  | sum => exact silent.firstSymbol?_append (by decide) cs
  | product =>
    rw [chainOp?, chainOp?, silent.symbol?_append (by decide), Option.isSome_map]
    split
    · rfl
    · exact silent.firstSymbol?_append (by decide) cs

/-- A word ends where what is silent begins. -/
theorem spanWord_append (cs : List Char) :
    spanWord (cs ++ tail) = ((spanWord cs).1, (spanWord cs).2 ++ tail) := by
  induction cs with
  | nil =>
    cases tail with
    | nil => rfl
    | cons c tail =>
      have other := (apart_of_silent (silent.head c rfl)).1
      simp [spanWord, other]
  | cons c cs ih =>
    simp only [spanWord, Prod.mk.injEq] at ih
    by_cases more : isWordChar c
    · simp [spanWord, more, ih]
    · simp [spanWord, more]

/-- So do the digits of a number. -/
theorem scanNumber_append (hasPoint hasDigit : Bool) (cs : List Char) :
    scanNumber hasPoint hasDigit (cs ++ tail) =
      { scanNumber hasPoint hasDigit cs with rest := (scanNumber hasPoint hasDigit cs).rest ++ tail } := by
  induction cs generalizing hasPoint hasDigit with
  | nil =>
    cases tail with
    | nil => rfl
    | cons c tail =>
      obtain ⟨-, digit, marks⟩ := apart_of_silent (silent.head c rfl)
      simp only [List.mem_cons, not_or] at marks
      simp [scanNumber, digit, marks]
  | cons c cs ih =>
    rw [List.cons_append, scanNumber, scanNumber]
    by_cases digit : c.isDigit
    · simp only [if_pos digit, ih]
    · rw [if_neg digit, if_neg digit]
      by_cases separator : c = '_' ∧ hasDigit
      · rw [if_pos separator, if_pos separator, ih]
      · rw [if_neg separator, if_neg separator]
        by_cases point : c = '.' ∧ !hasPoint
        · simp only [if_pos point, ih]
        · simp only [if_neg point, List.cons_append]

/-- So does a sign. -/
theorem spanSign_append (cs : List Char) :
    spanSign (cs ++ tail) = ((spanSign cs).1, (spanSign cs).2 ++ tail) := by
  cases cs with
  | nil =>
    cases tail with
    | nil => rfl
    | cons c tail =>
      have marks := (apart_of_silent (silent.head c rfl)).2.2
      simp only [List.mem_cons, not_or] at marks
      simp [spanSign, marks]
  | cons c cs =>
    rw [List.cons_append, spanSign, spanSign]
    split
    · rfl
    · rfl

/-- So do digits. -/
theorem spanDigits_append (cs : List Char) :
    (cs ++ tail).takeWhile Char.isDigit = cs.takeWhile Char.isDigit ∧
      (cs ++ tail).dropWhile Char.isDigit = cs.dropWhile Char.isDigit ++ tail := by
  induction cs with
  | nil =>
    cases tail with
    | nil => exact ⟨rfl, rfl⟩
    | cons c tail =>
      have digit := (apart_of_silent (silent.head c rfl)).2.1
      simp [digit]
  | cons c cs ih =>
    by_cases digit : c.isDigit
    · simp [digit, ih]
    · simp [digit]

/-- An exponent is read in front of what is silent if it is read without it. -/
theorem scanExponent_append (cs : List Char) :
    (scanExponent (cs ++ tail)).toOption =
      (scanExponent cs).toOption.map fun (exponent, rest) => (exponent, rest ++ tail) := by
  cases cs with
  | nil =>
    cases tail with
    | nil => rfl
    | cons c tail =>
      have other : ¬(c = 'e' ∨ c = 'E') := by
        have word := (apart_of_silent (silent.head c rfl)).1
        rintro (rfl | rfl) <;> exact absurd word (by decide)
      simp only [List.nil_append, scanExponent, if_neg other]
      rfl
  | cons c cs =>
    rw [List.cons_append, scanExponent, scanExponent]
    split
    · simp only [silent.spanSign_append, silent.spanDigits_append]
      split
      · rfl
      · rfl
    · rfl

/-- So is a number. -/
theorem readNumber_append (cs : List Char) :
    (readNumber (cs ++ tail)).toOption =
      (readNumber cs).toOption.map fun (value, rest) => (value, rest ++ tail) := by
  have exponents := silent.scanExponent_append (scanNumber false false cs).rest
  simp only [readNumber, silent.scanNumber_append]
  split
  · rfl
  · generalize scanExponent ((scanNumber false false cs).rest ++ tail) = behind at exponents ⊢
    generalize scanExponent (scanNumber false false cs).rest = alone at exponents ⊢
    rcases alone with failure | ⟨exponent, rest⟩ <;>
      rcases behind with failure' | ⟨exponent', rest'⟩ <;> cases exponents
    · rfl
    · dsimp only
      split
      · rfl
      · rfl

end Silent

end Lexemes

section Extends

/-- Readings of a text without and with a silent text behind it. If something is read, the same is read with
the silent text behind the rest. If nothing is, then nothing is read with a silent text without quotes. -/
structure Extends {α : Type} (tail : List Char) (x y : Option (α × List Char)) : Prop where
  read : ∀ {a rest}, x = some (a, rest) → y = some (a, rest ++ tail)
  unread : '"' ∉ tail → '\'' ∉ tail → x = none → y = none

namespace Extends

variable {α β : Type} {tail : List Char}

/-- What is read with more behind it extends what is read. -/
theorem of_map (x : Option (α × List Char)) :
    Extends tail x (x.map fun (a, rest) => (a, rest ++ tail)) where
  read h := by rw [h]; rfl
  unread _ _ h := by rw [h]; rfl

/-- A success with more left behind it extends the success. -/
theorem some (a : α) (rest : List Char) : Extends tail (some (a, rest)) (some (a, rest ++ tail)) :=
  of_map (.some (a, rest))

/-- Where nothing is read nothing has to be. -/
theorem none : Extends tail (none : Option (α × List Char)) none :=
  of_map .none

/-- Two steps extend two others if each does. -/
theorem bind {x y : Option (α × List Char)} {f : α × List Char → Option (β × List Char)}
    (first : Extends tail x y)
    (next : ∀ a rest, x = .some (a, rest) → Extends tail (f (a, rest)) (f (a, rest ++ tail))) :
    Extends tail (x.bind f) (y.bind f) := by
  rcases x with _ | ⟨a, rest⟩
  · refine ⟨fun h => ?_, fun double single _ => ?_⟩
    · contradiction
    · rw [first.unread double single rfl]
      rfl
  · rw [first.read rfl]
    exact next a rest rfl

/-- A changed value extends the value changed alike. -/
theorem map {x y : Option (α × List Char)} (f : α → β) (first : Extends tail x y) :
    Extends tail (x.map fun (a, rest) => (f a, rest)) (y.map fun (a, rest) => (f a, rest)) := by
  rw [Option.map_eq_bind, Option.map_eq_bind]
  exact first.bind fun a rest _ => .some (f a) rest

/-- Where nothing is read, nothing may be read with more behind it unless a quote is there. -/
theorem of_none {y : Option (α × List Char)} (unread : '"' ∉ tail → '\'' ∉ tail → y = .none) :
    Extends tail .none y :=
  ⟨fun h => (nomatch h), fun double single _ => unread double single⟩

end Extends

/-- A string without its quote does not end. -/
theorem scanString_eq_none {quote : Char} {cs : List Char} (absent : quote ∉ cs) :
    scanString quote cs = none := by
  fun_induction scanString quote cs with
  | case1 => rfl
  | case2 cs => simp at absent
  | case3 => rfl
  | case4 d rest _ ih => rw [ih (by simp_all)]; rfl
  | case5 c cs _ _ ih => rw [ih (by simp_all)]; rfl

/-- A string is read with more behind it as without, if its quote is not missing. -/
theorem extends_scanString {quote : Char} (h : quote = '"' ∨ quote = '\'') (tail cs : List Char) :
    Extends tail (scanString quote cs) (scanString quote (cs ++ tail)) := by
  have absent : '"' ∉ tail → '\'' ∉ tail → quote ∉ tail := by
    rintro double single
    rcases h with rfl | rfl
    · exact double
    · exact single
  fun_induction scanString quote cs with
  | case1 => exact .of_none fun double single => scanString_eq_none (absent double single)
  | case2 cs =>
    rw [List.cons_append, scanString_close]
    exact .some [] cs
  | case3 other =>
    refine .of_none fun double single => scanString_eq_none ?_
    rw [List.singleton_append, List.mem_cons, not_or]
    exact ⟨Ne.symm other, absent double single⟩
  | case4 d rest other ih =>
    rw [List.cons_append, List.cons_append, scanString_escape other]
    cases escaped? d with
    | some e => exact ih.map (e :: ·)
    | none => exact ih.map fun text => '\\' :: d :: text
  | case5 c cs other plain ih =>
    rw [List.cons_append, scanString_other other plain]
    exact ih.map (c :: ·)

end Extends

section Behind

variable {tail : List Char}

/-- Behind what a level reads fewer characters are left. -/
theorem length_of_read? {level : Level} {cs rest : List Char} {e : Expr}
    (h : read? level cs = some (e, rest)) : rest.length < cs.length := by
  obtain ⟨shorter, -⟩ := read?_eq_some.1 h
  exact shorter

/-- Reading texts of fewer characters is extended by a silent text behind them. -/
abbrev Extended (tail : List Char) : Nat → Prop :=
  HoldsBelow (fun level cs => Extends tail (read? level cs) (read? level (cs ++ tail)))
    (fun c left cs => Extends tail (readMore? c left cs) (readMore? c left (cs ++ tail)))
    fun close cs => Extends tail (readItems? close cs) (readItems? close (cs ++ tail))

namespace Extended

variable {cs : List Char} (ih : Extended tail cs.length)

include ih

/-- A chain is read with more behind it if its operands are. -/
theorem chained (c : Chain) (operand : Extends tail (read? c.operand cs) (read? c.operand (cs ++ tail))) :
    Extends tail (read? (.chain c) cs) (read? (.chain c) (cs ++ tail)) := by
  rw [read?_chain, read?_chain]
  exact operand.bind fun left rest first => ih.chain c left (length_of_read? first)

variable (silent : Silent tail)

include silent

/-- So is an expression in parentheses, behind the first of them. -/
theorem inParentheses {rest : List Char} (shorter : rest.length < cs.length) :
    Extends tail (inParentheses? rest) (inParentheses? (rest ++ tail)) := by
  refine (ih.level .loosest shorter).bind fun e after _ => ?_
  dsimp only
  rw [silent.skipBlank_append]
  cases skipBlank after with
  | nil => exact .none
  | cons d last =>
    dsimp only
    split
    · exact .some e last
    · exact .none

/-- So is what begins with a word, behind the word. -/
theorem atWord (word : String) {rest : List Char} (shorter : rest.length < cs.length) :
    Extends tail (atWord? word rest) (atWord? word (rest ++ tail)) := by
  rw [atWord?, atWord?]
  cases constant? word with
  | some value => exact .some _ rest
  | none =>
    dsimp only
    split
    · exact .none
    rw [silent.skipBlank_append]
    cases front : skipBlank rest with
    | nil => exact .some _ rest
    | cons d after =>
      dsimp only
      split
      · exact (ih.items ')' (Nat.lt_trans (length_of_skipBlank front) shorter)).map _
      · exact .some _ rest

/-- So is an atom. -/
theorem atom : Extends tail (read? .atom cs) (read? .atom (cs ++ tail)) := by
  rw [read?_atom, read?_atom, silent.skipBlank_append]
  cases front : skipBlank cs with
  | nil => exact .none
  | cons c rest =>
    have shorter := length_of_skipBlank front
    rw [atFront?, atFront?]
    split
    · have number := silent.readNumber_append (c :: rest)
      rw [List.cons_append] at number
      generalize readNumber (c :: rest) = alone at number ⊢
      generalize readNumber (c :: (rest ++ tail)) = behind at number ⊢
      rcases alone with failure | ⟨value, after⟩ <;> rcases behind with failure' | ⟨value', after'⟩ <;>
        cases number
      · exact .none
      · exact .some (Expr.literal value) after
    split
    · rename_i quote
      exact (extends_scanString quote tail rest).map fun text => Expr.literal (.str (String.ofList text))
    split
    · exact ih.inParentheses silent shorter
    split
    · exact (ih.items ']' shorter).map _
    split
    · rename_i start
      rw [← List.cons_append, silent.spanWord_append]
      exact ih.atWord silent _ (Nat.lt_of_lt_of_le (spanWord_shorter start) shorter)
    · exact .none

/-- So is a power. -/
theorem power (atom : Extends tail (read? .atom cs) (read? .atom (cs ++ tail))) :
    Extends tail (read? .power cs) (read? .power (cs ++ tail)) := by
  rw [read?_power, read?_power]
  refine atom.bind fun base rest first => ?_
  dsimp only
  rw [silent.symbol?_append (by decide)]
  cases found : symbol? "**" rest with
  | none => exact .some base rest
  | some operand =>
    have shorter := Nat.lt_trans (symbol?_shorter found (by decide)) (length_of_read? first)
    exact (ih.level .sign shorter).map fun e => Expr.binary (.arithmetic .pow) base e

/-- So is a sign. -/
theorem sign (power : Extends tail (read? .power cs) (read? .power (cs ++ tail))) :
    Extends tail (read? .sign cs) (read? .sign (cs ++ tail)) := by
  rw [read?_sign, read?_sign, silent.symbol?_append (by decide), silent.symbol?_append (by decide)]
  cases minus : symbol? "-" cs with
  | some rest => exact (ih.level .sign (symbol?_shorter minus (by decide))).map fun e => Expr.unary .neg e
  | none =>
    cases plus : symbol? "+" cs with
    | some rest => exact ih.level .sign (symbol?_shorter plus (by decide))
    | none => exact power

/-- So is a comparison. -/
theorem comparison (sum : Extends tail (read? (.chain .sum) cs) (read? (.chain .sum) (cs ++ tail))) :
    Extends tail (read? .comparison cs) (read? .comparison (cs ++ tail)) := by
  rw [read?_comparison, read?_comparison]
  refine sum.bind fun left rest first => ?_
  dsimp only
  rw [silent.comparisonOp?_append]
  cases found : comparisonOp? rest with
  | none => exact .some left rest
  | some test =>
    obtain ⟨op, operand⟩ := test
    have shorter := Nat.lt_trans (comparisonOp?_shorter found) (length_of_read? first)
    refine (ih.level (.chain .sum) shorter).bind fun right after _ => ?_
    dsimp only
    rw [silent.comparisonOp?_append]
    cases comparisonOp? after with
    | none => exact .some (Expr.binary op left right) after
    | some chained => exact .none

/-- So is a negation. -/
theorem negation (comparison : Extends tail (read? .comparison cs) (read? .comparison (cs ++ tail))) :
    Extends tail (read? .negation cs) (read? .negation (cs ++ tail)) := by
  rw [read?_negation, read?_negation, silent.keyword?_append (by decide)]
  cases found : keyword? "not" cs with
  | some rest =>
    exact (ih.level .negation (keyword?_shorter found (by decide))).map fun e => Expr.unary .not e
  | none => exact comparison

/-- So is what goes on with a chain. -/
theorem chainFrom (c : Chain) (left : Expr) :
    Extends tail (readMore? c left cs) (readMore? c left (cs ++ tail)) := by
  have longer := silent.chainOp?_append c cs
  cases found : chainOp? c cs with
  | none =>
    rw [found] at longer
    rw [readMore?_of_none found, readMore?_of_none longer]
    exact .some left cs
  | some test =>
    obtain ⟨op, rest⟩ := test
    rw [found] at longer
    rw [readMore?_of_some found, readMore?_of_some longer]
    have shorter := chainOp?_shorter found
    refine (ih.level c.operand shorter).bind fun right after second => ?_
    exact ih.chain c (.binary op left right) (Nat.lt_trans (length_of_read? second) shorter)

/-- So are items up to their bracket. -/
theorem itemsFrom (close : Char) (item : Extends tail (read? .loosest cs) (read? .loosest (cs ++ tail))) :
    Extends tail (readItems? close cs) (readItems? close (cs ++ tail)) := by
  have longer := silent.skipBlank_append cs
  by_cases closed : ∃ rest, skipBlank cs = close :: rest
  · obtain ⟨rest, front⟩ := closed
    rw [front] at longer
    rw [readItems?_of_close front, readItems?_of_close longer]
    exact .some [] rest
  · have front : ∀ rest, skipBlank cs ≠ close :: rest := fun rest h => closed ⟨rest, h⟩
    have longerFront : ∀ rest, skipBlank (cs ++ tail) ≠ close :: rest := by
      intro rest h
      cases split : skipBlank cs with
      | nil =>
        rw [longer, split] at h
        contradiction
      | cons c after =>
        rw [longer, split] at h
        cases h
        exact front after split
    rw [readItems?_of_item front, readItems?_of_item longerFront]
    refine item.bind fun item rest first => ?_
    dsimp only
    rw [silent.skipBlank_append]
    cases hd : skipBlank rest with
    | nil => exact .none
    | cons d after =>
      have shorter := Nat.lt_trans (length_of_skipBlank hd) (length_of_read? first)
      dsimp only
      split
      · exact .some [item] after
      split
      · exact (ih.items close shorter).map (item :: ·)
      · exact .none

end Extended

/-- What is silent may stand behind all that is read. -/
theorem extended (silent : Silent tail) (level : Level) (cs : List Char) :
    Extends tail (read? level cs) (read? level (cs ++ tail)) :=
  Hereditary.holds
    { atom := fun below => Extended.atom below silent
      power := fun below => Extended.power below silent
      sign := fun below => Extended.sign below silent
      comparison := fun below => Extended.comparison below silent
      negation := fun below => Extended.negation below silent
      chained := fun c _ below => Extended.chained below c
      chain := fun c left _ below => Extended.chainFrom below silent c left
      items := fun close _ below => Extended.itemsFrom below silent close } level cs

/-- Blanks and a comment behind a text that is an expression do not matter. -/
theorem readExpr_append (silent : Silent tail) {cs : List Char} {e : Expr} (read : readExpr cs = .ok e) :
    readExpr (cs ++ tail) = .ok e := by
  have longer := extended silent .loosest cs
  rw [← toOption_eq_some, toOption_readExpr] at read ⊢
  obtain ⟨⟨e', rest⟩, found, ended⟩ := Option.bind_eq_some_iff.1 read
  rw [longer.read found, Option.bind_some]
  dsimp only at ended ⊢
  rw [silent.skipBlank_append]
  cases front : skipBlank rest with
  | nil =>
    rw [front] at ended
    exact ended
  | cons c after =>
    rw [front] at ended
    contradiction

/-- Blanks and a comment behind a text do not matter, if there is no quote in the comment that could end a
string of the text. -/
theorem toOption_readExpr_append (silent : Silent tail) (double : '"' ∉ tail) (single : '\'' ∉ tail)
    (cs : List Char) : (readExpr (cs ++ tail)).toOption = (readExpr cs).toOption := by
  have longer := extended silent .loosest cs
  rw [toOption_readExpr, toOption_readExpr]
  cases alone : read? .loosest cs with
  | none => rw [longer.unread double single alone]
  | some found =>
    obtain ⟨e, rest⟩ := found
    rw [longer.read alone]
    simp only [Option.bind_some]
    rw [silent.skipBlank_append]
    cases skipBlank rest <;> rfl

end Behind

section Statements

/-- Expressions are read alike where only the blanks in front differ. -/
theorem readExpr_congr {cs ds : List Char} (h : skipBlank cs = skipBlank ds) : readExpr cs = readExpr ds := by
  rw [readExpr_eq, readExpr_eq, attempt_congr _ h]

/-- So they succeed alike. -/
theorem toOption_readExpr_congr {cs ds : List Char} (h : skipBlank cs = skipBlank ds) :
    (readExpr cs).toOption = (readExpr ds).toOption := by
  rw [readExpr_congr h]

/-- Names that are assigned to are found alike where only the blanks in front differ. -/
theorem assignee?_congr {cs ds : List Char} (h : skipBlank cs = skipBlank ds) :
    assignee? cs = assignee? ds := by
  rw [assignee?, assignee?, h]

/-- No silent text doubles an equals sign before it. -/
theorem Silent.head?_ne_equals {tail : List Char} (silent : Silent tail) (after : List Char) :
    ((after ++ tail).head? != some '=') = (after.head? != some '=') := by
  cases after with
  | nil =>
    cases tail with
    | nil => rfl
    | cons c tail =>
      have marks := (apart_of_silent (silent.head c rfl)).2.2
      simp only [List.mem_cons, not_or] at marks
      exact bne_iff_ne.2 (by simp [marks])
  | cons c after => rfl

/-- They are found in front of what is silent as without it. -/
theorem Silent.assignee?_append {tail : List Char} (silent : Silent tail) (cs : List Char) :
    assignee? (cs ++ tail) = (assignee? cs).map fun (name, rest) => (name, rest ++ tail) := by
  rw [assignee?, assignee?, silent.skipBlank_append]
  cases skipBlank cs with
  | nil => rfl
  | cons c rest =>
    dsimp only
    rw [← List.cons_append, silent.spanWord_append]
    dsimp only
    rw [silent.skipBlank_append]
    cases skipBlank (spanWord (c :: rest)).2 with
    | nil => rfl
    | cons d after =>
      by_cases equals : d = '='
      · subst equals
        simp only [silent.head?_ne_equals]
        split
        · rfl
        · rfl
      · simp [equals]

/-- A statement is an assignment where a name is assigned to, and else an expression. -/
theorem toOption_readStatement (cs : List Char) :
    (readStatement cs).toOption =
      match assignee? cs with
      | some (name, rest) => (readExpr rest).toOption.map (.assign name)
      | none => (readExpr cs).toOption.map .expr := by
  rw [readStatement]
  rcases assignee? cs with _ | ⟨name, rest⟩
  · dsimp only
    cases readExpr cs <;> rfl
  · dsimp only
    cases readExpr rest <;> rfl

/-- Blanks around a text are dropped from it. -/
theorem exists_trimBlanks (cs : List Char) :
    ∃ front back, cs = front ++ trimBlanks cs ++ back ∧ (∀ c ∈ front, isBlank c) ∧
      ∀ c ∈ back, isBlank c := by
  refine ⟨cs.takeWhile isBlank, ((dropBlanks cs).reverse.takeWhile isBlank).reverse, ?_, ?_, ?_⟩
  · have trimmed : dropBlanks cs =
        trimBlanks cs ++ ((dropBlanks cs).reverse.takeWhile isBlank).reverse := by
      rw [trimBlanks, ← List.reverse_append]
      simp [dropBlanks]
    rw [List.append_assoc, ← trimmed]
    simp [dropBlanks]
  · exact List.all_eq_true.1 List.all_takeWhile
  · simpa using List.all_eq_true.1 (List.all_takeWhile (p := isBlank))

/-- Of the blanks around a text those before it are skipped. -/
theorem exists_blank_behind (cs : List Char) :
    ∃ back, (∀ c ∈ back, isBlank c) ∧ skipBlank cs = skipBlank (trimBlanks cs ++ back) := by
  obtain ⟨front, back, split, before, behind⟩ := exists_trimBlanks cs
  refine ⟨back, behind, ?_⟩
  calc
    skipBlank cs = skipBlank (front ++ (trimBlanks cs ++ back)) := by rw [← List.append_assoc, ← split]
    _ = skipBlank (trimBlanks cs ++ back) := skipBlank_append_of_blank before _

/-- Blanks around a statement do not matter. -/
theorem toOption_readStatement_trimBlanks (cs : List Char) :
    (readStatement (trimBlanks cs)).toOption = (readStatement cs).toOption := by
  obtain ⟨back, behind, start⟩ := exists_blank_behind cs
  have silent := silent_of_blank behind
  have quotes : '"' ∉ back ∧ '\'' ∉ back :=
    ⟨fun h => absurd (behind _ h) (by decide), fun h => absurd (behind _ h) (by decide)⟩
  rw [toOption_readStatement cs, assignee?_congr start, toOption_readExpr_congr start,
    silent.assignee?_append, toOption_readExpr_append silent quotes.1 quotes.2, toOption_readStatement]
  rcases assignee? (trimBlanks cs) with _ | ⟨name, rest⟩
  · rfl
  · simp only [Option.map_some, toOption_readExpr_append silent quotes.1 quotes.2]

/-- A line without a statement on it is silent. -/
theorem silent_of_isIdle {line : List Char} (idle : isIdle (trimBlanks line)) : Silent line := by
  obtain ⟨back, behind, start⟩ := exists_blank_behind line
  have body : skipBlank (trimBlanks line) = [] := by
    generalize trimBlanks line = body at idle
    cases body with
    | nil => rfl
    | cons c rest =>
      obtain rfl : c = '#' := by simpa [isIdle] using idle
      rfl
  rw [Silent, start, (silent_of_blank behind).skipBlank_append, body]

end Statements

end Backtest.Language
