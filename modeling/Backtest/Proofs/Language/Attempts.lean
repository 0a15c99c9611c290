import Backtest.Language.Parser

/-!
# The descent with its failures

What the readers of expressions answer, with a plain rest behind what was read and the failure where nothing
was: one equation for each way in which a level goes on. A property that each reader inherits from those that it
calls then holds of them all (`Hereditary.below`).
-/

namespace Backtest.Language

variable {α β : Type}

/-- What was read with a plain rest behind it, or the failure. -/
def plain {P : List Char → Prop} (result : Except Failure (α × { rest : List Char // P rest })) :
    Except Failure (α × List Char) :=
  result.map fun (a, rest) => (a, rest.1)

/-- A plain success has what was read and what is left. -/
@[simp] theorem plain_ok {P : List Char → Prop} (a : α) (rest : { rest : List Char // P rest }) :
    plain (.ok (a, rest)) = .ok (a, rest.1) :=
  rfl

/-- A plain failure is the failure. -/
@[simp] theorem plain_error {P : List Char → Prop} (failure : Failure) :
    plain (.error failure : Except Failure (α × { rest : List Char // P rest })) = .error failure :=
  rfl

/-- What comes of reading a level. -/
def attempt (level : Level) (cs : List Char) : Except Failure (Expr × List Char) :=
  plain (readLevel level cs)

/-- What comes of reading a chain behind its first operands. -/
def attemptMore (c : Chain) (left : Expr) (cs : List Char) : Except Failure (Expr × List Char) :=
  plain (readChain c left cs)

/-- What comes of reading items up to a closing character. -/
def attemptItems (close : Char) (cs : List Char) : Except Failure (List Expr × List Char) :=
  plain (readItems close cs)

/-- What is left after a plain success is known to be as it should. -/
theorem of_plain_eq_ok {P : List Char → Prop} {a : α} {rest : List Char}
    {result : Except Failure (α × { rest : List Char // P rest })} (h : plain result = .ok (a, rest)) : P rest := by
  rcases result with _ | ⟨a', rest', h'⟩
  · contradiction
  · cases h
    exact h'

/-- What is left behind an expression is shorter. -/
theorem length_of_attempt {level : Level} {cs rest : List Char} {e : Expr}
    (h : attempt level cs = .ok (e, rest)) : rest.length < cs.length :=
  of_plain_eq_ok h

section Levels

variable {cs : List Char}

/-- A chain is an operand and what goes on with it. -/
theorem attempt_chain (c : Chain) (cs : List Char) :
    attempt (.chain c) cs = (attempt c.operand cs).bind fun (left, rest) => attemptMore c left rest := by
  rw [attempt, readLevel, attempt]
  rcases readLevel c.operand cs with failure | ⟨left, rest, hrest⟩
  · rfl
  · simp only [plain_ok, Except.bind, attemptMore]
    rcases readChain c left rest with failure | ⟨e, after, hafter⟩
    · rfl
    · rfl

/-- A negation is a keyword in front of a negation, or else a comparison. -/
theorem attempt_negation (cs : List Char) :
    attempt .negation cs =
      match keyword? "not" cs with
      | some rest => (attempt .negation rest).map fun (e, after) => (.unary .not e, after)
      | none => attempt .comparison cs := by
  rw [attempt, readLevel]
  split
  · rename_i rest found
    simp only [found, attempt]
    rcases readLevel .negation rest with failure | ⟨e, after, hafter⟩
    · rfl
    · rfl
  · rename_i none
    rw [none]
    rfl

/-- A comparison is a sum, or two of them with an operator in between and no other one behind. -/
theorem attempt_comparison (cs : List Char) :
    attempt .comparison cs =
      (attempt (.chain .sum) cs).bind fun (left, rest) =>
        match comparisonOp? rest with
        | none => .ok (left, rest)
        | some (op, operand) =>
          (attempt (.chain .sum) operand).bind fun (right, after) =>
            match comparisonOp? after with
            | some (_, chained) => .error ⟨.chainedComparison, chained⟩
            | none => .ok (.binary op left right, after) := by
  rw [attempt, readLevel, attempt]
  rcases readLevel (.chain .sum) cs with failure | ⟨left, rest, hrest⟩
  · rfl
  · simp only [plain_ok, Except.bind]
    split
    · rename_i none
      rw [none]
      rfl
    · rename_i op operand found
      simp only [found, attempt]
      rcases readLevel (.chain .sum) operand with failure | ⟨right, after, hafter⟩
      · rfl
      · simp only [plain_ok]
        rcases comparisonOp? after with _ | _
        · rfl
        · rfl

/-- A sign is a minus or a plus in front of a sign, or else a power. -/
theorem attempt_sign (cs : List Char) :
    attempt .sign cs =
      match symbol? "-" cs with
      | some rest => (attempt .sign rest).map fun (e, after) => (.unary .neg e, after)
      | none =>
        match symbol? "+" cs with
        | some rest => attempt .sign rest
        | none => attempt .power cs := by
  rw [attempt, readLevel]
  split
  · rename_i rest found
    simp only [found, attempt]
    rcases readLevel .sign rest with failure | ⟨e, after, hafter⟩
    · rfl
    · rfl
  · rename_i minus
    rw [minus]
    dsimp only
    split
    · rename_i rest found
      simp only [found, attempt]
      rcases readLevel .sign rest with failure | ⟨e, after, hafter⟩
      · rfl
      · rfl
    · rename_i plus
      rw [plus]
      rfl

/-- A power is an atom, or one with a signed exponent. -/
theorem attempt_power (cs : List Char) :
    attempt .power cs =
      (attempt .atom cs).bind fun (base, rest) =>
        match symbol? "**" rest with
        | none => .ok (base, rest)
        | some operand =>
          (attempt .sign operand).map fun (exponent, after) =>
            (.binary (.arithmetic .pow) base exponent, after) := by
  rw [attempt, readLevel, attempt]
  rcases readLevel .atom cs with failure | ⟨base, rest, hrest⟩
  · rfl
  · simp only [plain_ok, Except.bind]
    split
    · rename_i none
      rw [none]
      rfl
    · rename_i operand found
      simp only [found, attempt]
      rcases readLevel .sign operand with failure | ⟨exponent, after, hafter⟩
      · rfl
      · rfl

/-- Where no operator of a chain stands the chain is over. -/
theorem attemptMore_of_none {c : Chain} (h : chainOp? c cs = none) (left : Expr) :
    attemptMore c left cs = .ok (left, cs) := by
  rw [attemptMore, readChain]
  split
  · rfl
  · rename_i found
    rw [h] at found
    contradiction

/-- Where an operator stands the chain goes on with its operand. -/
theorem attemptMore_of_some {c : Chain} {op : BinaryOp} {rest : List Char}
    (h : chainOp? c cs = some (op, rest)) (left : Expr) :
    attemptMore c left cs =
      (attempt c.operand rest).bind fun (right, after) => attemptMore c (.binary op left right) after := by
  rw [attemptMore, readChain, attempt]
  split
  · rename_i none
    rw [h] at none
    contradiction
  · rename_i found
    rw [h] at found
    cases found
    rcases readLevel c.operand rest with failure | ⟨right, after, hafter⟩
    · rfl
    · simp only [plain_ok, Except.bind, attemptMore]
      rcases readChain c (.binary op left right) after with failure | ⟨e, last, hlast⟩
      · rfl
      · rfl

end Levels

section Atoms

/-- What comes of a closing character that is wanted. -/
def attemptClose (close : Char) (cs : List Char) : Except Failure (Unit × List Char) :=
  match skipBlank cs with
  | [] => .error ⟨.expectedChar close none, []⟩
  | d :: after => if d = close then .ok ((), after) else .error ⟨.expectedChar close (some d), d :: after⟩

/-- What comes of reading behind an opening parenthesis, up to the closing one. -/
def attemptParentheses (cs : List Char) : Except Failure (Expr × List Char) :=
  (attempt .loosest cs).bind fun (e, rest) => (attemptClose ')' rest).map fun (_, after) => (e, after)

/-- What comes of a name with some characters behind it. -/
def attemptNamed (name : String) (rest : List Char) : Except Failure (Expr × List Char) :=
  match skipBlank rest with
  | [] => .ok (.name name, rest)
  | d :: after =>
    if d = '(' then (attemptItems ')' after).map fun (args, last) => (.call name args, last)
    else .ok (.name name, rest)

/-- What comes of a word with some characters behind it; `cs` are those that begin with the word. -/
def attemptWord (word : String) (rest cs : List Char) : Except Failure (Expr × List Char) :=
  match constant? word with
  | some value => .ok (.literal value, rest)
  | none =>
    if isOperatorWord word then .error ⟨.expectedExpression (some word), cs⟩
    else attemptNamed word rest

/-- What comes of reading an atom at the front of characters that begin with no blank. -/
def attemptFront : List Char → Except Failure (Expr × List Char)
  | [] => .error ⟨.expectedExpression none, []⟩
  | c :: tail =>
    if isNumberStart c then (readNumber (c :: tail)).map fun (value, rest) => (.literal value, rest)
    else if c = '"' ∨ c = '\'' then
      match scanString c tail with
      | none => .error ⟨.unterminatedString, c :: tail⟩
      | some (text, rest) => .ok (.literal (.str (String.ofList text)), rest)
    else if c = '(' then attemptParentheses tail
    else if c = '[' then (attemptItems ']' tail).map fun (items, rest) => (.list items, rest)
    else if isWordStart c then
      attemptWord (String.ofList (spanWord (c :: tail)).1) (spanWord (c :: tail)).2 (c :: tail)
    else .error ⟨.expectedExpression (shownWord? (c :: tail)), c :: tail⟩

/-- An atom is read from its first character, blanks before it skipped. -/
theorem attempt_atom (cs : List Char) : attempt .atom cs = attemptFront (skipBlank cs) := by
  rw [attempt, readLevel]
  split
  · rename_i empty
    rw [empty]
    rfl
  rename_i c tail front
  conv => rhs; rw [front, attemptFront]
  dsimp only
  by_cases number : isNumberStart c
  · rw [dif_pos number, if_pos number]
    split
    · rename_i refused
      rw [refused]
      rfl
    · rename_i read
      simp only [read, plain_ok, Except.map]
  rw [dif_neg number, if_neg number]
  by_cases quote : c = '"' ∨ c = '\''
  · rw [if_pos quote, if_pos quote]
    split
    · rename_i none
      rw [none]
      rfl
    · rename_i found
      simp only [found, plain_ok]
  rw [if_neg quote, if_neg quote]
  by_cases paren : c = '('
  · rw [if_pos paren, if_pos paren, attemptParentheses, attempt]
    rcases readLevel .loosest tail with failure | ⟨e, rest, hrest⟩
    · rfl
    · simp only [plain_ok, Except.bind, attemptClose]
      split
      · rename_i empty
        rw [empty]
        rfl
      · rename_i hd
        simp only [hd]
        split
        · rfl
        · rfl
  rw [if_neg paren, if_neg paren]
  by_cases bracket : c = '['
  · rw [if_pos bracket, if_pos bracket, attemptItems]
    rcases readItems ']' tail with failure | ⟨items, rest, hrest⟩
    · rfl
    · rfl
  rw [if_neg bracket, if_neg bracket]
  by_cases start : isWordStart c
  · rw [dif_pos start, if_pos start, attemptWord]
    cases constant? (String.ofList (spanWord (c :: tail)).1) with
    | some value => rfl
    | none =>
      dsimp only
      by_cases operator : isOperatorWord (String.ofList (spanWord (c :: tail)).1)
      · rw [if_pos operator, if_pos operator]
        rfl
      rw [if_neg operator, if_neg operator, attemptNamed]
      split
      · rename_i empty
        rw [empty]
        rfl
      · rename_i d after hd
        simp only [hd, attemptItems]
        by_cases args : d = '('
        · rw [if_pos args, if_pos args]
          rcases readItems ')' after with failure | ⟨args, last, hlast⟩
          · rfl
          · rfl
        · rw [if_neg args, if_neg args]
          rfl
  · rw [dif_neg start, if_neg start]
    rfl

end Atoms

section Items

variable {close : Char} {cs tail : List Char}

/-- No more items. -/
theorem attemptItems_of_close (front : skipBlank cs = close :: tail) :
    attemptItems close cs = .ok ([], tail) := by
  rw [attemptItems, readItems]
  split
  · rename_i hd
    obtain ⟨rfl, rfl⟩ := List.cons_eq_cons.1 (hd.symm.trans front)
    rw [if_pos rfl]
    rfl
  · rename_i empty
    rw [front] at empty
    contradiction

/-- What comes of reading items behind one. -/
def attemptMoreItems (close : Char) (item : Expr) (cs : List Char) : Except Failure (List Expr × List Char) :=
  match skipBlank cs with
  | [] => .error ⟨.expectedChar ',' none, []⟩
  | d :: after =>
    if d = close then .ok ([item], after)
    else if d = ',' then (attemptItems close after).map fun (items, last) => (item :: items, last)
    else .error ⟨.expectedChar ',' (some d), d :: after⟩

/-- An item, and others behind it if a comma follows. -/
theorem attemptItems_of_item (front : ∀ tail, skipBlank cs ≠ close :: tail) :
    attemptItems close cs =
      (attempt .loosest cs).bind fun (item, rest) => attemptMoreItems close item rest := by
  have first : readItems close cs = readItem close cs := by
    rw [readItems]
    split
    · rename_i c tail hc
      have other : c ≠ close := by
        rintro rfl
        exact front tail hc
      rw [if_neg other]
    · rfl
  rw [attemptItems, first, readItem, attempt]
  rcases readLevel .loosest cs with failure | ⟨item, rest, hrest⟩
  · rfl
  · simp only [plain_ok, Except.bind, attemptMoreItems]
    split
    · rename_i empty
      rw [empty]
      rfl
    · rename_i d after hd
      simp only [hd]
      by_cases closing : d = close
      · rw [if_pos closing, if_pos closing]
        rfl
      · rw [if_neg closing, if_neg closing]
        by_cases comma : d = ','
        · rw [if_pos comma, if_pos comma, attemptItems]
          rcases readItems close after with failure | ⟨items, last, hlast⟩
          · rfl
          · rfl
        · rw [if_neg comma, if_neg comma]
          rfl

end Items

/-- A text is an expression if it is read to its end but for blanks. -/
theorem readExpr_eq (cs : List Char) :
    readExpr cs = (attempt .loosest cs).bind fun (e, rest) => (readEnd rest).map fun _ => e := by
  rw [readExpr, attempt]
  rcases readLevel .loosest cs with failure | ⟨e, rest, hrest⟩
  · rfl
  · rfl

section Induction

/-- What holds of atoms, and of each level if it holds of the next tighter one, holds of all levels. -/
theorem Level.of_tighter {P : Level → Prop} (atom : P .atom) (power : P .atom → P .power)
    (sign : P .power → P .sign) (comparison : P (.chain .sum) → P .comparison)
    (negation : P .comparison → P .negation) (chained : ∀ c : Chain, P c.operand → P (.chain c))
    (level : Level) : P level := by
  have product : P (.chain .product) := chained .product (sign (power atom))
  have sum : P (.chain .sum) := chained .sum product
  have conjunction : P (.chain .conjunction) := chained .conjunction (negation (comparison sum))
  cases level with
  | chain c =>
    cases c with
    | disjunction => exact chained .disjunction conjunction
    | conjunction => exact conjunction
    | sum => exact sum
    | product => exact product
  | negation => exact negation (comparison sum)
  | comparison => exact comparison sum
  | sign => exact sign (power atom)
  | power => exact power atom
  | atom => exact atom

variable (onLevel : Level → List Char → Prop) (onChain : Chain → Expr → List Char → Prop)
  (onItems : Char → List Char → Prop)

/-- What holds of all readers on less than some characters. -/
structure HoldsBelow (n : Nat) : Prop where
  level : ∀ level {cs}, cs.length < n → onLevel level cs
  chain : ∀ c left {cs}, cs.length < n → onChain c left cs
  items : ∀ close {cs}, cs.length < n → onItems close cs

/-- What a reader inherits from those that it calls: from the next tighter level on the same characters, and from all
readers on fewer. -/
structure Hereditary : Prop where
  atom : ∀ {cs}, HoldsBelow onLevel onChain onItems cs.length → onLevel .atom cs
  power : ∀ {cs}, HoldsBelow onLevel onChain onItems cs.length → onLevel .atom cs → onLevel .power cs
  sign : ∀ {cs}, HoldsBelow onLevel onChain onItems cs.length → onLevel .power cs → onLevel .sign cs
  comparison : ∀ {cs}, HoldsBelow onLevel onChain onItems cs.length → onLevel (.chain .sum) cs →
    onLevel .comparison cs
  negation : ∀ {cs}, HoldsBelow onLevel onChain onItems cs.length → onLevel .comparison cs → onLevel .negation cs
  chained : ∀ c {cs}, HoldsBelow onLevel onChain onItems cs.length → onLevel c.operand cs → onLevel (.chain c) cs
  chain : ∀ c left {cs}, HoldsBelow onLevel onChain onItems cs.length → onChain c left cs
  items : ∀ close {cs}, HoldsBelow onLevel onChain onItems cs.length → onLevel .loosest cs → onItems close cs

variable {onLevel onChain onItems}

/-- What holds below some number of characters holds below fewer. -/
theorem HoldsBelow.mono {m n : Nat} (h : HoldsBelow onLevel onChain onItems n) (le : m ≤ n) :
    HoldsBelow onLevel onChain onItems m where
  level level _ less := h.level level (Nat.lt_of_lt_of_le less le)
  chain c left _ less := h.chain c left (Nat.lt_of_lt_of_le less le)
  items close _ less := h.items close (Nat.lt_of_lt_of_le less le)

namespace Hereditary

variable (h : Hereditary onLevel onChain onItems)

include h

/-- What is inherited holds of a level, if it holds of all readers on fewer characters. -/
theorem next {cs : List Char} (below : HoldsBelow onLevel onChain onItems cs.length) (level : Level) :
    onLevel level cs := by
  induction level using Level.of_tighter with
  | atom => exact h.atom below
  | power atom => exact h.power below atom
  | sign power => exact h.sign below power
  | comparison sum => exact h.comparison below sum
  | negation comparison => exact h.negation below comparison
  | chained c operand => exact h.chained c below operand

/-- What is inherited holds of all readers, by induction on the characters: behind the first token of a level there
are fewer of them, whatever level is read there. -/
theorem below (n : Nat) : HoldsBelow onLevel onChain onItems n := by
  induction n with
  | zero =>
    exact ⟨fun _ _ less => absurd less (Nat.not_lt_zero _), fun _ _ _ less => absurd less (Nat.not_lt_zero _),
      fun _ _ less => absurd less (Nat.not_lt_zero _)⟩
  | succ n ih =>
    have shorter : ∀ {cs : List Char}, cs.length < n + 1 → HoldsBelow onLevel onChain onItems cs.length :=
      fun less => ih.mono (Nat.le_of_lt_succ less)
    exact ⟨fun level _ less => h.next (shorter less) level, fun c left _ less => h.chain c left (shorter less),
      fun close _ less => h.items close (shorter less) (h.next (shorter less) .loosest)⟩

/-- So it holds of every level, whatever it is read from. -/
theorem holds (level : Level) (cs : List Char) : onLevel level cs :=
  (h.below (cs.length + 1)).level level (Nat.lt_succ_self _)

end Hereditary

end Induction

/-- If nothing that an expression begins with comes next, the expression fails as its first atom does. -/
theorem readExpr_of_atom_error {cs : List Char} {failure : Failure} (atom : attempt .atom cs = .error failure)
    (negation : keyword? "not" cs = none) (minus : symbol? "-" cs = none) (plus : symbol? "+" cs = none) :
    readExpr cs = .error failure := by
  have fails : ∀ level, attempt level cs = .error failure := by
    intro level
    induction level using Level.of_tighter with
    | atom => exact atom
    | power atom => rw [attempt_power, atom]; rfl
    | sign power => rw [attempt_sign, minus, plus]; exact power
    | comparison sum => rw [attempt_comparison, sum]; rfl
    | negation comparison => rw [attempt_negation, negation]; exact comparison
    | chained c operand => rw [attempt_chain, operand]; rfl
  rw [readExpr_eq, fails]
  rfl

/-- What comes of reading a statement. -/
def attemptStatement (cs : List Char) : Except Failure (Statement × List Char) :=
  match assignee? cs with
  | some (name, rest) => (attempt .loosest rest).map fun (value, after) => (.assign name value, after)
  | none => (attempt .loosest cs).map fun (e, after) => (.expr e, after)

/-- A statement is read if nothing but a comment is left behind it. -/
theorem readStatement_eq (cs : List Char) :
    readStatement cs = (attemptStatement cs).bind fun (s, rest) => (readEnd rest).map fun _ => s := by
  rw [readStatement, attemptStatement]
  rcases assignee? cs with _ | ⟨name, rest⟩
  · dsimp only
    rw [readExpr_eq]
    rcases attempt .loosest cs with failure | ⟨e, after⟩
    · rfl
    · simp only [Except.bind, Except.map]
      cases readEnd after <;> rfl
  · dsimp only
    rw [readExpr_eq]
    rcases attempt .loosest rest with failure | ⟨value, after⟩
    · rfl
    · simp only [Except.bind, Except.map]
      cases readEnd after <;> rfl

end Backtest.Language
