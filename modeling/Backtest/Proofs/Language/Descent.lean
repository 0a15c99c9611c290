import Backtest.Proofs.Language.Attempts

/-!
# The descent without its bookkeeping

What the readers of expressions answer, with a plain rest behind what was read and no word about why
nothing was: one equation for each way in which a level goes on. They hold of texts that are read and of
texts that are not.
-/

namespace Backtest.Language

variable {α β : Type}

/-- What was read with the rest behind it, if anything was. -/
def taken {P : List Char → Prop} :
    Except Failure (α × { rest : List Char // P rest }) → Option (α × List Char)
  | .ok (a, rest) => some (a, rest.1)
  | .error _ => none

/-- Of a success, what was read and what is left are taken. -/
@[simp] theorem taken_ok {P : List Char → Prop} (a : α) (rest : { rest : List Char // P rest }) :
    taken (.ok (a, rest)) = some (a, rest.1) :=
  rfl

/-- Of a failure nothing is taken. -/
@[simp] theorem taken_error {P : List Char → Prop} (failure : Failure) :
    taken (.error failure : Except Failure (α × { rest : List Char // P rest })) = none :=
  rfl

/-- Something is taken if and only if it was read. -/
theorem taken_eq_some {P : List Char → Prop} {rest : List Char} {a : α}
    {result : Except Failure (α × { rest : List Char // P rest })} :
    taken result = some (a, rest) ↔ ∃ h, result = .ok (a, ⟨rest, h⟩) := by
  constructor
  · intro h
    rcases result with _ | ⟨a', rest', h'⟩
    · contradiction
    · cases h
      exact ⟨h', rfl⟩
  · rintro ⟨h, rfl⟩
    rfl

/-- What is read at a level. -/
def read? (level : Level) (cs : List Char) : Option (Expr × List Char) :=
  taken (readLevel level cs)

/-- What is read of a chain behind its first operands. -/
def readMore? (c : Chain) (left : Expr) (cs : List Char) : Option (Expr × List Char) :=
  taken (readChain c left cs)

/-- The items that are read up to a closing character. -/
def readItems? (close : Char) (cs : List Char) : Option (List Expr × List Char) :=
  taken (readItems close cs)

/-- A level answers with an expression if and only if the reader succeeds with it. -/
theorem read?_eq_some {level : Level} {cs rest : List Char} {e : Expr} :
    read? level cs = some (e, rest) ↔ ∃ h, readLevel level cs = .ok (e, ⟨rest, h⟩) := by
  rw [read?, taken_eq_some]

/-- A chain goes on to an expression if and only if the reader succeeds with it. -/
theorem readMore?_eq_some {c : Chain} {left e : Expr} {cs rest : List Char} :
    readMore? c left cs = some (e, rest) ↔ ∃ h, readChain c left cs = .ok (e, ⟨rest, h⟩) := by
  rw [readMore?, taken_eq_some]

/-- Items are answered if and only if the reader succeeds with them. -/
theorem readItems?_eq_some {close : Char} {cs rest : List Char} {items : List Expr} :
    readItems? close cs = some (items, rest) ↔ ∃ h, readItems close cs = .ok (items, ⟨rest, h⟩) := by
  rw [readItems?, taken_eq_some]

/-- A success is kept, and nothing else. -/
theorem toOption_eq_some {ε : Type} {x : Except ε α} {a : α} : x.toOption = some a ↔ x = .ok a := by
  cases x <;> simp [Except.toOption]

/-- Of two steps the successes are those of the one after the other. -/
theorem toOption_bind (x : Except Failure α) (f : α → Except Failure β) :
    (x.bind f).toOption = x.toOption.bind fun a => (f a).toOption := by
  cases x <;> rfl

/-- A changed value is a success where the value was one. -/
theorem toOption_map (x : Except Failure α) (f : α → β) : (x.map f).toOption = x.toOption.map f := by
  cases x <;> rfl

/-- What is taken is the plain success. -/
theorem taken_eq_toOption {P : List Char → Prop}
    (result : Except Failure (α × { rest : List Char // P rest })) :
    taken result = (plain result).toOption := by
  rcases result with _ | ⟨a, rest⟩ <;> rfl

/-- What a level answers is the success of its attempt. -/
theorem read?_eq_toOption (level : Level) (cs : List Char) : read? level cs = (attempt level cs).toOption :=
  taken_eq_toOption _

/-- So it is with what goes on with a chain. -/
theorem readMore?_eq_toOption (c : Chain) (left : Expr) (cs : List Char) :
    readMore? c left cs = (attemptMore c left cs).toOption :=
  taken_eq_toOption _

/-- So it is with items. -/
theorem readItems?_eq_toOption (close : Char) (cs : List Char) :
    readItems? close cs = (attemptItems close cs).toOption :=
  taken_eq_toOption _

section Levels

variable {cs : List Char}

/-- A chain is an operand and what goes on with it. -/
theorem read?_chain (c : Chain) (cs : List Char) :
    read? (.chain c) cs = (read? c.operand cs).bind fun (left, rest) => readMore? c left rest := by
  simp only [read?_eq_toOption, readMore?_eq_toOption, attempt_chain, toOption_bind]

/-- A negation is a keyword in front of a negation, or else a comparison. -/
theorem read?_negation (cs : List Char) :
    read? .negation cs =
      match keyword? "not" cs with
      | some rest => (read? .negation rest).map fun (e, after) => (.unary .not e, after)
      | none => read? .comparison cs := by
  rw [read?_eq_toOption, attempt_negation]
  cases keyword? "not" cs with
  | some rest => simp only [toOption_map, read?_eq_toOption]
  | none => exact (read?_eq_toOption .comparison cs).symm

/-- A comparison is a sum, or two of them with an operator in between and no other one behind. -/
theorem read?_comparison (cs : List Char) :
    read? .comparison cs =
      (read? (.chain .sum) cs).bind fun (left, rest) =>
        match comparisonOp? rest with
        | none => some (left, rest)
        | some (op, operand) =>
          (read? (.chain .sum) operand).bind fun (right, after) =>
            match comparisonOp? after with
            | some _ => none
            | none => some (.binary op left right, after) := by
  rw [read?_eq_toOption, attempt_comparison, toOption_bind, read?_eq_toOption]
  congr
  funext ⟨left, rest⟩
  dsimp only
  rcases comparisonOp? rest with _ | ⟨op, operand⟩
  · rfl
  · simp only [toOption_bind, read?_eq_toOption]
    congr
    funext ⟨right, after⟩
    dsimp only
    cases comparisonOp? after <;> rfl

/-- A sign is a minus or a plus in front of a sign, or else a power. -/
theorem read?_sign (cs : List Char) :
    read? .sign cs =
      match symbol? "-" cs with
      | some rest => (read? .sign rest).map fun (e, after) => (.unary .neg e, after)
      | none =>
        match symbol? "+" cs with
        | some rest => read? .sign rest
        | none => read? .power cs := by
  rw [read?_eq_toOption, attempt_sign]
  cases symbol? "-" cs with
  | some rest => simp only [toOption_map, read?_eq_toOption]
  | none =>
    cases symbol? "+" cs with
    | some rest => exact (read?_eq_toOption .sign rest).symm
    | none => exact (read?_eq_toOption .power cs).symm

/-- A power is an atom, or one with a signed exponent. -/
theorem read?_power (cs : List Char) :
    read? .power cs =
      (read? .atom cs).bind fun (base, rest) =>
        match symbol? "**" rest with
        | none => some (base, rest)
        | some operand =>
          (read? .sign operand).map fun (exponent, after) =>
            (.binary (.arithmetic .pow) base exponent, after) := by
  rw [read?_eq_toOption, attempt_power, toOption_bind, read?_eq_toOption]
  congr
  funext ⟨base, rest⟩
  dsimp only
  cases symbol? "**" rest with
  | none => rfl
  | some operand => simp only [toOption_map, read?_eq_toOption]

/-- Where no operator of a chain stands the chain is over. -/
theorem readMore?_of_none {c : Chain} (h : chainOp? c cs = none) (left : Expr) :
    readMore? c left cs = some (left, cs) := by
  rw [readMore?_eq_toOption, attemptMore_of_none h]
  rfl

/-- Where an operator stands the chain goes on with its operand. -/
theorem readMore?_of_some {c : Chain} {op : BinaryOp} {rest : List Char}
    (h : chainOp? c cs = some (op, rest)) (left : Expr) :
    readMore? c left cs =
      (read? c.operand rest).bind fun (right, after) => readMore? c (.binary op left right) after := by
  simp only [readMore?_eq_toOption, attemptMore_of_some h, toOption_bind, read?_eq_toOption]

end Levels

section Atoms

variable {cs tail : List Char}

/-- What a word with some characters behind it is read as. -/
def atWord? (word : String) (rest : List Char) : Option (Expr × List Char) :=
  match constant? word with
  | some value => some (.literal value, rest)
  | none =>
    if isOperatorWord word then none
    else
      match skipBlank rest with
      | [] => some (.name word, rest)
      | d :: after =>
        if d = '(' then (readItems? ')' after).map fun (args, last) => (.call word args, last)
        else some (.name word, rest)

/-- What is read behind an opening parenthesis, up to the closing one. -/
def inParentheses? (cs : List Char) : Option (Expr × List Char) :=
  (read? .loosest cs).bind fun (e, rest) =>
    match skipBlank rest with
    | [] => none
    | d :: after => if d = ')' then some (e, after) else none

/-- What is read as an atom at the front of characters that begin with no blank. -/
def atFront? : List Char → Option (Expr × List Char)
  | [] => none
  | c :: tail =>
    if isNumberStart c then
      match readNumber (c :: tail) with
      | .ok (value, rest) => some (.literal value, rest)
      | .error _ => none
    else if c = '"' ∨ c = '\'' then
      (scanString c tail).map fun (text, rest) => (.literal (.str (String.ofList text)), rest)
    else if c = '(' then inParentheses? tail
    else if c = '[' then (readItems? ']' tail).map fun (items, rest) => (.list items, rest)
    else if isWordStart c then
      atWord? (String.ofList (spanWord (c :: tail)).1) (spanWord (c :: tail)).2
    else none

/-- What parentheses answer is the success of their attempt. -/
theorem inParentheses?_eq_toOption (cs : List Char) :
    inParentheses? cs = (attemptParentheses cs).toOption := by
  rw [inParentheses?, attemptParentheses, toOption_bind, read?_eq_toOption]
  congr
  funext read
  obtain ⟨e, rest⟩ := read
  dsimp only
  rw [toOption_map, attemptClose]
  cases skipBlank rest with
  | nil => rfl
  | cons d after =>
    dsimp only
    split <;> rfl

/-- What a word answers is the success of its attempt. -/
theorem atWord?_eq_toOption (word : String) (rest cs : List Char) :
    atWord? word rest = (attemptWord word rest cs).toOption := by
  rw [atWord?, attemptWord]
  cases constant? word with
  | some value => rfl
  | none =>
    dsimp only
    split
    · rfl
    · rw [attemptNamed]
      cases skipBlank rest with
      | nil => rfl
      | cons d after =>
        dsimp only
        split
        · rw [toOption_map, readItems?_eq_toOption]
        · rfl

/-- An atom is read from its first character, blanks before it skipped. -/
theorem read?_atom (cs : List Char) : read? .atom cs = atFront? (skipBlank cs) := by
  rw [read?_eq_toOption, attempt_atom]
  cases skipBlank cs with
  | nil => rfl
  | cons c tail =>
    rw [attemptFront, atFront?]
    split
    · cases readNumber (c :: tail) <;> rfl
    split
    · cases scanString c tail <;> rfl
    split
    · exact (inParentheses?_eq_toOption tail).symm
    split
    · rw [toOption_map, readItems?_eq_toOption]
    split
    · exact (atWord?_eq_toOption _ _ _).symm
    · rfl

/-- A number. -/
theorem read?_number {c : Char} (front : skipBlank cs = c :: tail) (start : isNumberStart c) :
    read? .atom cs =
      match readNumber (c :: tail) with
      | .ok (value, rest) => some (.literal value, rest)
      | .error _ => none := by
  rw [read?_atom, front, atFront?, if_pos start]

/-- A text between double quotes. -/
theorem read?_string (front : skipBlank cs = '"' :: tail) :
    read? .atom cs =
      (scanString '"' tail).map fun (text, rest) => (.literal (.str (String.ofList text)), rest) := by
  rw [read?_atom, front]
  rfl

/-- An expression in parentheses. -/
theorem read?_parentheses (front : skipBlank cs = '(' :: tail) :
    read? .atom cs =
      (read? .loosest tail).bind fun (e, rest) =>
        match skipBlank rest with
        | [] => none
        | d :: after => if d = ')' then some (e, after) else none := by
  rw [read?_atom, front]
  rfl

/-- A list. -/
theorem read?_list (front : skipBlank cs = '[' :: tail) :
    read? .atom cs = (readItems? ']' tail).map fun (items, rest) => (.list items, rest) := by
  rw [read?_atom, front]
  rfl

end Atoms

section Items

variable {close : Char} {cs tail : List Char}

/-- No more items. -/
theorem readItems?_of_close (front : skipBlank cs = close :: tail) :
    readItems? close cs = some ([], tail) := by
  rw [readItems?_eq_toOption, attemptItems_of_close front]
  rfl

/-- An item, and others behind it if a comma follows. -/
theorem readItems?_of_item (front : ∀ tail, skipBlank cs ≠ close :: tail) :
    readItems? close cs =
      (read? .loosest cs).bind fun (item, rest) =>
        match skipBlank rest with
        | [] => none
        | d :: after =>
          if d = close then some ([item], after)
          else if d = ',' then
            (readItems? close after).map fun (items, last) => (item :: items, last)
          else none := by
  rw [readItems?_eq_toOption, attemptItems_of_item front, toOption_bind, read?_eq_toOption]
  congr
  funext ⟨item, rest⟩
  dsimp only
  rw [attemptMoreItems]
  cases skipBlank rest with
  | nil => rfl
  | cons d after =>
    dsimp only
    split
    · rfl
    split
    · rw [toOption_map, readItems?_eq_toOption]
    · rfl

end Items

/-- A text is an expression if it is read to its end but for blanks. -/
theorem toOption_readExpr (cs : List Char) :
    (readExpr cs).toOption =
      (read? .loosest cs).bind fun (e, rest) =>
        match skipBlank rest with
        | [] => some e
        | _ :: _ => none := by
  rw [readExpr_eq, toOption_bind, read?_eq_toOption]
  congr
  funext ⟨e, rest⟩
  dsimp only
  rw [readEnd]
  cases skipBlank rest <;> rfl

/-- A text is parsed as an expression where its characters are read as one. -/
theorem toOption_parse (text : String) : (parse text).toOption = (readExpr text.toList).toOption := by
  rw [parse]
  cases readExpr text.toList <;> rfl

end Backtest.Language
