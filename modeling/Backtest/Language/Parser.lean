import Backtest.Language.Lexeme
import Backtest.Language.Precedence

/-!
# Reading expressions

Texts are read by descent through the levels of precedence. Every reader takes the remaining characters
and returns what it read with a shorter rest, which is why reading ends. A failure keeps the rest at
which it was found; its position in bytes is the length of what stands before that rest.
-/

namespace Backtest.Language

open Backtest.Text

/-- What is left behind something that was read: fewer characters. -/
abbrev Shorter (cs : List Char) := { rest : List Char // rest.length < cs.length }

/-- What is left behind something that may be empty. -/
abbrev NotLonger (cs : List Char) := { rest : List Char // rest.length ≤ cs.length }

/-- The operator that goes on with a chain, and the rest behind it. A double star is no product. -/
def chainOp? (c : Chain) (cs : List Char) : Option (BinaryOp × List Char) :=
  match c with
  | .disjunction => (keyword? "or" cs).map fun rest => (.logic .or, rest)
  | .conjunction => (keyword? "and" cs).map fun rest => (.logic .and, rest)
  | .sum => firstSymbol? sumSymbols cs
  | .product => if (symbol? "**" cs).isSome then none else firstSymbol? productSymbols cs

/-- Behind a symbol fewer characters are left. -/
theorem symbol?_shorter {text : String} {cs rest : List Char} (h : symbol? text cs = some rest)
    (nonempty : text.toList ≠ []) : rest.length < cs.length := by
  have := symbol?_length h
  have := List.length_pos_iff.2 nonempty
  omega

/-- Behind a keyword fewer characters are left. -/
theorem keyword?_shorter {word : String} {cs rest : List Char} (h : keyword? word cs = some rest)
    (nonempty : word.toList ≠ []) : rest.length < cs.length :=
  symbol?_shorter (symbol?_of_keyword? h) nonempty

/-- Behind an operator of a chain fewer characters are left. -/
theorem chainOp?_shorter {c : Chain} {cs rest : List Char} {op : BinaryOp}
    (h : chainOp? c cs = some (op, rest)) : rest.length < cs.length := by
  cases c with
  | disjunction =>
    obtain ⟨r, hr, heq⟩ := Option.map_eq_some_iff.1 h
    injection heq with _ heq
    exact heq ▸ keyword?_shorter hr (by decide)
  | conjunction =>
    obtain ⟨r, hr, heq⟩ := Option.map_eq_some_iff.1 h
    injection heq with _ heq
    exact heq ▸ keyword?_shorter hr (by decide)
  | sum => exact firstSymbol?_length h (by decide)
  | product =>
    simp only [chainOp?] at h
    split at h
    · simp at h
    · exact firstSymbol?_length h (by decide)

/-- The test that a comparison goes on with, and the rest behind it. -/
def comparisonOp? (cs : List Char) : Option (BinaryOp × List Char) :=
  firstSymbol? comparisonSymbols cs

/-- Behind a comparison fewer characters are left. -/
theorem comparisonOp?_shorter {cs rest : List Char} {op : BinaryOp}
    (h : comparisonOp? cs = some (op, rest)) : rest.length < cs.length :=
  firstSymbol?_length h (by decide)

/-- The value that a reserved word stands for. -/
def constant? (word : String) : Option Value :=
  if word = "True" then some (.bool true)
  else if word = "False" then some (.bool false)
  else if word = "None" then some .nothing
  else none

/-- The words that are operators and begin no expression but a negation. -/
def isOperatorWord (word : String) : Bool :=
  word == "and" || word == "or" || word == "not"

/-- What a word begins with can also stand inside it. -/
theorem isWordChar_of_isWordStart {c : Char} (h : isWordStart c) : isWordChar c := by
  simp only [isWordStart, isWordChar, isAlphanumeric, Bool.or_eq_true] at h ⊢
  exact h.imp_left Or.inl

/-- Behind a word fewer characters are left. -/
theorem spanWord_shorter {c : Char} {cs : List Char} (h : isWordStart c) :
    (spanWord (c :: cs)).2.length < (c :: cs).length := by
  have := dropWhile_length_le isWordChar cs
  simp only [spanWord, List.dropWhile_cons, isWordChar_of_isWordStart h, if_true, List.length_cons]
  omega

/-- Behind the first character that is no blank fewer characters are left. -/
theorem length_of_skipBlank {cs tail : List Char} {c : Char} (h : skipBlank cs = c :: tail) :
    tail.length < cs.length := by
  have := skipBlank_length_le cs
  simp only [h, List.length_cons] at this
  omega

mutual

/-- Reads an expression of a level. -/
def readLevel (level : Level) (cs : List Char) : Except Failure (Expr × Shorter cs) :=
  match level with
  | .chain c =>
    have hrank := c.operand_rank_lt
    match readLevel c.operand cs with
    | .error failure => .error failure
    | .ok (left, ⟨rest, hrest⟩) =>
      match readChain c left rest with
      | .error failure => .error failure
      | .ok (e, ⟨after, hafter⟩) => .ok (e, ⟨after, Nat.lt_of_le_of_lt hafter hrest⟩)
  | .negation =>
    match h : keyword? "not" cs with
    | some rest =>
      have hrest := keyword?_shorter h (by decide)
      match readLevel .negation rest with
      | .error failure => .error failure
      | .ok (e, ⟨after, hafter⟩) => .ok (.unary .not e, ⟨after, Nat.lt_trans hafter hrest⟩)
    | none => readLevel .comparison cs
  | .comparison =>
    match readLevel (.chain .sum) cs with
    | .error failure => .error failure
    | .ok (left, ⟨rest, hrest⟩) =>
      match h : comparisonOp? rest with
      | none => .ok (left, ⟨rest, hrest⟩)
      | some (op, operand) =>
        have hoperand := Nat.lt_trans (comparisonOp?_shorter h) hrest
        match readLevel (.chain .sum) operand with
        | .error failure => .error failure
        | .ok (right, ⟨after, hafter⟩) =>
          match comparisonOp? after with
          | some (_, chained) => .error ⟨.chainedComparison, chained⟩
          | none => .ok (.binary op left right, ⟨after, Nat.lt_trans hafter hoperand⟩)
  | .sign =>
    match h : symbol? "-" cs with
    | some rest =>
      have hrest := symbol?_shorter h (by decide)
      match readLevel .sign rest with
      | .error failure => .error failure
      | .ok (e, ⟨after, hafter⟩) => .ok (.unary .neg e, ⟨after, Nat.lt_trans hafter hrest⟩)
    | none =>
      match h : symbol? "+" cs with
      | some rest =>
        have hrest := symbol?_shorter h (by decide)
        match readLevel .sign rest with
        | .error failure => .error failure
        | .ok (e, ⟨after, hafter⟩) => .ok (e, ⟨after, Nat.lt_trans hafter hrest⟩)
      | none => readLevel .power cs
  | .power =>
    match readLevel .atom cs with
    | .error failure => .error failure
    | .ok (base, ⟨rest, hrest⟩) =>
      match h : symbol? "**" rest with
      | none => .ok (base, ⟨rest, hrest⟩)
      | some operand =>
        have hoperand := Nat.lt_trans (symbol?_shorter h (by decide)) hrest
        match readLevel .sign operand with
        | .error failure => .error failure
        | .ok (exponent, ⟨after, hafter⟩) =>
          .ok (.binary (.arithmetic .pow) base exponent, ⟨after, Nat.lt_trans hafter hoperand⟩)
  | .atom =>
    match h : skipBlank cs with
    | [] => .error ⟨.expectedExpression none, []⟩
    | c :: tail =>
      have htail := length_of_skipBlank h
      if start : isNumberStart c then
        match hn : readNumber (c :: tail) with
        | .error failure => .error failure
        | .ok (value, rest) =>
          .ok (.literal value, ⟨rest, Nat.lt_of_lt_of_le (readNumber_length hn start) htail⟩)
      else if c = '"' ∨ c = '\'' then
        match hs : scanString c tail with
        | none => .error ⟨.unterminatedString, c :: tail⟩
        | some (text, rest) =>
          .ok (.literal (.str (String.ofList text)),
            ⟨rest, Nat.lt_trans (scanString_length hs) htail⟩)
      else if c = '(' then
        match readLevel .loosest tail with
        | .error failure => .error failure
        | .ok (e, ⟨rest, hrest⟩) =>
          match hd : skipBlank rest with
          | [] => .error ⟨.expectedChar ')' none, []⟩
          | d :: after =>
            if d = ')' then
              .ok (e, ⟨after, Nat.lt_trans (length_of_skipBlank hd) (Nat.lt_trans hrest htail)⟩)
            else .error ⟨.expectedChar ')' (some d), d :: after⟩
      else if c = '[' then
        match readItems ']' tail with
        | .error failure => .error failure
        | .ok (items, ⟨rest, hrest⟩) => .ok (.list items, ⟨rest, Nat.lt_trans hrest htail⟩)
      else if hw : isWordStart c then
        let word := String.ofList (spanWord (c :: tail)).1
        have hspan := Nat.lt_of_lt_of_le (spanWord_shorter hw) htail
        match constant? word with
        | some value => .ok (.literal value, ⟨(spanWord (c :: tail)).2, hspan⟩)
        | none =>
          if isOperatorWord word then .error ⟨.expectedExpression (some word), c :: tail⟩
          else
            match hd : skipBlank (spanWord (c :: tail)).2 with
            | [] => .ok (.name word, ⟨(spanWord (c :: tail)).2, hspan⟩)
            | d :: after =>
              if d = '(' then
                have hargs := Nat.lt_trans (length_of_skipBlank hd) hspan
                match readItems ')' after with
                | .error failure => .error failure
                | .ok (args, ⟨rest, hrest⟩) =>
                  .ok (.call word args, ⟨rest, Nat.lt_trans hrest hargs⟩)
              else .ok (.name word, ⟨(spanWord (c :: tail)).2, hspan⟩)
      else .error ⟨.expectedExpression (shownWord? (c :: tail)), c :: tail⟩
termination_by (cs.length, level.rank)

/-- Goes on with a chain whose operands so far are `left`, as long as its operators follow. -/
def readChain (c : Chain) (left : Expr) (cs : List Char) :
    Except Failure (Expr × NotLonger cs) :=
  match h : chainOp? c cs with
  | none => .ok (left, ⟨cs, Nat.le_refl _⟩)
  | some (op, rest) =>
    have hrest := chainOp?_shorter h
    match readLevel c.operand rest with
    | .error failure => .error failure
    | .ok (right, ⟨after, hafter⟩) =>
      have hshort := Nat.lt_trans hafter hrest
      match readChain c (.binary op left right) after with
      | .error failure => .error failure
      | .ok (e, ⟨last, hlast⟩) => .ok (e, ⟨last, Nat.le_of_lt (Nat.lt_of_le_of_lt hlast hshort)⟩)
termination_by (cs.length, 0)

/-- Reads items with commas between them up to the closing character; a comma may stand behind the
last item. -/
def readItems (close : Char) (cs : List Char) : Except Failure (List Expr × Shorter cs) :=
  match h : skipBlank cs with
  | c :: tail =>
    if c = close then .ok ([], ⟨tail, length_of_skipBlank h⟩)
    else readItem close cs
  | [] => readItem close cs
termination_by (cs.length, 10)

/-- Reads an item and those that follow it. -/
def readItem (close : Char) (cs : List Char) : Except Failure (List Expr × Shorter cs) :=
  match readLevel .loosest cs with
  | .error failure => .error failure
  | .ok (item, ⟨rest, hrest⟩) =>
    match hd : skipBlank rest with
    | [] => .error ⟨.expectedChar ',' none, []⟩
    | d :: after =>
      have hafter := Nat.lt_trans (length_of_skipBlank hd) hrest
      if d = close then .ok ([item], ⟨after, hafter⟩)
      else if d = ',' then
        match readItems close after with
        | .error failure => .error failure
        | .ok (items, ⟨last, hlast⟩) => .ok (item :: items, ⟨last, Nat.lt_trans hlast hafter⟩)
      else .error ⟨.expectedChar ',' (some d), d :: after⟩
termination_by (cs.length, 9)

end

/-- The rest behind an expression has to be blank. -/
def readEnd (rest : List Char) : Except Failure Unit :=
  match skipBlank rest with
  | [] => .ok ()
  | c :: cs => .error ⟨.unexpectedInput (String.ofList (c :: cs)), c :: cs⟩

/-- Reads a whole text as one expression. -/
def readExpr (cs : List Char) : Except Failure Expr :=
  match readLevel .loosest cs with
  | .error failure => .error failure
  | .ok (e, rest) => (readEnd rest.1).map fun _ => e

/-- The name at the front of an assignment, and the rest behind its equals sign. -/
def assignee? (cs : List Char) : Option (String × List Char) :=
  match skipBlank cs with
  | [] => none
  | c :: tail =>
    let (word, rest) := spanWord (c :: tail)
    let name := String.ofList word
    match skipBlank rest with
    | '=' :: after =>
      if isIdentifier name && after.head? != some '=' then some (name, after) else none
    | _ => none

/-- Reads a whole text as one statement: an assignment if it begins like one, else an expression. -/
def readStatement (cs : List Char) : Except Failure Statement :=
  match assignee? cs with
  | some (name, rest) => (readExpr rest).map (.assign name)
  | none => (readExpr cs).map .expr

/-- The error of a failure in a text: its position counts the bytes before the rest. -/
def Failure.toError (text : List Char) (failure : Failure) : ParseError :=
  ⟨failure.fault, byteLength text - byteLength failure.rest⟩

/-- The expression that a text is. -/
def parse (text : String) : Except ParseError Expr :=
  (readExpr text.toList).mapError (·.toError text.toList)

/-- The statement that a text is. -/
def parseStatement (text : String) : Except ParseError Statement :=
  (readStatement text.toList).mapError (·.toError text.toList)

end Backtest.Language
