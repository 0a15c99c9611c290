import Backtest.Language.Parser

/-!
# Reading by position

The readers of expressions and statements as they go over the bytes of a text: a cursor is a position that is
moved by the bytes of what was read, and the text is sliced at it whenever a reader looks. A slice that does
not begin between two characters of the text ends the walk without an answer, and so do loops and descents
that have gone on for more rounds than there were characters; a cursor remembers where it has been.
-/

namespace Backtest.Language

open Backtest.Text

/-- The first bytes of characters and the rest behind them, if they are whole characters. -/
def splitBytes? : List Char → Nat → Option (List Char × List Char)
  | cs, 0 => some ([], cs)
  | [], _ + 1 => none
  | c :: cs, n + 1 =>
    if c.utf8Size ≤ n + 1 then
      (splitBytes? cs (n + 1 - c.utf8Size)).map fun (front, back) => (c :: front, back)
    else none

/-- A text and a position in its bytes, with the positions before it. -/
structure Cursor where
  text : List Char
  position : Nat
  earlier : List Nat

/-- The cursor at the front of a text. -/
def Cursor.start (text : String) : Cursor :=
  ⟨text.toList, 0, []⟩

/-- Computations that move a cursor and may fail with an error in the text. They answer nothing at all if
they slice a character or do not come to an end. -/
abbrev Walk := ExceptT ParseError (StateT Cursor Option)

namespace Walk

/-- The characters behind some bytes. -/
def dropBytes (n : Nat) (cs : List Char) : Walk (List Char) :=
  fun c => (splitBytes? cs n).map fun (_, back) => (.ok back, c)

/-- The text behind the cursor. -/
def remaining : Walk (List Char) :=
  fun c => dropBytes c.position c.text c

/-- The text from a position to the cursor. -/
def since (start : Nat) : Walk (List Char) := fun c =>
  (splitBytes? c.text c.position).bind fun (front, _) =>
    (splitBytes? front start).map fun (_, slice) => (.ok slice, c)

def position : Walk Nat :=
  fun c => some (.ok c.position, c)

def moveTo (position : Nat) : Walk Unit :=
  fun c => some (.ok (), { c with position := position, earlier := c.position :: c.earlier })

def moveBy (count : Nat) : Walk Unit := do
  moveTo ((← position) + count)

/-- The number of bytes of the text. -/
def bytes : Walk Nat :=
  fun c => some (.ok (byteLength c.text), c)

def moveToEnd : Walk Unit := do
  moveTo (← bytes)

/-- No answer at all. -/
def stuck {α : Type} : Walk α :=
  fun _ => none

/-- Fails with a fault at a position. -/
def failAt {α : Type} (fault : SyntaxFault) (position : Nat) : Walk α :=
  throw ⟨fault, position⟩

/-- Fails with a fault at the cursor. -/
def fail {α : Type} (fault : SyntaxFault) : Walk α := do
  failAt fault (← position)

/-! ### Rounds -/

/-- One round for each character behind the cursor, and one more to find the end of the text. -/
def rounds : Walk Nat :=
  return (← remaining).length + 1

/-- Some rounds of a loop. -/
def repeatFor {ι α : Type} (round : (ι → Walk α) → ι → Walk α) : Nat → ι → Walk α
  | 0 => fun _ => stuck
  | n + 1 => round (repeatFor round n)

/-- A loop, which goes over some character of the text before each round but the first. -/
def loop {ι α : Type} (round : (ι → Walk α) → ι → Walk α) (start : ι) : Walk α := do
  repeatFor round (← rounds) start

/-! ### Characters -/

def peek : Walk (Option Char) :=
  return (← remaining).head?

def advance : Walk (Option Char) := do
  match ← peek with
  | none => return none
  | some c =>
    moveBy c.utf8Size
    return some c

def skipRound (again : Unit → Walk Unit) (_ : Unit) : Walk Unit := do
  match ← peek with
  | none => return ()
  | some c =>
    if isBlank c then do
      let _ ← advance
      again ()
    else if c = '#' then do
      moveToEnd
      again ()
    else return ()

/-- Goes over blanks and a comment, which runs to the end of the text. -/
def skip : Walk Unit :=
  loop skipRound ()

def expectChar (wanted : Char) : Walk Unit := do
  skip
  match ← peek with
  | none => fail (.expectedChar wanted none)
  | some c =>
    if c = wanted then do
      let _ ← advance
      return ()
    else fail (.expectedChar wanted (some c))

/-- Goes over a character if it comes next. -/
def passChar (wanted : Char) : Walk Bool := do
  skip
  if (← peek) = some wanted then do
    let _ ← advance
    return true
  else return false

/-- Goes over a symbol if it comes next. -/
def passSymbol (text : String) : Walk Bool := do
  skip
  if text.toList.isPrefixOf (← remaining) then do
    moveBy (byteLength text.toList)
    return true
  else return false

/-- Whether a word comes next and ends where the given one does. -/
def peekKeyword (word : String) : Walk Bool := do
  let cs ← remaining
  if word.toList.isPrefixOf cs then do
    let rest ← dropBytes (byteLength word.toList) cs
    return !rest.head?.any isWordChar
  else return false

def passKeyword (word : String) : Walk Bool := do
  skip
  if ← peekKeyword word then do
    moveBy (byteLength word.toList)
    return true
  else return false

/-- The meaning of the first of several symbols that comes next. -/
def passFirst {α : Type} : List (String × α) → Walk (Option α)
  | [] => return none
  | entry :: table => do
    if ← passSymbol entry.1 then return some entry.2
    else passFirst table

/-! ### Words, numbers and quoted texts -/

def peekWord : Walk (Option String) :=
  return shownWord? (← remaining)

def identifier : Walk (Option String) := do
  skip
  match ← peek with
  | none => return none
  | some c =>
    if isWordStart c then do
      let word := (← remaining).takeWhile isWordChar
      moveBy (byteLength word)
      return some (String.ofList word)
    else return none

/-- What has been seen of a number. -/
structure Seen where
  hasPoint : Bool
  hasDigit : Bool

def numberRound (again : Seen → Walk Seen) (seen : Seen) : Walk Seen := do
  match ← peek with
  | none => return seen
  | some c =>
    if c.isDigit then do
      let _ ← advance
      again { seen with hasDigit := true }
    else if c = '_' ∧ seen.hasDigit then do
      let _ ← advance
      again seen
    else if c = '.' ∧ !seen.hasPoint then do
      let _ ← advance
      again { seen with hasPoint := true }
    else return seen

/-- Goes over digits, separators behind the first digit, and one point; tells whether there was a point and
whether there was a digit. -/
def passNumber : Walk Seen :=
  loop numberRound ⟨false, false⟩

def digitRound (again : Unit → Walk Unit) (_ : Unit) : Walk Unit := do
  match ← peek with
  | none => return ()
  | some c =>
    if c.isDigit then do
      let _ ← advance
      again ()
    else return ()

def passDigits : Walk Unit :=
  loop digitRound ()

def passSign : Walk Unit := do
  match ← peek with
  | none => return ()
  | some c =>
    if c = '+' ∨ c = '-' then do
      let _ ← advance
      return ()
    else return ()

/-- Goes over an exponent; tells whether there was one. -/
def passExponent : Walk Bool := do
  match ← peek with
  | none => return false
  | some c =>
    if c = 'e' ∨ c = 'E' then do
      let _ ← advance
      passSign
      let digits ← position
      passDigits
      if (← position) = digits then fail .expectedExponentDigits
      else return true
    else return false

def number : Walk Value := do
  skip
  let start ← position
  let seen ← passNumber
  if !seen.hasDigit then failAt .expectedNumber start
  else do
    let hasExponent ← passExponent
    let kept := (← since start).filter (· != '_')
    let value := if seen.hasPoint || hasExponent then (Number.readFloat? kept).map Value.float
      else (Number.readInt64? kept).map Value.int
    match value with
    | some value => return value
    | none => failAt (.invalidNumber (String.ofList kept)) start

def quotedRound (quote : Char) (start : Nat) (again : Unit → Walk (List Char)) (_ : Unit) :
    Walk (List Char) := do
  match ← advance with
  | none => failAt .unterminatedString start
  | some c =>
    if c = quote then return []
    else if c = '\\' then do
      match ← advance with
      | none => failAt .unterminatedString start
      | some d => do
        let text ← again ()
        return match escaped? d with
          | some e => e :: text
          | none => c :: d :: text
    else do
      let text ← again ()
      return c :: text

/-- The characters of a text up to its closing quote; the text begins at a position. -/
def quoted (quote : Char) (start : Nat) : Walk (List Char) :=
  loop (quotedRound quote start) ()

/-- The characters of a text from its opening quote, which comes next, to its closing one. -/
def string (quote : Char) : Walk (List Char) := do
  let start ← position
  let _ ← advance
  quoted quote start

/-! ### Expressions -/

/-- The operator that goes on with a chain. -/
def passChainOp (c : Chain) : Walk (Option BinaryOp) :=
  match c with
  | .disjunction => do
    if ← passKeyword "or" then return some (.logic .or) else return none
  | .conjunction => do
    if ← passKeyword "and" then return some (.logic .and) else return none
  | .sum => passFirst sumSymbols
  | .product => do
    skip
    if "**".toList.isPrefixOf (← remaining) then return none
    else passFirst productSymbols

/-- What reads behind something that has been read: an expression of a level, the operators of a chain and
their operands, the items up to a closing character, and an item with those that follow it. -/
structure Readers where
  level : Level → Walk Expr
  chain : Chain → Expr → Walk Expr
  sequence : Char → Walk (List Expr)
  items : Char → Walk (List Expr)

section Descent

variable (behind : Readers)

/-- Reads the arguments of a call behind a name, if there are any. -/
def named (name : String) : Walk Expr := do
  if ← passChar '(' then do
    let args ← behind.sequence ')'
    return .call name args
  else return .name name

/-- Reads a constant, a name or a call. -/
def word : Walk Expr := do
  let start ← position
  match ← identifier with
  | none => do
    fail (.expectedExpression (← peekWord))
  | some name =>
    match constant? name with
    | some value => return .literal value
    | none =>
      if isOperatorWord name then failAt (.expectedExpression (some name)) start
      else named behind name

def atom : Walk Expr := do
  skip
  match ← peek with
  | none => word behind
  | some c =>
    if isNumberStart c then do
      let value ← number
      return .literal value
    else if c = '"' ∨ c = '\'' then do
      let text ← string c
      return .literal (.str (String.ofList text))
    else if c = '(' then do
      let _ ← advance
      let inner ← behind.level .loosest
      expectChar ')'
      return inner
    else if c = '[' then do
      let _ ← advance
      let items ← behind.sequence ']'
      return .list items
    else word behind

def power : Walk Expr := do
  let base ← atom behind
  if ← passSymbol "**" then do
    let exponent ← behind.level .sign
    return .binary (.arithmetic .pow) base exponent
  else return base

def sign : Walk Expr := do
  if ← passSymbol "-" then do
    let operand ← behind.level .sign
    return .unary .neg operand
  else do
    if ← passSymbol "+" then behind.level .sign
    else power behind

/-- Reads the operands of a chain. -/
def chained (c : Chain) (operand : Walk Expr) : Walk Expr := do
  let left ← operand
  behind.chain c left

def sum : Walk Expr :=
  chained behind .sum (chained behind .product (sign behind))

def comparison : Walk Expr := do
  let left ← sum behind
  match ← passFirst comparisonSymbols with
  | none => return left
  | some op => do
    let right ← behind.level (.chain .sum)
    match ← passFirst comparisonSymbols with
    | some _ => fail .chainedComparison
    | none => return .binary op left right

def negation : Walk Expr := do
  if ← passKeyword "not" then do
    let operand ← behind.level .negation
    return .unary .not operand
  else comparison behind

/-- Reads an expression of a level. -/
def expressionAt (level : Level) : Walk Expr :=
  match level with
  | .chain .disjunction => chained behind .disjunction (chained behind .conjunction (negation behind))
  | .chain .conjunction => chained behind .conjunction (negation behind)
  | .negation => negation behind
  | .comparison => comparison behind
  | .chain .sum => sum behind
  | .chain .product => chained behind .product (sign behind)
  | .sign => sign behind
  | .power => power behind
  | .atom => atom behind

/-- Goes on with a chain whose operands so far are `left`, as long as its operators follow. -/
def chainFrom (c : Chain) (left : Expr) : Walk Expr := do
  match ← passChainOp c with
  | none => return left
  | some op => do
    let right ← behind.level c.operand
    behind.chain c (.binary op left right)

/-- Reads an item and those that follow it. -/
def items (close : Char) : Walk (List Expr) := do
  let item ← expressionAt behind .loosest
  if ← passChar close then return [item]
  else do
    expectChar ','
    if ← passChar close then return [item]
    else do
      let more ← behind.items close
      return item :: more

/-- Reads items with commas between them up to the closing character; a comma may stand behind the
last item. -/
def sequence (close : Char) : Walk (List Expr) := do
  if ← passChar close then return []
  else items behind close

end Descent

/-- The descent for some rounds, each of which begins behind something that has been read. -/
def readers : Nat → Readers
  | 0 => ⟨fun _ => stuck, fun _ _ => stuck, fun _ => stuck, fun _ => stuck⟩
  | n + 1 => ⟨expressionAt (readers n), chainFrom (readers n), sequence (readers n), items (readers n)⟩

def expression : Walk Expr := do
  (readers (← rounds)).level .loosest

/-- The text behind an expression has to be blank. -/
def finish : Walk Unit := do
  skip
  if (← position) < (← bytes) then do
    fail (.unexpectedInput (String.ofList (← remaining)))
  else return ()

/-- Reads to the end of the text. -/
def whole {α : Type} (body : Walk α) : Walk α := do
  let a ← body
  finish
  return a

/-- Reads an assignment if the text begins like one, else an expression. -/
def statement : Walk Statement := do
  let checkpoint ← position
  match ← identifier with
  | none => do
    moveTo checkpoint
    let e ← expression
    return .expr e
  | some name => do
    skip
    let rest ← remaining
    if ['='].isPrefixOf rest && !(['=', '='].isPrefixOf rest) && isIdentifier name then do
      let _ ← advance
      let value ← expression
      return .assign name value
    else do
      moveTo checkpoint
      let e ← expression
      return .expr e

/-- The front of a statement: goes over a name and the equals sign behind it if the text begins like an
assignment, and else stays where it is. -/
def assigned : Walk (Option String) := do
  let checkpoint ← position
  match ← identifier with
  | none => do
    moveTo checkpoint
    return none
  | some name => do
    skip
    let rest ← remaining
    if ['='].isPrefixOf rest && !(['=', '='].isPrefixOf rest) && isIdentifier name then do
      let _ ← advance
      return some name
    else do
      moveTo checkpoint
      return none

/-- A statement is an expression, behind a name that it is assigned to if there is one. -/
theorem statement_eq :
    statement = (do
      match ← assigned with
      | some name => do
        let value ← expression
        return .assign name value
      | none => do
        let e ← expression
        return .expr e) := by
  rw [statement, assigned]
  simp only [bind_assoc]
  congr 1
  funext checkpoint
  congr 1
  funext name?
  cases name? with
  | none => simp only [bind_assoc, pure_bind]
  | some name =>
    simp only [bind_assoc]
    congr 1
    funext _
    congr 1
    funext rest
    split
    · simp only [bind_assoc, pure_bind]
    · simp only [bind_assoc, pure_bind]

end Walk

end Backtest.Language
