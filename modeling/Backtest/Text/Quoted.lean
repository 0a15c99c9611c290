import Backtest.Text.Property
import Backtest.Number.Digits

/-!
# Quoted text

A text between double quotes, in which quotes, backslashes and everything that does not show as
itself are written as escapes.
-/

namespace Backtest.Text

/-- How a character stands inside a quoted text. -/
inductive Spelling where
  | plain
  /-- A backslash and one letter. -/
  | short (letter : Char)
  /-- A backslash and the code point in hexadecimal between braces. -/
  | code
  deriving DecidableEq, Repr

/-- The spelling of a character. A mark that is drawn on the character before it is spelled by its code,
so that it cannot join the quote. -/
def spelling (c : Char) : Spelling :=
  if c = '\x00' then .short '0'
  else if c = '\t' then .short 't'
  else if c = '\r' then .short 'r'
  else if c = '\n' then .short 'n'
  else if c = '"' then .short '"'
  else if c = '\\' then .short '\\'
  else if isCombining c || !isPrintable c then .code
  else .plain

/-- The characters that a character is written as. -/
def quoteChar (c : Char) : List Char :=
  match spelling c with
  | .plain => [c]
  | .short letter => ['\\', letter]
  | .code => ['\\', 'u', '\x7b'] ++ Nat.toDigits 16 c.toNat ++ ['\x7d']

/-- A text in double quotes, as characters. -/
def quoteChars (cs : List Char) : List Char :=
  '"' :: cs.flatMap quoteChar ++ ['"']

/-- A text in double quotes. -/
def quote (s : String) : String :=
  String.ofList (quoteChars s.toList)

end Backtest.Text
