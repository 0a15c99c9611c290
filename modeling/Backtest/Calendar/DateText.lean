import Backtest.Calendar.Date
import Backtest.Number.Digits
import Backtest.Text.Property

/-!
# The text of a date

Dates are written as year, month and day with hyphens between them; a year beyond four digits or
before the year zero has a sign. Two readers accept more than what is written: digits that are not
padded and blanks before a number, and the lenient one blanks around the hyphens too.
-/

namespace Backtest.Calendar

open Backtest.Number

/-- The digits of a year with the sign that it needs. -/
def yearText (year : Int) : List Char :=
  let sign := if year < 0 then ['-'] else if 9999 < year then ['+'] else []
  sign ++ paddedDigits 4 year.natAbs

/-- A date as characters. -/
def Date.chars (d : Date) : List Char :=
  yearText d.year ++ '-' :: paddedDigits 2 d.month ++ '-' :: paddedDigits 2 d.day

/-- The text of a date. -/
def Date.text (d : Date) : String :=
  String.ofList d.chars

/-- Up to `most` digits at the front of the characters, and the rest behind them. -/
def spanDigits (most : Nat) (cs : List Char) : List Char × List Char :=
  let ds := (cs.take most).takeWhile Char.isDigit
  (ds, cs.drop ds.length)

/-- A number of one to `most` digits with blanks before it, and the rest behind it. -/
def readDigits? (most : Nat) (cs : List Char) : Option (Nat × List Char) :=
  match spanDigits most (Text.dropBlanks cs) with
  | ([], _) => none
  | (ds, rest) => some (digitsValue ds, rest)

/-- A year with blanks before it, and the rest behind it. Four digits are its most unless it has a
sign. -/
def readYear? (cs : List Char) : Option (Int × List Char) :=
  match Text.dropBlanks cs with
  | '-' :: rest =>
    match spanDigits rest.length rest with
    | ([], _) => none
    | (ds, after) => some (-(digitsValue ds : Int), after)
  | '+' :: rest =>
    match spanDigits rest.length rest with
    | ([], _) => none
    | (ds, after) => some ((digitsValue ds : Int), after)
  | cs => (readDigits? 4 cs).map fun (n, rest) => ((n : Int), rest)

/-- The rest behind a character. -/
def expect? (c : Char) : List Char → Option (List Char)
  | [] => none
  | d :: rest => if d = c then some rest else none

/-- The date at the front of the characters, and the rest behind it; `skip` is applied before each
hyphen. -/
def readDateWith? (skip : List Char → List Char) (cs : List Char) : Option (Date × List Char) := do
  let (year, rest) ← readYear? cs
  let rest ← expect? '-' (skip rest)
  let (month, rest) ← readDigits? 2 rest
  let rest ← expect? '-' (skip rest)
  let (day, rest) ← readDigits? 2 rest
  let d ← Date.ofParts? year month day
  return (d, rest)

/-- The date that a text is, without blanks before its hyphens and behind it. -/
def Date.ofChars? (cs : List Char) : Option Date :=
  match readDateWith? id cs with
  | some (d, []) => some d
  | _ => none

/-- The date that a text is, blanks allowed around its parts. -/
def Date.ofLenientChars? (cs : List Char) : Option Date :=
  match readDateWith? Text.dropBlanks cs with
  | some (d, rest) => if (Text.dropBlanks rest).isEmpty then some d else none
  | none => none

end Backtest.Calendar
