/-!
# Decimal digits

Natural numbers as runs of decimal digits, and back.
-/

namespace Backtest.Number

/-- The decimal digits of a natural number; zero is one digit. -/
def digits (n : Nat) : List Char :=
  Nat.toDigits 10 n

/-- The number of decimal digits of a natural number; zero has none. -/
def digitCount (n : Nat) : Nat :=
  if n = 0 then 0 else (digits n).length

/-- The digits of a number, zeros in front filling them up to a width. -/
def paddedDigits (width n : Nat) : List Char :=
  let ds := digits n
  List.replicate (width - ds.length) '0' ++ ds

/-- An integer in decimal, with a minus in front of a negative one. -/
def intText (n : Int) : List Char :=
  if n < 0 then '-' :: digits n.natAbs else digits n.natAbs

/-- The digit that a character is. -/
def digitValue (c : Char) : Nat :=
  c.toNat - '0'.toNat

/-- The value of a run of decimal digits. -/
def digitsValue (ds : List Char) : Nat :=
  ds.foldl (fun n c => 10 * n + digitValue c) 0

end Backtest.Number
