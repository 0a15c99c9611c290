/-!
# Doubles as exact numbers

A finite double is a sign and a product `significand * 2 ^ exponent`. This file takes a double
apart into that form and finds the double nearest to a quotient of natural numbers, so that
printing and reading can work in exact arithmetic.
-/

namespace Backtest.Number

/-- The number that a double stands for. -/
inductive Binary where
  | finite (negative : Bool) (significand : Nat) (exponent : Int)
  | infinite (negative : Bool)
  | nan
  deriving DecidableEq, Repr

/-- The exponent of the last place of the doubles nearest to zero. -/
def leastExponent : Int := -1074

/-- The number that a 64-bit word encodes. -/
def Binary.ofBits (word : UInt64) : Binary :=
  let n : Nat := word.toNat
  let negative := decide (Nat.pow 2 63 ≤ n)
  let field : Nat := n / Nat.pow 2 52 % Nat.pow 2 11
  let fraction : Nat := n % Nat.pow 2 52
  if field = 2047 then
    if fraction = 0 then .infinite negative else .nan
  else if field = 0 then .finite negative fraction leastExponent
  else .finite negative (Nat.pow 2 52 + fraction) (leastExponent + field - 1)

/-- The number that a double stands for. -/
def Binary.ofFloat (x : Float) : Binary :=
  .ofBits x.toBits

/-- The natural number nearest to `num / den`, a tie going to the even neighbour. -/
def roundQuotient (num den : Nat) : Nat :=
  let quotient := num / den
  let twice := 2 * (num % den)
  if den < twice ∨ (twice = den ∧ quotient % 2 = 1) then quotient + 1 else quotient

/-- The numerator and denominator of `num / den * base ^ power`. -/
def scaleQuotient (base : Nat) (power : Int) (num den : Nat) : Nat × Nat :=
  if power < 0 then (num, den * Nat.pow base (-power).toNat) else (num * Nat.pow base power.toNat, den)

/-- The exponent of the highest power of two that is at most `num / den`, for positive operands. -/
def binaryExponent (num den : Nat) : Int :=
  let guess : Int := num.log2 - den.log2
  let (n, d) := scaleQuotient 2 (-guess) num den
  if n < d then guess - 1 else guess

/-- The bits of the positive double nearest to `num / den`. A significand that rounds up to the
next power of two carries into the exponent field, which is the right double. -/
def nearestBits (num den : Nat) : UInt64 :=
  if num = 0 then 0
  else
    let exponent := max (binaryExponent num den - 52) leastExponent
    let (n, d) := scaleQuotient 2 (-exponent) num den
    let word := (exponent - leastExponent).toNat * Nat.pow 2 52 + roundQuotient n d
    UInt64.ofNat (min word (2047 * Nat.pow 2 52))

/-- The double nearest to `num / den`, with the given sign. -/
def nearestFloat (negative : Bool) (num den : Nat) : Float :=
  let bits := nearestBits num den
  Float.ofBits (if negative then bits + 0x8000000000000000 else bits)

/-- The double nearest to a whole number of 64 bits. -/
def ofInt64 (n : Int64) : Float :=
  nearestFloat (n.toInt < 0) n.toInt.natAbs 1

end Backtest.Number
