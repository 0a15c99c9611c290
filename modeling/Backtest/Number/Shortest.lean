import Backtest.Number.Binary
import Backtest.Number.Digits

/-!
# Shortest decimals

Of all decimals that read back as a given double, the one with the fewest digits; of several
with as few digits, the one nearest to the double. For each number of digits the decimals next to
the double on that decimal grid are the only candidates, because the decimals that read back form
an interval around it.
-/

namespace Backtest.Number

/-- The number `coefficient * 10 ^ exponent`. -/
structure Decimal where
  coefficient : Nat
  exponent : Int
  deriving DecidableEq, Repr

/-- Which of two equally near decimals is taken. -/
inductive Tie where
  | upward
  | toEven
  deriving DecidableEq, Repr

/-- The exponent of the leading decimal digit of `num / den`, for positive operands. -/
def decimalExponent (num den : Nat) : Int :=
  if den ≤ num then digitCount (num / den) - 1 else -(digitCount ((den - 1) / num) : Int)

/-- The interval of numbers that round to a double, all over one denominator. -/
structure ReadBack where
  low : Nat
  value : Nat
  high : Nat
  den : Nat
  closed : Bool

/-- The interval around `significand * 2 ^ exponent`. It is narrower below a power of two, where
the doubles lie closer together, and holds its ends when the significand is even. -/
def ReadBack.ofBinary (significand : Nat) (exponent : Int) : ReadBack :=
  let below := if significand = Nat.pow 2 52 ∧ leastExponent < exponent then 1 else 2
  let (unit, den) := scaleQuotient 2 (exponent - 2) 1 1
  { low := (4 * significand - below) * unit
    value := 4 * significand * unit
    high := (4 * significand + 2) * unit
    den := den
    closed := significand % 2 == 0 }

/-- Whether `num / r.den` lies in the interval. -/
def ReadBack.contains (r : ReadBack) (num : Nat) : Bool :=
  if r.closed then decide (r.low ≤ num) && decide (num ≤ r.high)
  else decide (r.low < num) && decide (num < r.high)

/-- The same interval in units of `10 ^ exponent`. -/
def ReadBack.inUnits (r : ReadBack) (exponent : Int) : ReadBack :=
  let (unit, den) := scaleQuotient 10 (-exponent) 1 r.den
  { r with low := r.low * unit, value := r.value * unit, high := r.high * unit, den := den }

/-- The coefficient chosen on one decimal grid: a neighbour of the value that reads back, the nearer
one if both do. -/
def ReadBack.choose? (r : ReadBack) (tie : Tie) : Option Nat :=
  let down := r.value / r.den
  let up := down + 1
  let rest := 2 * (r.value - down * r.den)
  match r.contains (down * r.den), r.contains (up * r.den) with
  | true, true =>
    if rest < r.den then some down
    else if r.den < rest then some up
    else match tie with
      | .upward => some up
      | .toEven => some (if down % 2 = 0 then down else up)
  | true, false => some down
  | false, true => some up
  | false, false => none

/-- The first decimal found on the grids `10 ^ exponent`, `10 ^ (exponent - 1)` and so on. -/
def ReadBack.search (r : ReadBack) (tie : Tie) (exponent : Int) : Nat → Decimal
  | 0 => ⟨r.value / r.den, 0⟩
  | grids + 1 =>
    match (r.inUnits exponent).choose? tie with
    | some c => ⟨c, exponent⟩
    | none => r.search tie (exponent - 1) grids

/-- A decimal without trailing zeros in its coefficient; `fuel` bounds the zeros dropped. -/
def Decimal.strip (d : Decimal) : Nat → Decimal
  | 0 => d
  | fuel + 1 =>
    if d.coefficient ≠ 0 ∧ d.coefficient % 10 = 0 then
      Decimal.strip ⟨d.coefficient / 10, d.exponent + 1⟩ fuel
    else d

/-- The shortest decimal that reads back as the positive double `significand * 2 ^ exponent`.
Seventeen digits always suffice. -/
def shortest (tie : Tie) (significand : Nat) (exponent : Int) : Decimal :=
  if significand = 0 then ⟨0, 0⟩
  else
    let r := ReadBack.ofBinary significand exponent
    (r.search tie (decimalExponent r.value r.den) 18).strip 18

end Backtest.Number
