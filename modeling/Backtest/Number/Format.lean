import Backtest.Number.Shortest

/-!
# Number formats

How doubles are written: in full with the shortest digits, with an exponent outside a range of
magnitudes, and with a fixed number of places. Each format is one record value.
-/

namespace Backtest.Number

/-- How a double is written with its shortest digits. -/
structure FloatFormat where
  /-- The decimal taken when two are equally near. -/
  tie : Tie
  /-- Whether a number whose first digit stands this many places before the point is written
  without an exponent. -/
  positional : Int → Bool
  /-- Whether a whole number shows every digit of its exact value. -/
  exactWhole : Bool

/-- A decimal in full, with at least one digit on both sides of the point. -/
def positionalText (d : Decimal) : List Char :=
  if 0 ≤ d.exponent then
    digits (d.coefficient * Nat.pow 10 d.exponent.toNat) ++ ['.', '0']
  else
    let places := (-d.exponent).toNat
    let padded := paddedDigits (places + 1) d.coefficient
    let whole := padded.length - places
    padded.take whole ++ '.' :: padded.drop whole

/-- A decimal with one digit before the point and an exponent, which always has a sign; a single digit has
no point. -/
def scientificText (d : Decimal) : List Char :=
  let ds := digits d.coefficient
  let power := d.exponent + ds.length - 1
  let point := match ds.drop 1 with
    | [] => []
    | rest => '.' :: rest
  let sign := if power < 0 then '-' else '+'
  ds.take 1 ++ point ++ 'e' :: sign :: digits power.natAbs

/-- The exact value of a binary number, if that is whole. -/
def wholeValue? (significand : Nat) (exponent : Int) : Option Nat :=
  let (num, den) := scaleQuotient 2 exponent significand 1
  if num % den = 0 then some (num / den) else none

/-- A finite number without its sign. -/
def FloatFormat.magnitude (f : FloatFormat) (significand : Nat) (exponent : Int) : List Char :=
  let exact := if f.exactWhole then wholeValue? significand exponent else none
  match exact with
  | some n => positionalText ⟨n, 0⟩
  | none =>
    let d := shortest f.tie significand exponent
    if significand = 0 || f.positional (d.exponent + digitCount d.coefficient) then
      positionalText d
    else scientificText d

/-- The text of a double; what is no finite number has a word, the same in every format. -/
def FloatFormat.text (f : FloatFormat) (x : Float) : String :=
  match Binary.ofFloat x with
  | .nan => "NaN"
  | .infinite negative => if negative then "-inf" else "inf"
  | .finite negative significand exponent =>
    String.ofList ((if negative then ['-'] else []) ++ f.magnitude significand exponent)

/-- Values of the language are written without an exponent, whole ones with all their digits. -/
def plainFormat : FloatFormat where
  tie := .upward
  positional := fun _ => true
  exactWhole := true

/-- Documents take an exponent from ten to the sixteenth on, and below a hundred-thousandth. -/
def documentFormat : FloatFormat where
  tie := .toEven
  positional := fun point => decide (-5 < point) && decide (point ≤ 16)
  exactWhole := false

/-- A double rounded to a fixed number of places; an exact tie goes to the even neighbour and a
zero keeps its sign. -/
def fixedPlaces (places : Nat) (x : Float) : String :=
  match Binary.ofFloat x with
  | .nan => "NaN"
  | .infinite negative => if negative then "-inf" else "inf"
  | .finite negative significand exponent =>
    let (num, den) := scaleQuotient 2 exponent significand 1
    let padded := paddedDigits (places + 1) (roundQuotient (num * Nat.pow 10 places) den)
    let whole := padded.length - places
    let point := if places = 0 then [] else '.' :: padded.drop whole
    String.ofList ((if negative then ['-'] else []) ++ padded.take whole ++ point)

end Backtest.Number
