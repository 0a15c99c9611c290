import Backtest.Number.Binary
import Backtest.Number.Digits

/-!
# Reading numbers

The texts that are numbers and the numbers they stand for: whole numbers of 64 bits, and doubles,
which are rounded correctly from the exact decimal.
-/

namespace Backtest.Number

/-- A leading sign and what follows it; `true` is a minus. -/
def splitSign : List Char → Bool × List Char
  | '-' :: rest => (true, rest)
  | '+' :: rest => (false, rest)
  | cs => (false, cs)

/-- The whole number between the two bounds that an optional sign and one or more digits give. -/
def readInteger? (least greatest : Int) (cs : List Char) : Option Int :=
  let (negative, ds) := splitSign cs
  if ds.isEmpty || !ds.all Char.isDigit then none
  else
    let n : Int := if negative then -(digitsValue ds : Int) else digitsValue ds
    if least ≤ n ∧ n ≤ greatest then some n else none

/-- A signed 64-bit number. -/
def readInt64? (cs : List Char) : Option Int64 :=
  (readInteger? Int64.minValue.toInt Int64.maxValue.toInt cs).map Int64.ofInt

/-- The double nearest to `coefficient * 10 ^ exponent`. Magnitudes that no finite double comes
near are answered without forming the power of ten. -/
def nearestDecimal (negative : Bool) (coefficient : Nat) (exponent : Int) : Float :=
  let point := exponent + digitCount coefficient
  if coefficient = 0 ∨ point < -400 then nearestFloat negative 0 1
  else if 400 < point then nearestFloat negative (Nat.pow 2 1100) 1
  else
    let (num, den) := scaleQuotient 10 exponent coefficient 1
    nearestFloat negative num den

/-- Why a text is no double. -/
inductive FloatFault where
  | empty
  | malformed
  deriving DecidableEq, Repr

/-- The text of a fault. -/
def FloatFault.message : FloatFault → String
  | .empty => "cannot parse float from empty string"
  | .malformed => "invalid float literal"

/-- The words for doubles that are no finite number. -/
def readSpecial? (negative : Bool) (cs : List Char) : Option Float :=
  let word := String.ofList (cs.map Char.toLower)
  if word = "inf" ∨ word = "infinity" then
    some (if negative then -(1.0 / 0.0) else 1.0 / 0.0)
  else if word = "nan" then some (0.0 / 0.0)
  else none

/-- The exponent part: nothing, or `e` with an optional sign and digits. -/
def readExponent? : List Char → Option Int
  | [] => some 0
  | c :: rest =>
    if c = 'e' ∨ c = 'E' then
      let (negative, ds) := splitSign rest
      if ds.isEmpty || !ds.all Char.isDigit then none
      else some (if negative then -(digitsValue ds : Int) else digitsValue ds)
    else none

/-- A double in decimal notation: an optional sign, digits with at most one point among them, and an
optional exponent; or a word for an infinity or for no number. -/
def readFloat (cs : List Char) : Except FloatFault Float :=
  if cs.isEmpty then .error .empty
  else
    let (negative, body) := splitSign cs
    let whole := body.takeWhile Char.isDigit
    let afterWhole := body.dropWhile Char.isDigit
    let (fraction, afterFraction) := match afterWhole with
      | '.' :: rest => (rest.takeWhile Char.isDigit, rest.dropWhile Char.isDigit)
      | rest => ([], rest)
    let ds := whole ++ fraction
    if ds.isEmpty then
      match readSpecial? negative body with
      | some x => .ok x
      | none => .error .malformed
    else
      match readExponent? afterFraction with
      | some e => .ok (nearestDecimal negative (digitsValue ds) (e - fraction.length))
      | none => .error .malformed

/-- A double, if the text is one. -/
def readFloat? (cs : List Char) : Option Float :=
  (readFloat cs).toOption

end Backtest.Number
