import Backtest.Number.Format
import Backtest.Number.Reading
import Backtest.Text.Encoding

/-!
# Documents

Nested values as text: null, truth values, numbers, strings, lists and objects. Numbers keep their
spelling, and objects their members in order, whatever their names. A string that is in order but for an
escape or a byte that stands for no character does not keep the rest of a document from being read.
-/

namespace Backtest.Format

/-- A document. -/
inductive Json where
  | null
  | bool (b : Bool)
  /-- A number as it is spelled. -/
  | number (spelling : List Char)
  | string (s : String)
  /-- A string with something in it that is no character, or an object with such a name. -/
  | broken
  | list (items : List Json)
  | object (members : List (String × Json))

namespace Json

/-- The document of a double; what is no finite number is null. -/
def ofFloat (x : Float) : Json :=
  match Number.Binary.ofFloat x with
  | .finite .. => .number (Number.documentFormat.text x).toList
  | _ => .null

/-! ### Writing -/

/-- A character inside a quoted string. -/
def escapeChar (c : Char) : List Char :=
  if c = '"' then ['\\', '"']
  else if c = '\\' then ['\\', '\\']
  else if c = '\n' then ['\\', 'n']
  else if c = '\t' then ['\\', 't']
  else if c = '\r' then ['\\', 'r']
  else if c = '\x08' then ['\\', 'b']
  else if c = '\x0c' then ['\\', 'f']
  else if c.toNat < 32 then
    let ds := Nat.toDigits 16 c.toNat
    ['\\', 'u'] ++ List.replicate (4 - ds.length) '0' ++ ds
  else [c]

/-- A string in quotes. -/
def quoted (s : String) : List Char :=
  '"' :: s.toList.flatMap escapeChar ++ ['"']

/-- The start of a line at a depth. -/
def newLine (depth : Nat) : List Char :=
  '\n' :: List.replicate (2 * depth) ' '

mutual

/-- A document over several lines, two blanks to a depth. -/
def lines (depth : Nat) : Json → List Char
  | .null => "null".toList
  | .bool true => "true".toList
  | .bool false => "false".toList
  | .number spelling => spelling
  | .string s => quoted s
  | .broken => "\"\\ud800\"".toList
  | .list [] => "[]".toList
  | .list (item :: rest) =>
    '[' :: newLine (depth + 1) ++ lines (depth + 1) item ++ itemLines (depth + 1) rest ++
      newLine depth ++ [']']
  | .object [] => ['\x7b', '\x7d']
  | .object ((name, value) :: rest) =>
    '\x7b' :: newLine (depth + 1) ++ quoted name ++ ':' :: ' ' :: lines (depth + 1) value ++
      memberLines (depth + 1) rest ++ newLine depth ++ ['\x7d']

/-- Further items of a list, each behind a comma. -/
def itemLines (depth : Nat) : List Json → List Char
  | [] => []
  | item :: rest => ',' :: newLine depth ++ lines depth item ++ itemLines depth rest

/-- Further members of an object, each behind a comma. -/
def memberLines (depth : Nat) : List (String × Json) → List Char
  | [] => []
  | (name, value) :: rest =>
    ',' :: newLine depth ++ quoted name ++ ':' :: ' ' :: lines depth value ++
      memberLines depth rest

end

/-- The text of a document. -/
def text (j : Json) : String :=
  String.ofList (j.lines 0)

/-! ### Numbers -/

/-- The digits of a number, up to the greatest of 64 bits, and how many digits are left over. -/
def gather (n : Nat) : List Char → Nat × Nat
  | [] => (n, 0)
  | d :: rest =>
    let next := 10 * n + Number.digitValue d
    if next < Nat.pow 2 64 then gather next rest else (n, rest.length + 1)

/-- A double over a power of ten, divided in steps that are doubles themselves. -/
def divideByPower (x : Float) (power : Nat) : Float :=
  if power ≤ 308 then x / Number.nearestDecimal false 1 power
  else if x == 0.0 then x
  else divideByPower (x / Number.nearestDecimal false 1 308) (power - 308)
termination_by power

/-- A number of 64 bits times a power of ten, rounded at each step; none if it is too large. -/
def scaled? (significand : Nat) (exponent : Int) : Option Float :=
  let x := Number.nearestFloat false significand 1
  if exponent < 0 then some (divideByPower x exponent.natAbs)
  else if 308 < exponent then if significand = 0 then some x else none
  else
    let y := x * Number.nearestDecimal false 1 exponent
    if y.isInf then none else some y

/-- The parts of a number's spelling: whether it is negative, the digits before and behind the point,
and the exponent. -/
structure NumberParts where
  negative : Bool
  whole : List Char
  fraction : List Char
  exponent : Int

/-- The digits behind a point, if there is one. -/
def readFraction? : List Char → Option (List Char × List Char)
  | '.' :: rest =>
    let ds := rest.takeWhile Char.isDigit
    if ds.isEmpty then none else some (ds, rest.drop ds.length)
  | rest => some ([], rest)

/-- The exponent behind its mark, if there is one. -/
def readExponent? : List Char → Option (Int × List Char)
  | [] => some (0, [])
  | c :: rest =>
    if c = 'e' ∨ c = 'E' then
      let (negative, body) := Number.splitSign rest
      let ds := body.takeWhile Char.isDigit
      if ds.isEmpty then none
      else
        let n : Int := Number.digitsValue ds
        some (if negative then -n else n, body.drop ds.length)
    else some (0, c :: rest)

/-- The number at the front of the characters: no zero in front of other digits, and digits on both sides
of a point. -/
def readNumber? (cs : List Char) : Option (NumberParts × List Char) := do
  let (negative, body) := match cs with
    | '-' :: rest => (true, rest)
    | cs => (false, cs)
  let whole := body.takeWhile Char.isDigit
  if whole.isEmpty || (whole.head? == some '0' && 1 < whole.length) then none
  else
    let (fraction, rest) ← readFraction? (body.drop whole.length)
    let (exponent, rest) ← readExponent? rest
    return (⟨negative, whole, fraction, exponent⟩, rest)

/-- The double that a number stands for, if it is not too large. Digits beyond 64 bits count as zeros,
but a point begins the count anew. -/
def NumberParts.toFloat? (p : NumberParts) : Option Float := do
  let (n, unread) := gather 0 p.whole
  let (m, left) := gather n p.fraction
  let x ← scaled? m (unread - (p.fraction.length - left : Nat) + p.exponent)
  return if p.negative then -x else x

/-- The double that a document is. -/
def float? : Json → Option Float
  | .number spelling =>
    match readNumber? spelling with
    | some (p, []) => p.toFloat?
    | _ => none
  | _ => none

/-! ### Reading -/

/-- The characters behind blanks. -/
def skipBlanks (cs : List Char) : List Char :=
  cs.dropWhile fun c => c == ' ' || c == '\n' || c == '\t' || c == '\r'

/-- The value of a hexadecimal digit. -/
def hexValue? (c : Char) : Option Nat :=
  if c.isDigit then some (Number.digitValue c)
  else if 'a' ≤ c ∧ c ≤ 'f' then some (c.toNat - 'a'.toNat + 10)
  else if 'A' ≤ c ∧ c ≤ 'F' then some (c.toNat - 'A'.toNat + 10)
  else none

/-- A unit of sixteen bits from four hexadecimal digits. -/
def readUnit? : List Char → Option (Nat × List Char)
  | a :: b :: c :: d :: rest => do
    let a ← hexValue? a
    let b ← hexValue? b
    let c ← hexValue? c
    let d ← hexValue? d
    return (4096 * a + 256 * b + 16 * c + d, rest)
  | _ => none

/-- The unit that makes a pair with the one before it, if it follows. -/
def readSecondUnit? : List Char → Option (Nat × List Char)
  | '\\' :: 'u' :: rest => do
    let (m, rest) ← readUnit? rest
    if 0xDC00 ≤ m ∧ m ≤ 0xDFFF then return (m, rest) else none
  | _ => none

/-- The character that an escape by code stands for, which is one unit, or two that make a pair; a unit
that misses its other half stands for none. -/
def readCode? (cs : List Char) : Option (Option Char × List Char) := do
  let (n, rest) ← readUnit? cs
  if 0xD800 ≤ n ∧ n ≤ 0xDBFF then
    match readSecondUnit? rest with
    | some (m, rest) =>
      return (some (Char.ofNat (0x10000 + 1024 * (n - 0xD800) + (m - 0xDC00))), rest)
    | none => return (none, rest)
  else if 0xDC00 ≤ n ∧ n ≤ 0xDFFF then return (none, rest)
  else return (some (Char.ofNat n), rest)

/-- The character, if any, that an escape stands for, given what follows the backslash. -/
def readEscape? : List Char → Option (Option Char × List Char)
  | [] => none
  | c :: rest =>
    if c = '"' ∨ c = '\\' ∨ c = '/' then some (c, rest)
    else if c = 'b' then some ('\x08', rest)
    else if c = 'f' then some ('\x0c', rest)
    else if c = 'n' then some ('\n', rest)
    else if c = 'r' then some ('\r', rest)
    else if c = 't' then some ('\t', rest)
    else if c = 'u' then readCode? rest
    else none

/-- A string made longer in front. -/
def joined (first : Option Char) (rest : Option (List Char)) : Option (List Char) :=
  first.bind fun c => rest.map (c :: ·)

/-- The rest of a string behind its opening quote, if it has only characters, and what follows its closing
quote. The first number bounds the steps. -/
def readString? : Nat → List Char → Option (Option (List Char) × List Char)
  | 0, _ => none
  | _, [] => none
  | fuel + 1, c :: rest =>
    if c = '"' then some (some [], rest)
    else if c = '\\' then
      (readEscape? rest).bind fun (e, rest) =>
        (readString? fuel rest).map fun (cs, rest) => (joined e cs, rest)
    else if c.toNat < 32 then none
    else (readString? fuel rest).map fun (cs, rest) => (joined c cs, rest)

/-- The document of a string, if it has only characters. -/
def ofString? : Option (List Char) → Json
  | some cs => .string (String.ofList cs)
  | none => .broken

/-- The document of an object's members, if their names have only characters. -/
def ofMembers? : Option (List (String × Json)) → Json
  | some members => .object members
  | none => .broken

/-- Members with one more in front. -/
def withMember (name : Option (List Char)) (value : Json) (rest : Option (List (String × Json))) :
    Option (List (String × Json)) :=
  name.bind fun cs => rest.map ((String.ofList cs, value) :: ·)

/-- The rest behind a word at the front of the characters. -/
def readWord? (word : String) (cs : List Char) : Option (List Char) :=
  if word.toList.isPrefixOf cs then some (cs.drop word.length) else none

mutual

/-- The document at the front of the characters. The first number bounds the steps. -/
def read? : Nat → List Char → Option (Json × List Char)
  | 0, _ => none
  | fuel + 1, cs =>
    match skipBlanks cs with
    | [] => none
    | c :: rest =>
      if c = 'n' then (readWord? "ull" rest).map (.null, ·)
      else if c = 't' then (readWord? "rue" rest).map (.bool true, ·)
      else if c = 'f' then (readWord? "alse" rest).map (.bool false, ·)
      else if c = '"' then
        (readString? fuel rest).map fun (s, rest) => (ofString? s, rest)
      else if c = '[' then
        match skipBlanks rest with
        | ']' :: rest => some (.list [], rest)
        | rest => (readItems? fuel rest).map fun (items, rest) => (.list items, rest)
      else if c = '\x7b' then
        match skipBlanks rest with
        | '\x7d' :: rest => some (.object [], rest)
        | rest => (readMembers? fuel rest).map fun (members, rest) => (ofMembers? members, rest)
      else
        (readNumber? (c :: rest)).map fun (_, after) =>
          (.number ((c :: rest).take ((c :: rest).length - after.length)), after)

/-- The items of a list, from the first on. -/
def readItems? : Nat → List Char → Option (List Json × List Char)
  | 0, _ => none
  | fuel + 1, cs =>
    (read? fuel cs).bind fun (item, rest) =>
      match skipBlanks rest with
      | ',' :: rest => (readItems? fuel rest).map fun (items, rest) => (item :: items, rest)
      | ']' :: rest => some ([item], rest)
      | _ => none

/-- The members of an object, from the first on. -/
def readMembers? : Nat → List Char → Option (Option (List (String × Json)) × List Char)
  | 0, _ => none
  | fuel + 1, cs =>
    match skipBlanks cs with
    | '"' :: rest =>
      (readString? fuel rest).bind fun (name, rest) =>
        match skipBlanks rest with
        | ':' :: rest =>
          (read? fuel rest).bind fun (value, rest) =>
            match skipBlanks rest with
            | ',' :: rest =>
              (readMembers? fuel rest).map fun (members, rest) =>
                (withMember name value members, rest)
            | '\x7d' :: rest => some (withMember name value (some []), rest)
            | _ => none
        | _ => none
    | _ => none

end

/-- The document that a text is. -/
def ofText? (text : String) : Option Json :=
  let cs := text.toList
  match read? (2 * cs.length + 2) cs with
  | some (j, rest) => if (skipBlanks rest).isEmpty then some j else none
  | none => none

/-- What a byte that belongs to no character is read as: an escape for no character, which can only stand
in a string. A letter comes first, so that a backslash before the byte makes no escape with it. -/
def strayByte : List Char :=
  "x\\ud800".toList

/-- The document that bytes are. -/
def ofBytes? (bytes : ByteArray) : Option Json :=
  match String.fromUTF8? bytes with
  | some text => ofText? text
  | none => ofText? (String.ofList (Text.charsOfBytes strayByte bytes.toList))

end Json

end Backtest.Format
