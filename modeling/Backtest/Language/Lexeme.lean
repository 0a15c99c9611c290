import Backtest.Language.Failure
import Backtest.Number.Reading

/-!
# Lexemes

The pieces that expressions are made of, read off the front of the remaining characters: blanks and
comments, words, symbols, numbers and quoted texts. Each reader leaves a rest, and the lemmas beside
it say that the rest has not grown, or has become shorter.
-/

namespace Backtest.Language

open Backtest.Text

/-- A syntax fault and the rest of the text that begins where it was found. -/
structure Failure where
  fault : SyntaxFault
  rest : List Char
  deriving DecidableEq, Repr

/-- The rest after leading white space and a comment, which runs to the end of the text. -/
def skipBlank : List Char → List Char
  | [] => []
  | c :: cs => if isBlank c then skipBlank cs else if c = '#' then [] else c :: cs

/-- Skipping blanks adds no characters. -/
theorem skipBlank_length_le (cs : List Char) : (skipBlank cs).length ≤ cs.length := by
  induction cs with
  | nil => simp [skipBlank]
  | cons c cs ih =>
    unfold skipBlank
    split
    · simpa using Nat.le_succ_of_le ih
    · split <;> simp

/-- Characters that a word begins with. -/
def isWordStart (c : Char) : Bool :=
  isAlphabetic c || c == '_'

/-- Characters that a word goes on with. -/
def isWordChar (c : Char) : Bool :=
  isAlphanumeric c || c == '_'

/-- Words with a meaning of their own, which cannot be bound. -/
def reservedWords : List String :=
  ["and", "or", "not", "True", "False", "None"]

/-- Whether a text can be bound to a value. -/
def isIdentifier (name : String) : Bool :=
  match name.toList with
  | [] => false
  | c :: cs => isWordStart c && cs.all isWordChar && !reservedWords.contains name

/-- The rest behind a text that the characters begin with. -/
def afterText? : List Char → List Char → Option (List Char)
  | [], cs => some cs
  | _ :: _, [] => none
  | t :: ts, c :: cs => if t = c then afterText? ts cs else none

/-- The rest behind a text is shorter by the text. -/
theorem afterText?_length {ts cs rest : List Char} (h : afterText? ts cs = some rest) :
    rest.length + ts.length = cs.length := by
  induction ts generalizing cs with
  | nil => simp_all [afterText?]
  | cons t ts ih =>
    cases cs with
    | nil => simp [afterText?] at h
    | cons c cs =>
      simp only [afterText?] at h
      split at h
      · have := ih h
        simp only [List.length_cons]
        omega
      · simp at h

/-- The rest behind a symbol, blanks before it skipped. -/
def symbol? (text : String) (cs : List Char) : Option (List Char) :=
  afterText? text.toList (skipBlank cs)

/-- The rest behind a word that ends where the given one ends, blanks before it skipped. -/
def keyword? (word : String) (cs : List Char) : Option (List Char) :=
  match symbol? word cs with
  | some (c :: rest) => if isWordChar c then none else some (c :: rest)
  | other => other

/-- The rest behind a symbol is shorter by the symbol at least, as blanks before it are skipped. -/
theorem symbol?_length {text : String} {cs rest : List Char} (h : symbol? text cs = some rest) :
    rest.length + text.toList.length ≤ cs.length := by
  have := afterText?_length h
  have := skipBlank_length_le cs
  omega

/-- A keyword is read as a symbol is. -/
theorem symbol?_of_keyword? {word : String} {cs rest : List Char}
    (h : keyword? word cs = some rest) : symbol? word cs = some rest := by
  unfold keyword? at h
  split at h
  · split at h <;> simp_all
  · exact h

/-- Of several symbols with their meanings, the first that the characters begin with. -/
def firstSymbol? {α : Type} (table : List (String × α)) (cs : List Char) :
    Option (α × List Char) :=
  table.findSome? fun entry => (symbol? entry.1 cs).map fun rest => (entry.2, rest)

/-- Behind the first of some symbols fewer characters are left. -/
theorem firstSymbol?_length {α : Type} {table : List (String × α)} {cs rest : List Char} {a : α}
    (h : firstSymbol? table cs = some (a, rest)) (positive : ∀ entry ∈ table, entry.1.toList ≠ []) :
    rest.length < cs.length := by
  obtain ⟨entry, mem, hentry⟩ := List.exists_of_findSome?_eq_some h
  obtain ⟨r, hr, heq⟩ := Option.map_eq_some_iff.1 hentry
  have := symbol?_length hr
  have := List.length_pos_iff.2 (positive entry mem)
  simp only [Prod.mk.injEq] at heq
  rw [← heq.2]
  omega

/-- The word at the front of the characters, and the rest behind it. -/
def spanWord (cs : List Char) : List Char × List Char :=
  (cs.takeWhile isWordChar, cs.dropWhile isWordChar)

/-- What an error shows of the characters: the word at the front, or else one character. -/
def shownWord? (cs : List Char) : Option String :=
  match (spanWord cs).1, cs with
  | [], [] => none
  | [], c :: _ => some c.toString
  | word, _ => some (String.ofList word)

/-- The digits and the point of a number, its separators left out, and the rest behind it. -/
structure NumberScan where
  kept : List Char
  hasPoint : Bool
  hasDigit : Bool
  rest : List Char

/-- Scans digits, separators behind the first digit, and one point. -/
def scanNumber (hasPoint hasDigit : Bool) : List Char → NumberScan
  | [] => ⟨[], hasPoint, hasDigit, []⟩
  | c :: cs =>
    if c.isDigit then
      let scan := scanNumber hasPoint true cs
      { scan with kept := c :: scan.kept }
    else if c = '_' ∧ hasDigit then scanNumber hasPoint hasDigit cs
    else if c = '.' ∧ !hasPoint then
      let scan := scanNumber true hasDigit cs
      { scan with kept := c :: scan.kept }
    else ⟨[], hasPoint, hasDigit, c :: cs⟩

/-- Scanning a number adds no characters. -/
theorem scanNumber_length_le (hasPoint hasDigit : Bool) (cs : List Char) :
    (scanNumber hasPoint hasDigit cs).rest.length ≤ cs.length := by
  induction cs generalizing hasPoint hasDigit with
  | nil => simp [scanNumber]
  | cons c cs ih =>
    unfold scanNumber
    split
    · exact Nat.le_succ_of_le (ih hasPoint true)
    · split
      · exact Nat.le_succ_of_le (ih hasPoint hasDigit)
      · split
        · exact Nat.le_succ_of_le (ih true hasDigit)
        · exact Nat.le_refl _

/-- Dropping from the front of a list makes it no longer. -/
theorem dropWhile_length_le {α : Type} (p : α → Bool) (cs : List α) :
    (cs.dropWhile p).length ≤ cs.length :=
  (List.dropWhile_sublist p).length_le

/-- An optional sign at the front of the characters, and the rest behind it. -/
def spanSign : List Char → List Char × List Char
  | [] => ([], [])
  | c :: rest => if c = '+' ∨ c = '-' then ([c], rest) else ([], c :: rest)

/-- Reading a sign adds no characters. -/
theorem spanSign_length_le (cs : List Char) : (spanSign cs).2.length ≤ cs.length := by
  cases cs with
  | nil => simp [spanSign]
  | cons c rest =>
    rw [spanSign]
    split <;> simp

/-- The exponent at the front of the characters, with its mark, and the rest behind it. A mark without
digits is a fault; no mark is no exponent. -/
def scanExponent : List Char → Except Failure (List Char × List Char)
  | [] => .ok ([], [])
  | c :: rest =>
    if c = 'e' ∨ c = 'E' then
      let (sign, body) := spanSign rest
      let ds := body.takeWhile Char.isDigit
      if ds.isEmpty then .error ⟨.expectedExponentDigits, body⟩
      else .ok (c :: sign ++ ds, body.dropWhile Char.isDigit)
    else .ok ([], c :: rest)

/-- Reading an exponent adds no characters. -/
theorem scanExponent_length_le {cs exponent rest : List Char}
    (h : scanExponent cs = .ok (exponent, rest)) : rest.length ≤ cs.length := by
  cases cs with
  | nil => simp_all [scanExponent]
  | cons c tail =>
    rw [scanExponent] at h
    split at h
    · simp only at h
      split at h
      · simp at h
      · injection h with h
        injection h with _ h
        rw [← h]
        have := spanSign_length_le tail
        have := dropWhile_length_le Char.isDigit (spanSign tail).2
        simp only [List.length_cons]
        omega
    · injection h with h
      injection h with _ h
      exact h ▸ Nat.le_refl _

/-- The number at the front of the characters. With a point or an exponent it is a double, and else a
whole number, which has to fit. -/
def readNumber (cs : List Char) : Except Failure (Value × List Char) :=
  let scan := scanNumber false false cs
  if !scan.hasDigit then .error ⟨.expectedNumber, cs⟩
  else
    match scanExponent scan.rest with
    | .error failure => .error failure
    | .ok (exponent, rest) =>
      let kept := scan.kept ++ exponent
      let value := if scan.hasPoint || !exponent.isEmpty then
          (Number.readFloat? kept).map Value.float
        else (Number.readInt64? kept).map Value.int
      match value with
      | some value => .ok (value, rest)
      | none => .error ⟨.invalidNumber (String.ofList kept), cs⟩

/-- Characters that a number begins with. -/
def isNumberStart (c : Char) : Bool :=
  c.isDigit || c == '.'

/-- Behind a number fewer characters are left. -/
theorem readNumber_length {c : Char} {cs rest : List Char} {value : Value}
    (h : readNumber (c :: cs) = .ok (value, rest)) (start : isNumberStart c) :
    rest.length < (c :: cs).length := by
  have scanned : (scanNumber false false (c :: cs)).rest.length ≤ cs.length := by
    unfold scanNumber
    by_cases digit : c.isDigit
    · simpa [digit] using scanNumber_length_le false true cs
    · have point : c = '.' := by simpa [isNumberStart, digit] using start
      simpa [digit, point] using scanNumber_length_le true false cs
  unfold readNumber at h
  simp only at h
  split at h
  · simp at h
  · split at h
    · simp at h
    · rename_i exponent after hexp
      have := scanExponent_length_le hexp
      split at h
      · simp only [Except.ok.injEq, Prod.mk.injEq] at h
        rw [← h.2]
        simp only [List.length_cons]
        omega
      · simp at h

/-- The character that a letter after a backslash stands for, if it is an escape. -/
def escaped? : Char → Option Char
  | 'n' => some '\n'
  | 't' => some '\t'
  | '\\' => some '\\'
  | '"' => some '"'
  | '\'' => some '\''
  | _ => none

/-- The characters up to the closing quote, escapes replaced, and the rest behind it. A backslash
before any other character stands for itself. -/
def scanString (quote : Char) : List Char → Option (List Char × List Char)
  | [] => none
  | c :: cs =>
    if c = quote then some ([], cs)
    else if c = '\\' then
      match cs with
      | [] => none
      | d :: rest =>
        (scanString quote rest).map fun (text, after) =>
          (match escaped? d with
            | some e => e :: text
            | none => c :: d :: text, after)
    else (scanString quote cs).map fun (text, after) => (c :: text, after)

/-- Behind a string fewer characters are left. -/
theorem scanString_length {quote : Char} {cs text rest : List Char}
    (h : scanString quote cs = some (text, rest)) : rest.length < cs.length := by
  fun_induction scanString quote cs generalizing text rest with
  | case1 => simp at h
  | case2 =>
    injection h with h
    injection h with _ h
    simp [h]
  | case3 => simp at h
  | case4 d after _ ih =>
    obtain ⟨⟨t, r⟩, hr, heq⟩ := Option.map_eq_some_iff.1 h
    have := ih hr
    injection heq with _ heq
    rw [← heq]
    simp only [List.length_cons]
    omega
  | case5 c cs _ _ ih =>
    obtain ⟨⟨t, r⟩, hr, heq⟩ := Option.map_eq_some_iff.1 h
    have := ih hr
    injection heq with _ heq
    rw [← heq]
    simp only [List.length_cons]
    omega

end Backtest.Language
