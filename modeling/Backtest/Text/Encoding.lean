/-!
# Bytes as characters

The characters that bytes spell, where some of the bytes may belong to no character.
-/

namespace Backtest.Text

/-- The character at the front of some bytes, with the number of bytes behind its first. -/
def leadingChar? (bytes : List UInt8) : Option (Char × Nat) :=
  (List.range 4).findSome? fun more =>
    (String.fromUTF8? ⟨(bytes.take (more + 1)).toArray⟩).bind fun text =>
      text.toList.head?.map fun c => (c, more)

/-- The characters that bytes spell, with others in place of each byte that belongs to none. -/
def charsOfBytes (instead : List Char) : List UInt8 → List Char
  | [] => []
  | byte :: rest =>
    match leadingChar? (byte :: rest) with
    | some (c, more) => c :: charsOfBytes instead (rest.drop more)
    | none => instead ++ charsOfBytes instead rest
termination_by bytes => bytes.length
decreasing_by
  · exact Nat.lt_succ_of_le (List.length_drop ▸ Nat.sub_le ..)
  · exact Nat.lt_succ_self _

end Backtest.Text
