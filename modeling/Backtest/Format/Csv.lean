/-!
# Comma separated values

A file of records with commas between their fields. A field may stand in double quotes, where a quote is
written twice. A record ends at a line feed or a carriage return, and empty lines are no records. The
first record names the columns; each later one has as many fields, all of them text.
-/

namespace Backtest.Format.Csv

/-- Where in a record the next byte stands. -/
inductive Place where
  | recordStart
  | fieldStart
  | plain
  | quoted
  /-- Behind a quote inside a quoted field. -/
  | quote
  deriving DecidableEq, Repr

/-- A record that has been read in part, its fields and the bytes of its last field in reverse. -/
structure Partial where
  place : Place
  field : List UInt8
  fields : List (List UInt8)

/-- Before any byte of a record. -/
def Partial.start : Partial :=
  ⟨.recordStart, [], []⟩

/-- The record with a byte more in its last field. -/
def Partial.push (p : Partial) (place : Place) (byte : UInt8) : Partial :=
  { p with place := place, field := byte :: p.field }

/-- The record with its last field ended and another begun. -/
def Partial.endField (p : Partial) : Partial :=
  ⟨.fieldStart, [], p.field.reverse :: p.fields⟩

/-- The fields of the record, ended here. -/
def Partial.record (p : Partial) : List (List UInt8) :=
  (p.field.reverse :: p.fields).reverse

/-- Whether a byte ends a record. -/
def endsRecord (byte : UInt8) : Bool :=
  byte == 10 || byte == 13

/-- The records of some bytes, the first of them begun already. -/
def recordsFrom (p : Partial) : List UInt8 → List (List (List UInt8))
  | [] => if p.place = .recordStart then [] else [p.record]
  | byte :: rest =>
    if p.place = .quoted then
      recordsFrom (if byte = 34 then { p with place := .quote } else p.push .quoted byte) rest
    else if endsRecord byte then
      if p.place = .recordStart then recordsFrom p rest
      else p.record :: recordsFrom .start rest
    else if byte = 44 then recordsFrom p.endField rest
    else if byte = 34 ∧ p.place ≠ .plain then
      recordsFrom (if p.place = .quote then p.push .quoted byte else { p with place := .quoted }) rest
    else recordsFrom (p.push .plain byte) rest

/-- The bytes without a byte order mark in front. -/
def dropMark : List UInt8 → List UInt8
  | 0xEF :: 0xBB :: 0xBF :: rest => rest
  | bytes => bytes

/-- The text of a field. -/
def fieldText? (bytes : List UInt8) : Option String :=
  String.fromUTF8? ⟨bytes.toArray⟩

/-- A file of records: the names of the columns, if they are text, and the fields of the records; a
malformed record has none. -/
structure Table where
  header : Option (List String)
  rows : List (Option (List String))

/-- The table in a file. -/
def Table.ofBytes (content : ByteArray) : Table :=
  match recordsFrom .start (dropMark content.toList) with
  | [] => ⟨some [], []⟩
  | header :: rows =>
    { header := header.mapM fieldText?
      rows := rows.map fun row => if row.length = header.length then row.mapM fieldText? else none }

/-- The one field of a row in the column of a name. -/
def cell? (header row : List String) (name : String) : Option String :=
  match (header.zip row).filter fun c => c.1 == name with
  | [c] => some c.2
  | _ => none

/-- The fields of a row in the named columns. Without a header they are the first of the row. -/
def Table.cells? (t : Table) (names row : List String) : Option (List String) :=
  match t.header with
  | some header => names.mapM (cell? header row)
  | none => if names.length ≤ row.length then some (row.take names.length) else none

end Backtest.Format.Csv
