import Backtest.Files.Workspace
import Backtest.Format.Csv
import Backtest.Market.Benchmark
import Backtest.Number.Reading
import Backtest.Text.Quoted

/-!
# Benchmarks in files

A file of dates with the benchmark's returns or closes. The name of its second column says which of the
two it holds. Rows are sorted by date before returns are made of them.
-/

namespace Backtest.Market

open Backtest.Calendar (Date)
open Backtest.Files (IoFault Workspace)
open Backtest.Format.Csv (Table)
open Backtest.Number (FloatFault)

/-- Why a benchmark file could not be used. -/
inductive BenchmarkFault where
  | unreadable (fault : IoFault)
  /-- A record is malformed. -/
  | malformed
  /-- The second column, if there is one, is neither of returns nor of closes. -/
  | unexpectedColumn (found : Option String)
  | invalidDate (date : String)
  | invalidValue (fault : FloatFault)
  deriving DecidableEq, Repr

/-- A fault with the path of the file. -/
structure BenchmarkError where
  path : String
  fault : BenchmarkFault
  deriving DecidableEq, Repr

/-- The wording of a benchmark error. A malformed record is not described. -/
def BenchmarkError.message (e : BenchmarkError) : String :=
  let detail := match e.fault with
    | .unreadable fault => ": " ++ fault.message
    | .malformed => ""
    | .unexpectedColumn none => ": expected a return or close column, found None"
    | .unexpectedColumn (some name) =>
      ": expected a return or close column, found Some(" ++ Text.quote name ++ ")"
    | .invalidDate date => ": invalid date " ++ Text.quote date
    | .invalidValue fault => ": invalid value: " ++ fault.message
  "benchmark data error: " ++ e.path ++ detail

/-- What the rows of a benchmark file hold. -/
inductive BenchmarkKind where
  | returns
  | closes
  deriving DecidableEq, Repr

/-- What the rows hold, going by the names of the columns. -/
def BenchmarkKind.ofHeader (header : List String) : Except BenchmarkFault BenchmarkKind :=
  match (header[1]?).map Text.trim with
  | some "return" => .ok .returns
  | some "returns" => .ok .returns
  | some "close" => .ok .closes
  | found => .error (.unexpectedColumn found)

/-- The date and value of a row. -/
def benchmarkRow (row : Option (List String)) : Except BenchmarkFault (Date × Float) :=
  match row with
  | some (date :: value :: _) =>
    match Date.ofChars? (Text.trimBlanks date.toList) with
    | none => .error (.invalidDate date)
    | some d =>
      match Number.readFloat (Text.trimBlanks value.toList) with
      | .ok x => .ok (d, x)
      | .error fault => .error (.invalidValue fault)
  | _ => .error .malformed

/-- Rows in the order of their dates; rows of one date stay in order. -/
def sortRows (rows : List (Date × Float)) : List (Date × Float) :=
  rows.mergeSort fun a b => decide (a.1 ≤ b.1)

/-- The returns that rows make. -/
def BenchmarkKind.returnsOf (kind : BenchmarkKind) (rows : List (Date × Float)) : BenchmarkReturns :=
  match kind with
  | .returns => .ofList (sortRows rows)
  | .closes => .ofCloses (sortRows rows)

/-- The returns in a table. -/
def benchmarkOfTable (t : Table) : Except BenchmarkFault BenchmarkReturns :=
  match t.header with
  | none => .error .malformed
  | some header => do
    let kind ← BenchmarkKind.ofHeader header
    let rows ← t.rows.mapM benchmarkRow
    return kind.returnsOf rows

/-- The returns in a file. -/
def loadBenchmark (w : Workspace) (path : String) : Except BenchmarkError BenchmarkReturns :=
  match w.readBytes path with
  | .error fault => .error ⟨path, .unreadable fault⟩
  | .ok bytes =>
    match benchmarkOfTable (.ofBytes bytes) with
    | .ok returns => .ok returns
    | .error fault => .error ⟨path, fault⟩

end Backtest.Market
