import Backtest.Calendar.Moment
import Backtest.Files.Workspace
import Backtest.Format.Csv
import Backtest.Market.Bundle
import Backtest.Number.Reading
import Backtest.Text.Casing

/-!
# Bundles in files

A bundle is a directory of ingestions, each named for the moment it was made. An ingestion has a
directory of daily bars with a file for each symbol, perhaps another one of minute bars, and perhaps a
file of adjustments. The newest ingestion that is not after a given moment is loaded.
-/

namespace Backtest.Market

open Backtest.Calendar (Date Moment)
open Backtest.Files (IoFault Workspace joinPath splitExtension)
open Backtest.Format.Csv (Table)

/-- Why a bundle could not be loaded. -/
inductive BundleError where
  | unreadableBundle (bundle directory : String) (fault : IoFault)
  /-- There is no ingestion that is old enough. -/
  | noIngestion (bundle : String) (asOf : Moment)
  | unreadableDirectory (path : String) (fault : IoFault)
  /-- A file cannot be read as a table of the columns that it should have. -/
  | malformedTable (path : String)
  | invalidDate (date path : String)
  deriving DecidableEq, Repr

/-- Whether there is no data, as opposed to data that cannot be read. -/
def BundleError.isMissing : BundleError → Bool
  | .unreadableBundle .. => true
  | .noIngestion .. => true
  | _ => false

/-- The wording of a bundle error. -/
def BundleError.message : BundleError → String
  | .unreadableBundle bundle directory fault =>
    "no data for bundle " ++ Text.quote bundle ++ ": " ++ directory ++ ": " ++ fault.message
  | .noIngestion bundle asOf =>
    "no data for bundle " ++ Text.quote bundle ++ ": no ingestion at or before " ++ asOf.display
  | .unreadableDirectory path fault =>
    "bundle data error: failed to read directory " ++ path ++ ": " ++ fault.message
  | .malformedTable path => "bundle data error: CSV parse error in " ++ path
  | .invalidDate date path =>
    "bundle data error: invalid date " ++ Text.quote date ++ " in " ++ path

/-- The characters that make up the first `n` bytes, if they end with a character. -/
def takeBytes? (n : Nat) (cs : List Char) : Option (List Char) :=
  if n = 0 then some []
  else
    match cs with
    | [] => none
    | c :: rest => if c.utf8Size ≤ n then (takeBytes? (n - c.utf8Size) rest).map (c :: ·) else none

/-- The day of a bar: what its first ten bytes say, whatever time of day follows. -/
def barDate? (text : String) : Option Date := do
  Date.ofChars? (← takeBytes? 10 (Text.trimBlanks text.toList))

/-- The columns of a file of bars. -/
def barColumns : List String :=
  ["date", "open", "high", "low", "close", "volume"]

/-- The bar in the fields of a row, with the text of its date. -/
def barOfCells? : List String → Option (String × Bar)
  | [date, opening, high, low, close, volume] => do
    let number (text : String) : Option Float := Number.readFloat? text.toList
    return (date, ⟨← number opening, ← number high, ← number low, ← number close, ← number volume⟩)
  | _ => none

/-- The bars in the rows of a table, added to the bars before them. Of two bars of one day the later
counts. -/
def barsOfRows (path : String) (t : Table) (bars : DayBars) :
    List (Option (List String)) → Except BundleError DayBars
  | [] => .ok bars
  | row :: rest =>
    match (row.bind (t.cells? barColumns)).bind barOfCells? with
    | none => .error (.malformedTable path)
    | some (date, bar) =>
      match barDate? date with
      | none => .error (.invalidDate date path)
      | some d => barsOfRows path t (bars.insert d bar) rest

/-- The bars in a file, or the fault that kept it from being read. -/
def barsOfFile (path : String) (content : Except IoFault ByteArray) : Except BundleError DayBars :=
  match content with
  | .error _ => .error (.malformedTable path)
  | .ok bytes =>
    let t := Table.ofBytes bytes
    barsOfRows path t .empty t.rows

/-- The symbol whose bars a file holds, going by its name. -/
def fileSymbol? (name : String) : Option String :=
  match splitExtension name with
  | (stem, some "csv") => some (Text.toUpper stem)
  | _ => none

/-- The bars in the files of a directory, taken in the order in which they are listed and added to the
bars before them. -/
def barsOfFiles (directory : String) (bars : Bars) :
    List (String × Except IoFault ByteArray) → Except BundleError Bars
  | [] => .ok bars
  | (name, content) :: rest =>
    match fileSymbol? name with
    | none => barsOfFiles directory bars rest
    | some symbol => do
      let days ← barsOfFile (joinPath directory name) content
      barsOfFiles directory (bars.insert symbol days) rest

/-- The columns of a file of adjustments. -/
def adjustmentColumns : List String :=
  ["symbol", "effective", "ratio"]

/-- The adjustment in the fields of a row. Its symbol is taken in upper case. -/
def adjustmentOfCells? : List String → Option Adjustment
  | [symbol, effective, ratio] => do
    return ⟨Text.toUpper symbol, ← Date.ofLenientChars? effective.toList,
      ← Number.readFloat? ratio.toList⟩
  | _ => none

/-- The adjustments in a file, in the order of its rows. -/
def adjustmentsOfFile (path : String) (content : Except IoFault ByteArray) :
    Except BundleError (List Adjustment) :=
  match content with
  | .error _ => .error (.malformedTable path)
  | .ok bytes =>
    let t := Table.ofBytes bytes
    match t.rows.mapM fun row => (row.bind (t.cells? adjustmentColumns)).bind adjustmentOfCells? with
    | some adjustments => .ok adjustments
    | none => .error (.malformedTable path)

/-- The asset of a symbol, in either case of its ASCII letters. -/
def lookupSymbol (assets : List Asset) (symbol : String) : Option Asset :=
  assets.find? fun a => a.symbol.toList.map Char.toLower == symbol.toList.map Char.toLower

/-- The bundle of the data of an ingestion. -/
def Bundle.ofIngestion (daily : Bars) (minute : Option Bars) (adjustments : List Adjustment) :
    Bundle :=
  { Bundle.ofBars daily minute adjustments with lookup := lookupSymbol daily.assets }

/-- The moments of the ingestions among the names in a directory, in no particular order. -/
def ingestionStamps (names : List String) : List Moment :=
  names.filterMap Moment.ofStamp?

/-- The latest of some moments. -/
def latest : List Moment → Option Moment
  | [] => none
  | m :: rest =>
    match latest rest with
    | none => some m
    | some n => some (if m ≤ n then n else m)

/-- The newest ingestion among the names in a directory that is not after a moment. -/
def newestIngestion (names : List String) (asOf : Moment) : Option Moment :=
  latest ((ingestionStamps names).filter fun m => m ≤ asOf)

/-- The bars in the files of a directory. -/
def readBars (w : Workspace) (directory : String) : Except BundleError Bars :=
  match w.names directory with
  | .error fault => .error (.unreadableDirectory directory fault)
  | .ok names =>
    barsOfFiles directory .empty
      (names.map fun name => (name, w.readBytes (joinPath directory name)))

/-- The minute bars of an ingestion, if it has them. -/
def readMinuteBars (w : Workspace) (directory : String) : Except BundleError (Option Bars) :=
  if w.isDirectory directory then (readBars w directory).map some else .ok none

/-- The adjustments of an ingestion; none without a file of them. -/
def readAdjustments (w : Workspace) (path : String) : Except BundleError (List Adjustment) :=
  if w.pathExists path then adjustmentsOfFile path (w.readBytes path) else .ok []

/-- The bundle in the directory of an ingestion. -/
def readIngestion (w : Workspace) (directory : String) : Except BundleError Bundle := do
  let daily ← readBars w (joinPath directory "daily")
  let minute ← readMinuteBars w (joinPath directory "minute")
  let adjustments ← readAdjustments w (joinPath directory "adjustments.csv")
  return .ofIngestion daily minute adjustments

/-- The names in the directory of a bundle. -/
def bundleNames (w : Workspace) (root bundle : String) : Except BundleError (List String) :=
  match w.names (joinPath root bundle) with
  | .ok names => .ok names
  | .error fault => .error (.unreadableBundle bundle (joinPath root bundle) fault)

/-- The ingestions of a bundle, oldest first. -/
def listIngestions (w : Workspace) (root bundle : String) : Except BundleError (List Moment) :=
  (bundleNames w root bundle).map fun names =>
    (ingestionStamps names).mergeSort fun a b => decide (a ≤ b)

/-- The newest ingestion of a bundle that is not after a moment. -/
def loadBundle (w : Workspace) (root bundle : String) (asOf : Moment) : Except BundleError Bundle := do
  let names ← bundleNames w root bundle
  match newestIngestion names asOf with
  | none => throw (.noIngestion bundle asOf)
  | some m => readIngestion w (joinPath (joinPath root bundle) m.stamp)

end Backtest.Market
