import Backtest.Files.Path
import Backtest.SortedMap

/-!
# Environments

The variables that a run sees, and the places of its files that they decide: a root directory with the
extension loaded by default and the data of bundles and benchmark.
-/

namespace Backtest.Files

/-- Environment variables with their values. -/
abbrev Environment := SortedMap String String

namespace Environment

/-- The root directory: the one named for this program, else a hidden one in the home directory. -/
def root (e : Environment) : String :=
  let fallback := joinPath ((e.get? "HOME").getD ".") ".algorun"
  match e.get? "ALGORUN_ROOT" with
  | none => fallback
  | some named => if named.isEmpty then fallback else named

/-- The extension that is loaded by default. -/
def defaultExtension (e : Environment) : String :=
  joinPath e.root "extension.algo"

/-- The directory of the market data. -/
def dataRoot (e : Environment) : String :=
  joinPath e.root "data"

/-- The file of the benchmark. -/
def benchmarkFile (e : Environment) : String :=
  joinPath e.dataRoot "benchmark.csv"

end Environment

end Backtest.Files
