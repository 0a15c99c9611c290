import Backtest.Calendar.DateText
import Backtest.SortedMap

/-!
# Benchmark returns

What the benchmark gained from one session to the next, given outright or derived from closes.
-/

namespace Backtest.Market

open Backtest.Calendar (Date)

/-- The benchmark's returns by session. -/
abbrev BenchmarkReturns := SortedMap Date Float

/-- The return that each close makes on the one before it; none on a close of zero. -/
def closeReturns : List (Date × Float) → List (Date × Float)
  | previous :: next :: rest =>
    let later := closeReturns (next :: rest)
    if previous.2 != 0.0 then (next.1, next.2 / previous.2 - 1.0) :: later else later
  | _ => []

/-- The returns of consecutive closes. -/
def BenchmarkReturns.ofCloses (closes : List (Date × Float)) : BenchmarkReturns :=
  .ofList (closeReturns closes)

end Backtest.Market
