import Backtest.Text.Casing
import Backtest.Text.Quoted

/-!
# Settings of a run

How fine the market data is, and where the results go.
-/

namespace Backtest.Run

/-- How fine the market data of a run is. -/
inductive DataFrequency where
  | daily
  | minute
  deriving DecidableEq, Repr

/-- The name of a frequency. -/
def DataFrequency.name : DataFrequency → String
  | daily => "daily"
  | minute => "minute"

/-- The frequency that a name stands for in any case, or the wording of the fault. -/
def DataFrequency.ofName (name : String) : Except String DataFrequency :=
  let lower := Text.toLower name
  if lower = "daily" then .ok .daily
  else if lower = "minute" then .ok .minute
  else .error
    ("unknown data frequency " ++ Text.quote lower ++ ", expected \"daily\" or \"minute\"")

/-- Where the results of a run go. -/
inductive OutputRoute where
  | print
  | discard
  | persist (path : String)
  deriving DecidableEq, Repr

/-- The route that a text stands for: a hyphen, the null device, or the path of a file. -/
def OutputRoute.ofText (text : String) : OutputRoute :=
  if text = "-" then .print
  else if text = "/dev/null" then .discard
  else .persist text

/-- The text of a route. -/
def OutputRoute.text : OutputRoute → String
  | print => "-"
  | discard => "/dev/null"
  | persist path => path

end Backtest.Run
