import Backtest.Market.Bar

/-!
# Adjustments

Splits and the like. Seen from a later day, prices before an adjustment are multiplied by its ratio
and volumes are divided by it; a ratio of zero is left out.
-/

namespace Backtest.Market

open Backtest.Calendar (Date)

/-- A ratio that holds for the days before it takes effect. -/
structure Adjustment where
  symbol : String
  effective : Date
  ratio : Float

/-- A value of a field after one adjustment. -/
def Adjustment.apply (a : Adjustment) (field : PriceField) (value : Float) : Float :=
  match field with
  | .volume => value / a.ratio
  | _ => value * a.ratio

/-- Whether an adjustment stands between a day and the day that the value is seen from. -/
def Adjustment.between (a : Adjustment) (session asOf : Date) : Bool :=
  decide (session < a.effective) && decide (a.effective ≤ asOf) && a.ratio != 0.0

/-- A day's value as it is seen from another day. -/
def adjust (raw : Float) (field : PriceField) (session asOf : Date) (adjustments : List Adjustment) :
    Float :=
  (adjustments.filter fun a => a.between session asOf).foldl (fun value a => a.apply field value) raw

end Backtest.Market
