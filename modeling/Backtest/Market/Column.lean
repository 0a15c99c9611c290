import Backtest.Market.Bar

/-!
# Columns

Names of data that a pipeline computes with: a dataset and a name within it. Only the fields of the
pricing dataset can be loaded.
-/

namespace Backtest.Market

/-- A column of a dataset. -/
structure Column where
  dataset : String
  name : String
  deriving DecidableEq, Repr

namespace Column

/-- The dataset of daily prices. -/
def pricingDataset : String :=
  "EquityPricing"

/-- The column of a price field. -/
def ofField (field : PriceField) : Column :=
  ⟨pricingDataset, field.name⟩

/-- The columns that can be loaded. -/
def registered : List Column :=
  PriceField.all.map ofField

/-- The text of a column. -/
def text (c : Column) : String :=
  c.dataset ++ "." ++ c.name

/-- The price field that a column holds, if it can be loaded. -/
def field? (c : Column) : Option PriceField :=
  if c.dataset = pricingDataset then (PriceField.ofName c.name).toOption else none

/-- The column that a text names, split at its first point, or the wording of the fault. -/
def ofText (text : String) : Except String Column :=
  let cs := text.toList
  let dataset := cs.takeWhile (· != '.')
  let name := (cs.dropWhile (· != '.')).drop 1
  if dataset.isEmpty || name.isEmpty then
    .error ("invalid column " ++ Text.quote text ++ ", expected Dataset.column")
  else .ok ⟨String.ofList dataset, String.ofList name⟩

end Column

/-- A column that has no loader. -/
structure UnregisteredColumn where
  column : Column
  deriving DecidableEq, Repr

/-- The wording of the fault. -/
def UnregisteredColumn.message (e : UnregisteredColumn) : String :=
  "no pipeline loader registered for column " ++ e.column.text

end Backtest.Market
