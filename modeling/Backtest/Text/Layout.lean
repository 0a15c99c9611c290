import Backtest.Text.Pieces

/-!
# Layout of a text

The lines that a text consists of, and the filling up of a text to a width.
-/

namespace Backtest.Text

/-- A line without the carriage return at its end, if it has one. -/
def dropReturn (line : List Char) : List Char :=
  match line.getLast? with
  | some '\r' => line.dropLast
  | _ => line

/-- The lines of a text. A carriage return before the end of a line does not belong to it. The last line
may lack its end, and then keeps everything. -/
def lines (cs : List Char) : List (List Char) :=
  let parts := pieces '\n' cs
  parts.dropLast.map dropReturn ++ parts.getLast?.toList.filter fun line => !line.isEmpty

/-- A text filled up with blanks behind it. -/
def padRight (width : Nat) (s : String) : String :=
  s ++ String.ofList (List.replicate (width - s.length) ' ')

/-- A text filled up with blanks before it. -/
def padLeft (width : Nat) (s : String) : String :=
  String.ofList (List.replicate (width - s.length) ' ') ++ s

end Backtest.Text
