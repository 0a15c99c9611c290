import Backtest.Format.Json
import Backtest.Results.Performance

/-!
# Performance as a document

A record is written with its rows, each with its session before its columns, and its summary. Reading
accepts the members in any order, and the two parts of a record also as a list.
-/

namespace Backtest.Results

open Backtest.Calendar (Date)
open Backtest.Format (Json)
open Backtest.Metrics (Packet)

/-- The members that a packet makes. -/
def packetMembers (p : Packet) : List (String × Json) :=
  p.entries.map fun e => (e.1, Json.ofFloat e.2)

/-- The document of a row. -/
def DailyPerformance.document (row : DailyPerformance) : Json :=
  .object (("session", .string row.session.text) :: packetMembers row.columns)

/-- The document of a record. -/
def Performance.document (p : Performance) : Json :=
  .object
    [("rows", .list (p.rows.map DailyPerformance.document)),
     ("summary", .object (packetMembers p.summary))]

/-- The one member of a name. -/
def member? (members : List (String × Json)) (name : String) : Option Json :=
  match members.filter fun m => m.1 == name with
  | [m] => some m.2
  | _ => none

/-- The packet that members make; every one of them is a number. -/
def packetOf? (members : List (String × Json)) : Option Packet :=
  (members.mapM fun (m : String × Json) => m.2.float?.map fun x => (m.1, x)).map SortedMap.ofList

/-- The row that a document is. -/
def DailyPerformance.ofDocument? : Json → Option DailyPerformance
  | .object members => do
    match ← member? members "session" with
    | .string session =>
      return ⟨← Date.ofLenientChars? session.toList,
        ← packetOf? (members.filter fun m => m.1 != "session")⟩
    | _ => none
  | _ => none

/-- The record that documents of rows and summary are. -/
def Performance.ofParts? : Json → Json → Option Performance
  | .list rows, .object summary => do
    return ⟨← rows.mapM DailyPerformance.ofDocument?, ← packetOf? summary⟩
  | _, _ => none

/-- The record that a document is. -/
def Performance.ofDocument? : Json → Option Performance
  | .object members => do
    ofParts? (← member? members "rows") (← member? members "summary")
  | .list [rows, summary] => ofParts? rows summary
  | _ => none

/-- The text of a record. -/
def Performance.documentText (p : Performance) : String :=
  p.document.text

/-- The record that the bytes of a file are. -/
def Performance.ofBytes? (bytes : ByteArray) : Option Performance :=
  (Json.ofBytes? bytes).bind Performance.ofDocument?

end Backtest.Results
