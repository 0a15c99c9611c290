import Backtest.Proofs.Calendar.DateText
import Backtest.Proofs.Format.Documents
import Backtest.Results.Document

/-!
# Records read back

A record whose numbers are all finite is read from its document with its sessions, its columns and the names
of its summary; a record with another number in it is written, but its document is none of a record.
-/

namespace Backtest.Results

open Backtest.Calendar (Date)
open Backtest.Format (Json)
open Backtest.Metrics (Packet)

section Lists

variable {α β γ : Type} {f : α → Option β} {l : List α}

/-- A list is read if all its items are, and keeps what its items keep. -/
theorem exists_mapM_eq_some {g : α → γ} {h : β → γ} (all : ∀ a ∈ l, ∃ b, f a = some b ∧ h b = g a) :
    ∃ bs, l.mapM f = some bs ∧ bs.map h = l.map g := by
  induction l with
  | nil => exact ⟨[], rfl, rfl⟩
  | cons a l ih =>
    obtain ⟨b, first, kept⟩ := all a (List.mem_cons_self ..)
    obtain ⟨bs, others, kept_others⟩ := ih fun a ha => all a (List.mem_cons_of_mem _ ha)
    refine ⟨b :: bs, ?_, ?_⟩
    · rw [List.mapM_cons, first, others]
      rfl
    · rw [List.map_cons, List.map_cons, kept, kept_others]

/-- Where one item fails the whole list fails. -/
theorem mapM_eq_none {a : α} (mem : a ∈ l) (none : f a = none) : l.mapM f = .none := by
  induction l with
  | nil => cases mem
  | cons first l ih =>
    rw [List.mapM_cons]
    rcases List.mem_cons.1 mem with rfl | later
    · rw [none]
      rfl
    · rw [ih later]
      cases f first <;> rfl

end Lists

/-- Whether all numbers of a packet are finite. -/
def allFinite (p : Packet) : Bool :=
  p.entries.all fun e => e.2.isFinite

/-- A packet of finite values is read back with its columns. -/
theorem packetOf?_packetMembers {p : Packet} (finite : allFinite p) :
    ∃ q, packetOf? (packetMembers p) = some q ∧ q.keys = p.keys := by
  have entries : ∃ es : List (String × Float), (packetMembers p).mapM
      (fun m : String × Json => m.2.float?.map fun x => (m.1, x)) = some es ∧
        es.map (·.1) = (packetMembers p).map (·.1) := by
    refine exists_mapM_eq_some fun m hm => ?_
    obtain ⟨e, he, rfl⟩ := List.mem_map.1 hm
    obtain ⟨x, read⟩ := Option.isSome_iff_exists.1
      ((Json.float?_ofFloat_isSome_iff e.2).2 (List.all_eq_true.1 finite e he))
    exact ⟨(e.1, x), by rw [read]; rfl, rfl⟩
  obtain ⟨es, read, names⟩ := entries
  have keys : es.map (·.1) = p.entries.map (·.1) := by
    rw [names, packetMembers, List.map_map]
    rfl
  have sorted : es.Pairwise fun a b => compare a.1 b.1 = .lt := by
    have : (es.map (·.1)).Pairwise fun a b => compare a b = .lt := by
      rw [keys]
      exact List.pairwise_map.2 p.sorted
    exact List.pairwise_map.1 this
  refine ⟨.ofList es, by rw [packetOf?, read]; rfl, ?_⟩
  rw [SortedMap.keys, SortedMap.entries_ofList sorted, keys]
  rfl

/-- A packet with another value is not read back. -/
theorem packetOf?_eq_none {p : Packet} (other : allFinite p = false) :
    packetOf? (packetMembers p) = none := by
  obtain ⟨e, he, infinite⟩ := List.all_eq_false.1 other
  have unread : (Json.ofFloat e.2).float? = none := by
    rwa [← Option.not_isSome_iff_eq_none, Json.float?_ofFloat_isSome_iff]
  have mem : (e.1, Json.ofFloat e.2) ∈ packetMembers p := List.mem_map_of_mem he
  rw [packetOf?, mapM_eq_none mem (by simp only [unread, Option.map_none])]
  rfl

/-! ### Rows -/

/-- The values of a packet are read as they are written. -/
theorem reads_packetMembers (p : Packet) : ∀ m ∈ packetMembers p, m.2.Reads := by
  intro m hm
  obtain ⟨e, -, rfl⟩ := List.mem_map.1 hm
  exact Json.reads_ofFloat e.2

namespace DailyPerformance

variable {row : DailyPerformance}

/-- A row whose session is a date of the calendar and no name of a column. -/
structure Plain (row : DailyPerformance) : Prop where
  date : row.session.InCalendar
  columns : "session" ∉ row.columns.keys

/-- The document of a row is read as it is written. -/
theorem reads_document (row : DailyPerformance) : row.document.Reads := by
  refine Json.reads_object fun m hm => ?_
  rcases List.mem_cons.1 hm with rfl | hm
  · exact Json.reads_string _
  · exact reads_packetMembers _ m hm

/-- A row is read if its packet is. -/
theorem ofDocument?_document (plain : row.Plain) :
    ofDocument? row.document =
      (packetOf? (packetMembers row.columns)).map fun columns => ⟨row.session, columns⟩ := by
  have other : ∀ m ∈ packetMembers row.columns, m.1 ≠ "session" := by
    intro m hm same
    obtain ⟨e, he, rfl⟩ := List.mem_map.1 hm
    exact plain.columns (same ▸ List.mem_map_of_mem he)
  have session : member? (("session", .string row.session.text) :: packetMembers row.columns)
      "session" = some (.string row.session.text) := by
    have no_column : (packetMembers row.columns).filter (fun m => m.1 == "session") = [] := by
      simpa [List.filter_eq_nil_iff] using other
    rw [member?, List.filter_cons_of_pos (by rfl), no_column]
  have columns : (("session", .string row.session.text) :: packetMembers row.columns).filter
      (fun m => m.1 != "session") = packetMembers row.columns := by
    rw [List.filter_cons_of_neg (by simp)]
    simpa [List.filter_eq_self] using other
  have date : Date.ofLenientChars? row.session.text.toList = some row.session := by
    rw [Date.text, String.toList_ofList, Date.ofLenientChars?_chars plain.date]
  unfold ofDocument? document
  simp only [session, columns, date, Option.bind_eq_bind, Option.bind_some]
  cases packetOf? (packetMembers row.columns) <;> rfl

end DailyPerformance

namespace Performance

variable {p : Performance}

/-- Whether all numbers of a record are finite. -/
def allFinite (p : Performance) : Bool :=
  (p.rows.all fun row => Results.allFinite row.columns) && Results.allFinite p.summary

/-- A record of the same sessions with the same columns, and with the same names in its summary. -/
structure SameShape (p q : Performance) : Prop where
  sessions : q.sessions = p.sessions
  columns : q.rows.map (·.columns.keys) = p.rows.map (·.columns.keys)
  summary : q.summary.keys = p.summary.keys

/-- So is the document of a performance. -/
theorem reads_document (p : Performance) : p.document.Reads := by
  refine Json.reads_object fun m hm => ?_
  rcases List.mem_cons.1 hm with rfl | hm
  · refine Json.reads_list fun j hj => ?_
    obtain ⟨row, -, rfl⟩ := List.mem_map.1 hj
    exact row.reads_document
  · rw [List.mem_singleton.1 hm]
    exact Json.reads_object (reads_packetMembers _)

/-- A document is read by its rows and its summary. -/
theorem ofDocument?_document (p : Performance) :
    ofDocument? p.document =
      ofParts? (.list (p.rows.map DailyPerformance.document)) (.object (packetMembers p.summary)) :=
  rfl

/-- A record of finite numbers is read from its document. -/
theorem exists_ofDocument?_document (plain : ∀ row ∈ p.rows, row.Plain) (finite : p.allFinite) :
    ∃ q, ofDocument? p.document = some q ∧ p.SameShape q := by
  obtain ⟨finite_rows, finite_summary⟩ := Bool.and_eq_true_iff.1 finite
  have rows : ∃ rows, (p.rows.map DailyPerformance.document).mapM DailyPerformance.ofDocument? =
      some rows ∧ rows.map (fun row => (row.session, row.columns.keys)) =
        p.rows.map fun row => (row.session, row.columns.keys) := by
    rw [List.mapM_map]
    refine exists_mapM_eq_some fun row mem => ?_
    obtain ⟨columns, read, keys⟩ := packetOf?_packetMembers (List.all_eq_true.1 finite_rows row mem)
    refine ⟨⟨row.session, columns⟩, ?_, by rw [keys]⟩
    rw [Function.comp_apply, DailyPerformance.ofDocument?_document (plain row mem), read]
    rfl
  obtain ⟨rows, read_rows, kept⟩ := rows
  obtain ⟨summary, read_summary, keys⟩ := packetOf?_packetMembers finite_summary
  refine ⟨⟨rows, summary⟩, ?_, ?_, ?_, keys⟩
  · rw [ofDocument?_document, ofParts?, read_rows, read_summary]
    rfl
  · simpa [sessions, Function.comp_def] using congrArg (List.map Prod.fst) kept
  · simpa [Function.comp_def] using congrArg (List.map Prod.snd) kept

/-- A record with a number that is not finite has the document of no record. -/
theorem ofDocument?_document_eq_none (plain : ∀ row ∈ p.rows, row.Plain) (other : p.allFinite = false) :
    ofDocument? p.document = none := by
  rw [ofDocument?_document, ofParts?, List.mapM_map]
  rcases (Bool.and_eq_false_iff).1 other with row_other | summary_other
  · obtain ⟨row, mem, infinite⟩ := List.all_eq_false.1 row_other
    have unread : (DailyPerformance.ofDocument? ∘ DailyPerformance.document) row = none := by
      rw [Function.comp_apply, DailyPerformance.ofDocument?_document (plain row mem),
        packetOf?_eq_none (by simpa using infinite)]
      rfl
    rw [mapM_eq_none mem unread]
    rfl
  · rw [packetOf?_eq_none summary_other]
    cases p.rows.mapM (DailyPerformance.ofDocument? ∘ DailyPerformance.document) <;> rfl

/-- The bytes of a record's text are read as the record's document is. -/
theorem ofBytes?_documentText (p : Performance) :
    ofBytes? p.documentText.toUTF8 = ofDocument? p.document := by
  have text : String.fromUTF8? p.documentText.toUTF8 = some p.documentText := by
    rw [String.fromUTF8?, String.toUTF8_eq_toByteArray, dif_pos p.documentText.isValidUTF8]
    rfl
  rw [ofBytes?, Json.ofBytes?, text]
  simp only [documentText, Json.ofText?_text p.reads_document, Option.bind_some]

end Performance

end Backtest.Results
