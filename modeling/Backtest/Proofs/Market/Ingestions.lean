import Backtest.Market.BarFiles
import Backtest.Proofs.Calendar.Stamps
import Backtest.Proofs.Files.Paths

/-!
# The ingestion that is loaded

The ingestion of a bundle that is loaded is the newest among the names in its directory that is not after the
moment asked for, whatever else the directory holds, and a later moment selects no older one. What is read is the
directory named by the stamp of that ingestion. It is listed if a name with padded numbers stands for the
ingestion. If only others do, the bundle cannot be loaded (`loadBundle_of_names`).
-/

namespace Backtest.Market

open Backtest.Calendar (IsPadded Moment)
open Backtest.Files (Entry IsStep Workspace joinPath)

/-! ### Selection -/

variable {ms : List Moment} {names : List String} {asOf later m n : Moment}

/-- Only of no moments there is no latest. -/
theorem latest_eq_none_iff : latest ms = none ↔ ms = [] := by
  cases ms with
  | nil => simp [latest]
  | cons m rest =>
    rw [latest]
    split <;> simp

/-- The latest of some moments is one of them, and none of them is after it. -/
theorem latest_spec (h : latest ms = some m) : m ∈ ms ∧ ∀ n ∈ ms, n ≤ m := by
  induction ms generalizing m with
  | nil => cases h
  | cons first rest ih =>
    have refl (k : Moment) : k ≤ k := Int.le_refl k.rank
    rw [latest] at h
    cases hrest : latest rest with
    | none =>
      rw [hrest] at h
      cases h
      rw [latest_eq_none_iff.1 hrest]
      simp [refl]
    | some last =>
      rw [hrest] at h
      cases h
      obtain ⟨here, greatest⟩ := ih hrest
      split
      · rename_i after
        exact ⟨List.mem_cons_of_mem _ here, List.forall_mem_cons.2 ⟨after, greatest⟩⟩
      · rename_i before
        have before : last ≤ first := (Int.le_total first.rank last.rank).resolve_left before
        refine ⟨List.mem_cons_self, List.forall_mem_cons.2 ⟨refl first, fun k there => ?_⟩⟩
        exact Int.le_trans (greatest k there) before

/-- The newest moment that a name stands for among those not after another moment. -/
structure IsNewest (names : List String) (asOf m : Moment) : Prop where
  listed : ∃ name ∈ names, Moment.ofStamp? name = some m
  old : m ≤ asOf
  greatest : ∀ name ∈ names, ∀ n, Moment.ofStamp? name = some n → n ≤ asOf → n ≤ m

/-- The newest ingestion is at a moment on the clock. -/
theorem IsNewest.onClock (newest : IsNewest names asOf m) : m.OnClock := by
  obtain ⟨name, -, stands⟩ := newest.listed
  exact Moment.onClock_of_ofStamp? stands

/-- Of a later moment the newest is no older. -/
theorem IsNewest.le_of_le (first : IsNewest names asOf m) (second : IsNewest names later n) (h : asOf ≤ later) :
    m ≤ n := by
  obtain ⟨name, here, stands⟩ := first.listed
  exact second.greatest name here m stands (Int.le_trans first.old h)

/-- There is one newest ingestion at most. -/
theorem IsNewest.unique (first : IsNewest names asOf m) (second : IsNewest names asOf n) : m = n := by
  have same : asOf ≤ asOf := Int.le_refl asOf.rank
  exact first.onClock.eq_of_le second.onClock (first.le_of_le second same) (second.le_of_le first same)

/-- The stamps up to a moment are those of the names that stand for a moment up to it. -/
theorem mem_oldStamps : m ∈ (ingestionStamps names).filter (fun m => m ≤ asOf) ↔
    (∃ name ∈ names, Moment.ofStamp? name = some m) ∧ m ≤ asOf := by
  rw [List.mem_filter, ingestionStamps, List.mem_filterMap, decide_eq_true_iff]

/-- There is no ingestion if no name stands for a moment up to the one given. -/
theorem newestIngestion_eq_none_iff :
    newestIngestion names asOf = none ↔ ∀ name ∈ names, ∀ m, Moment.ofStamp? name = some m → ¬m ≤ asOf := by
  rw [newestIngestion, latest_eq_none_iff, List.eq_nil_iff_forall_not_mem]
  simp only [mem_oldStamps]
  exact ⟨fun none name here m stands old => none m ⟨⟨name, here, stands⟩, old⟩,
    fun none m ⟨⟨name, here, stands⟩, old⟩ => none name here m stands old⟩

/-- What is selected is the newest ingestion. -/
theorem isNewest_of_newestIngestion (h : newestIngestion names asOf = some m) : IsNewest names asOf m := by
  obtain ⟨here, greatest⟩ := latest_spec h
  obtain ⟨listed, old⟩ := mem_oldStamps.1 here
  exact ⟨listed, old, fun name there n stands before =>
    greatest n (mem_oldStamps.2 ⟨⟨name, there, stands⟩, before⟩)⟩

/-- The newest ingestion is selected, in whatever order the names are listed. -/
theorem newestIngestion_eq_some_iff : newestIngestion names asOf = some m ↔ IsNewest names asOf m := by
  constructor
  · exact isNewest_of_newestIngestion
  · intro newest
    cases selected : newestIngestion names asOf with
    | none =>
      obtain ⟨name, here, stands⟩ := newest.listed
      exact absurd newest.old (newestIngestion_eq_none_iff.1 selected name here m stands)
    | some n => rw [(isNewest_of_newestIngestion selected).unique newest]

/-! ### Loading -/

/-- A stamp is the name of an entry. -/
theorem isStep_stamp (m : Moment) : IsStep m.stamp := by
  have hyphen := m.hyphen_mem_stamp
  refine ⟨fun none => ?_, fun slash => ?_, fun point => ?_, fun points => ?_⟩
  · rw [none] at hyphen
    cases hyphen
  · rcases Moment.mem_stamp slash with digit | h | h | h
    · exact absurd digit (by decide)
    all_goals cases h
  · rw [point] at hyphen
    exact absurd hyphen (by decide)
  · rw [points] at hyphen
    exact absurd hyphen (by decide)

/-- No device has a stamp for its name. -/
theorem stamp_not_mem_devices (m : Moment) : m.stamp ∉ ["dev", "null", "full"] := by
  have hyphen := m.hyphen_mem_stamp
  simp only [List.mem_cons, List.not_mem_nil, or_false]
  rintro (device | device | device)
  all_goals
    rw [device] at hyphen
    exact absurd hyphen (by decide)

variable {w : Workspace} {root bundle : String}

/-- A bundle is read from the directory with the stamp of its newest ingestion. -/
theorem loadBundle_of_newest (listed : w.names (joinPath root bundle) = .ok names)
    (selected : newestIngestion names asOf = some m) :
    loadBundle w root bundle asOf = readIngestion w (joinPath (joinPath root bundle) m.stamp) := by
  rw [loadBundle, bundleNames, listed]
  simp only [bind, Except.bind, selected]

/-- Without an ingestion no bundle is loaded. -/
theorem loadBundle_of_none (listed : w.names (joinPath root bundle) = .ok names)
    (selected : newestIngestion names asOf = none) :
    loadBundle w root bundle asOf = .error (.noIngestion bundle asOf) := by
  rw [loadBundle, bundleNames, listed]
  simp only [bind, Except.bind, selected]
  rfl

/-- An ingestion whose directory is not listed cannot be read. -/
theorem readIngestion_of_not_mem (listed : w.names (joinPath root bundle) = .ok names) (absent : m.stamp ∉ names) :
    ∃ fault, readIngestion w (joinPath (joinPath root bundle) m.stamp) =
      .error (.unreadableDirectory (joinPath (joinPath (joinPath root bundle) m.stamp) "daily") fault) := by
  have daily : IsStep "daily" := ⟨by decide, by decide, by decide, by decide⟩
  obtain ⟨fault, failed⟩ :=
    Workspace.exists_fault_of_not_mem listed (isStep_stamp m) (stamp_not_mem_devices m) daily absent
  refine ⟨fault, ?_⟩
  rw [readIngestion, readBars, failed]
  rfl

/-- The stamp of an ingestion of a year of four digits is listed if a padded name stands for the ingestion. -/
theorem stamp_mem_iff (clock : m.OnClock) (least : 0 ≤ m.date.year) (greatest : m.date.year ≤ 9999) :
    m.stamp ∈ names ↔ ∃ name ∈ names, Moment.ofStamp? name = some m ∧ IsPadded name := by
  constructor
  · intro here
    exact ⟨m.stamp, here, clock.ofStamp?_stamp, clock.isPadded_stamp least greatest⟩
  · rintro ⟨name, here, stands, padded⟩
    rwa [← padded.eq_stamp stands]

/-- Which ingestion of a bundle is loaded. If no name in the directory of the bundle stands for a moment that is
old enough, there is no ingestion. Otherwise it is the newest one that is old enough, and what is read is the
directory named by its stamp, which stands for the same moment. That directory is listed, for a year of four
digits, if and only if a padded name stands for the ingestion; if it is not listed, loading fails. A later moment
selects no older ingestion. -/
theorem loadBundle_of_names (w : Workspace) (root bundle : String) {names : List String} (asOf : Moment)
    (listed : w.names (joinPath root bundle) = .ok names) :
    ((∀ name ∈ names, ∀ m, Moment.ofStamp? name = some m → ¬m ≤ asOf) →
      loadBundle w root bundle asOf = .error (.noIngestion bundle asOf)) ∧
    ((∃ name ∈ names, ∃ m, Moment.ofStamp? name = some m ∧ m ≤ asOf) →
      ∃ newest, newestIngestion names asOf = some newest ∧ IsNewest names asOf newest ∧
        loadBundle w root bundle asOf = readIngestion w (joinPath (joinPath root bundle) newest.stamp) ∧
        Moment.ofStamp? newest.stamp = some newest ∧
        (0 ≤ newest.date.year → newest.date.year ≤ 9999 →
          (newest.stamp ∈ names ↔ ∃ name ∈ names, Moment.ofStamp? name = some newest ∧ IsPadded name)) ∧
        (newest.stamp ∉ names → ∃ fault, loadBundle w root bundle asOf = .error
          (.unreadableDirectory (joinPath (joinPath (joinPath root bundle) newest.stamp) "daily") fault))) ∧
    ∀ later m n, asOf ≤ later → newestIngestion names asOf = some m → newestIngestion names later = some n →
      m ≤ n := by
  refine ⟨fun none => loadBundle_of_none listed (newestIngestion_eq_none_iff.2 none), ?_,
    fun later m n h selected selected' => ?_⟩
  · rintro ⟨name, here, m, stands, old⟩
    cases selected : newestIngestion names asOf with
    | none => exact absurd old (newestIngestion_eq_none_iff.1 selected name here m stands)
    | some newest =>
      have isNewest := newestIngestion_eq_some_iff.1 selected
      have loaded := loadBundle_of_newest listed selected
      refine ⟨newest, rfl, isNewest, loaded, isNewest.onClock.ofStamp?_stamp, stamp_mem_iff isNewest.onClock,
        fun absent => ?_⟩
      rw [loaded]
      exact readIngestion_of_not_mem listed absent
  · exact (newestIngestion_eq_some_iff.1 selected).le_of_le (newestIngestion_eq_some_iff.1 selected') h

/-- A workspace with a bundle of one ingestion, whose name is not padded. -/
def unpaddedWorkspace : Workspace where
  entries := .ofList
    [(["data"], .directory), (["data", "demo"], .directory), (["data", "demo", "2024-1-1T0-0-0"], .directory),
      (["data", "demo", "2024-1-1T0-0-0", "daily"], .directory),
      (["data", "demo", "2024-1-1T0-0-0", "daily", "AAPL.csv"],
        .file "date,open,high,low,close,volume\n2024-01-02,10,12,9,10.0,100\n".toUTF8)]

/-- The directory of the bundle lists the name that is not padded. -/
theorem names_unpaddedWorkspace : unpaddedWorkspace.names (joinPath "data" "demo") = .ok ["2024-1-1T0-0-0"] := by
  have listed : (unpaddedWorkspace.names (joinPath "data" "demo")).toOption = some ["2024-1-1T0-0-0"] := by
    decide +kernel
  cases read : unpaddedWorkspace.names (joinPath "data" "demo") with
  | error fault =>
    rw [read] at listed
    cases listed
  | ok names =>
    rw [read] at listed
    cases listed
    rfl

/-- An ingestion whose name is not padded is selected, and then it is not found. -/
theorem loadBundle_of_unpadded_name :
    unpaddedWorkspace.names (joinPath "data" "demo") = .ok ["2024-1-1T0-0-0"] ∧
      newestIngestion ["2024-1-1T0-0-0"] ⟨⟨738917⟩, 0, 0⟩ = some ⟨⟨738886⟩, 0, 0⟩ ∧
      ∃ fault, loadBundle unpaddedWorkspace "data" "demo" ⟨⟨738917⟩, 0, 0⟩ =
        .error (.unreadableDirectory "data/demo/2024-01-01T00-00-00/daily" fault) := by
  refine ⟨names_unpaddedWorkspace, by decide +kernel, ?_⟩
  obtain ⟨-, some_old, -⟩ := loadBundle_of_names unpaddedWorkspace "data" "demo" ⟨⟨738917⟩, 0, 0⟩
    names_unpaddedWorkspace
  obtain ⟨newest, selected, -, -, -, -, unlisted⟩ :=
    some_old ⟨_, List.mem_singleton_self _, ⟨⟨738886⟩, 0, 0⟩, by decide +kernel, by decide⟩
  cases (show some newest = some ⟨⟨738886⟩, 0, 0⟩ from selected.symm.trans (by decide +kernel))
  have path : joinPath (joinPath (joinPath "data" "demo") (Moment.stamp ⟨⟨738886⟩, 0, 0⟩)) "daily" =
      "data/demo/2024-01-01T00-00-00/daily" := by
    decide +kernel
  rw [path] at unlisted
  exact unlisted (by decide +kernel)

/-- Not every bundle with an ingestion that is old enough is read from a directory in its listing. -/
theorem not_all_newest_loaded : ¬∀ (w : Workspace) (root bundle : String) (names : List String) (asOf : Moment),
    w.names (joinPath root bundle) = .ok names →
      (∃ name ∈ names, ∃ m, Moment.ofStamp? name = some m ∧ m ≤ asOf) →
      ∃ name ∈ names, ∃ newest, Moment.ofStamp? name = some newest ∧ IsNewest names asOf newest ∧
        loadBundle w root bundle asOf = readIngestion w (joinPath (joinPath root bundle) name) := by
  intro all
  obtain ⟨name, here, -, -, -, loaded⟩ := all unpaddedWorkspace "data" "demo" ["2024-1-1T0-0-0"] ⟨⟨738917⟩, 0, 0⟩
    names_unpaddedWorkspace ⟨_, List.mem_singleton_self _, ⟨⟨738886⟩, 0, 0⟩, by decide +kernel, by decide⟩
  obtain rfl := List.mem_singleton.1 here
  have failed : (loadBundle unpaddedWorkspace "data" "demo" ⟨⟨738917⟩, 0, 0⟩).toOption.map Bundle.assets =
      none := by
    decide +kernel
  have readable : (readIngestion unpaddedWorkspace (joinPath (joinPath "data" "demo") "2024-1-1T0-0-0")).toOption.map
      Bundle.assets = some [⟨0, "AAPL", ⟨738887⟩, ⟨738887⟩⟩] := by
    decide +kernel
  rw [loaded, readable] at failed
  cases failed

end Backtest.Market
