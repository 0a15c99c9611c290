import Backtest.Market.BarFiles
import Backtest.Proofs.LookUps

/-!
# Files of bars in the order of their listing

The files of a directory are read one after another, and each gives its symbol the bars that it holds. The
symbol is the stem of the name in upper case, so that several names may stand for one symbol. Then only the
last of them counts, whatever the others hold (`get?_of_last`). The listing can always be read in one order
if it can be read in another, but the bars are the same in all orders only if the files of a symbol hold the
same.
-/

namespace Backtest.Market

open Backtest.Files (IoFault joinPath)

/-- A file as a listing names it, with its content. -/
abbrev ListedFile := String × Except IoFault ByteArray

/-- A file holds bars for a symbol. -/
def Holds (directory : String) (file : ListedFile) (symbol : String) (days : DayBars) : Prop :=
  fileSymbol? file.1 = some symbol ∧ barsOfFile (joinPath directory file.1) file.2 = .ok days

/-- A file can be read, or it is not one of bars. -/
def Readable (directory : String) (file : ListedFile) : Prop :=
  ∀ symbol, fileSymbol? file.1 = some symbol → ∃ days, Holds directory file symbol days

/-- What a file adds to the bars: its symbol with the bars that it holds. -/
def fileBars? (directory : String) (file : ListedFile) : Option (String × DayBars) :=
  match fileSymbol? file.1, barsOfFile (joinPath directory file.1) file.2 with
  | some symbol, .ok days => some (symbol, days)
  | _, _ => none

variable {directory : String} {file : ListedFile} {files others : List ListedFile} {symbol : String}
  {days : DayBars} {bars result : Bars}

/-- The bars of a file are known if and only if the file holds them. -/
theorem fileBars?_eq_some_iff : fileBars? directory file = some (symbol, days) ↔
    Holds directory file symbol days := by
  unfold fileBars? Holds
  split
  · rename_i known read
    simp [known, read]
  · rename_i none
    exact ⟨fun h => (nomatch h), fun ⟨known, read⟩ => absurd read (none _ _ known)⟩

/-- A file that holds bars can be read. -/
theorem Holds.readable (holds : Holds directory file symbol days) : Readable directory file := by
  intro other known
  obtain rfl := Option.some.inj (known.symm.trans holds.1)
  exact ⟨days, holds⟩

/-- What the files of a listing add to the bars, in the order of the listing. -/
def fileEntries (directory : String) (files : List ListedFile) : List (String × DayBars) :=
  files.filterMap (fileBars? directory)

/-- The entries of files are what one of them holds. -/
theorem mem_fileEntries :
    (symbol, days) ∈ fileEntries directory files ↔ ∃ f ∈ files, Holds directory f symbol days := by
  simp only [fileEntries, List.mem_filterMap, fileBars?_eq_some_iff]

/-- Reading succeeds if every file can be read, and then sets the symbols of the files one by one. -/
theorem barsOfFiles_eq_ok_iff : barsOfFiles directory bars files = .ok result ↔
    (∀ f ∈ files, Readable directory f) ∧
      result = (fileEntries directory files).foldl (fun m e => m.insert e.1 e.2) bars := by
  induction files generalizing bars with
  | nil => simp [barsOfFiles, fileEntries, eq_comm]
  | cons f files ih =>
    obtain ⟨name, content⟩ := f
    rw [barsOfFiles, List.forall_mem_cons]
    cases known : fileSymbol? name with
    | none =>
      have readable : Readable directory (name, content) := fun symbol h => by
        cases known.symm.trans h
      have entry : fileBars? directory (name, content) = none := by simp [fileBars?, known]
      rw [fileEntries, List.filterMap_cons_none entry]
      simp only [readable, true_and]
      exact ih
    | some symbol =>
      cases read : barsOfFile (joinPath directory name) content with
      | error fault =>
        refine ⟨fun h => (nomatch h), fun ⟨⟨readable, _⟩, _⟩ => ?_⟩
        obtain ⟨_, _, ok⟩ := readable symbol known
        cases read.symm.trans ok
      | ok days =>
        have holds : Holds directory (name, content) symbol days := ⟨known, read⟩
        rw [fileEntries, List.filterMap_cons_some (fileBars?_eq_some_iff.2 holds), List.foldl_cons]
        simp only [holds.readable, true_and]
        exact ih

/-- Files give bars if all can be read, and these are their entries in turn. -/
theorem barsOfFiles_empty_eq_ok_iff : barsOfFiles directory .empty files = .ok result ↔
    (∀ f ∈ files, Readable directory f) ∧ result = .ofList (fileEntries directory files) :=
  barsOfFiles_eq_ok_iff

/-- A listing that can be read can be read in any order. -/
theorem exists_bars_of_perm (perm : files.Perm others) (read : barsOfFiles directory .empty files = .ok bars) :
    barsOfFiles directory .empty others = .ok (.ofList (fileEntries directory others)) :=
  barsOfFiles_empty_eq_ok_iff.2
    ⟨fun f here => (barsOfFiles_empty_eq_ok_iff.1 read).1 f (perm.mem_iff.2 here), rfl⟩

/-- The bars of a symbol are those of one file. -/
theorem holds_of_get? (read : barsOfFiles directory .empty files = .ok bars)
    (found : bars.get? symbol = some days) : ∃ f ∈ files, Holds directory f symbol days := by
  obtain ⟨-, rfl⟩ := barsOfFiles_empty_eq_ok_iff.1 read
  exact mem_fileEntries.1 (SortedMap.mem_of_mem_ofList (SortedMap.get?_eq_some_iff.1 found))

/-- The symbols of bars are stems of file names in upper case. -/
theorem exists_stem_of_mem_keys (read : barsOfFiles directory .empty files = .ok bars)
    (here : symbol ∈ bars.keys) : ∃ stem, symbol = Text.toUpper stem := by
  obtain ⟨days, found⟩ := SortedMap.mem_keys_iff.1 here
  obtain ⟨f, -, known, -⟩ := holds_of_get? read found
  unfold fileSymbol? at known
  split at known
  · rename_i stem _
    cases known
    exact ⟨stem, rfl⟩
  · cases known

/-- The last file of a symbol decides on its bars. -/
theorem get?_of_last {before after : List ListedFile}
    (read : barsOfFiles directory .empty (before ++ file :: after) = .ok bars)
    (holds : Holds directory file symbol days) (last : ∀ f ∈ after, fileSymbol? f.1 ≠ some symbol) :
    bars.get? symbol = some days := by
  obtain ⟨-, rfl⟩ := barsOfFiles_empty_eq_ok_iff.1 read
  have later : (fileEntries directory after).filter (fun e => compare symbol e.1 == .eq) = [] := by
    refine List.filter_eq_nil_iff.2 fun ⟨other, _⟩ here same => ?_
    obtain ⟨f, there, known, -⟩ := mem_fileEntries.1 here
    obtain rfl : symbol = other := Std.LawfulEqCmp.eq_of_compare (beq_iff_eq.1 same)
    exact last f there known
  have entries : fileEntries directory (before ++ file :: after) =
      fileEntries directory before ++ (symbol, days) :: fileEntries directory after := by
    rw [fileEntries, List.filterMap_append, List.filterMap_cons_some (fileBars?_eq_some_iff.2 holds)]
    rfl
  rw [SortedMap.get?_ofList, entries, List.filter_append, List.filter_cons_of_pos (by simp), later,
    List.getLast?_append, List.getLast?_singleton, Option.some_or, Option.map_some]

/-- Files of a symbol have a last one. -/
theorem exists_last (here : file ∈ files) (known : fileSymbol? file.1 = some symbol) :
    ∃ before f after, files = before ++ f :: after ∧ fileSymbol? f.1 = some symbol ∧
      ∀ g ∈ after, fileSymbol? g.1 ≠ some symbol := by
  let ofSymbol (f : ListedFile) : Bool := fileSymbol? f.1 == some symbol
  obtain ⟨f, found⟩ : ∃ f, files.reverse.find? ofSymbol = some f :=
    Option.isSome_iff_exists.1 (List.find?_isSome.2 ⟨file, List.mem_reverse.2 here, beq_iff_eq.2 known⟩)
  obtain ⟨fits, after, before, split, others⟩ := List.find?_eq_some_iff_append.1 found
  refine ⟨before.reverse, f, after.reverse, ?_, beq_iff_eq.1 fits, fun g later same => ?_⟩
  · rw [← List.reverse_reverse files, split, List.reverse_append, List.reverse_cons, List.append_assoc,
      List.singleton_append]
  · have other := others g (List.mem_reverse.1 later)
    simp [ofSymbol, same] at other

/-- A symbol has the bars of its last file, and no others. -/
theorem get?_eq_some_iff_last (read : barsOfFiles directory .empty files = .ok bars) :
    bars.get? symbol = some days ↔ ∃ before file after, files = before ++ file :: after ∧
      Holds directory file symbol days ∧ ∀ f ∈ after, fileSymbol? f.1 ≠ some symbol := by
  constructor
  · intro found
    obtain ⟨f, here, known, -⟩ := holds_of_get? read found
    obtain ⟨before, file, after, rfl, known, last⟩ := exists_last here known
    have inside : file ∈ before ++ file :: after := List.mem_append_cons_self
    obtain ⟨held, holds⟩ := (barsOfFiles_empty_eq_ok_iff.1 read).1 file inside symbol known
    obtain rfl : held = days := Option.some.inj ((get?_of_last read holds last).symm.trans found)
    exact ⟨before, file, after, rfl, holds, last⟩
  · rintro ⟨before, file, after, rfl, holds, last⟩
    exact get?_of_last read holds last

/-- If the order does not matter, a symbol has the bars of any of its files, as that one may come last. -/
theorem get?_of_every_order
    (same : ∀ listing, listing.Perm files → barsOfFiles directory .empty listing = .ok bars)
    (here : file ∈ files) (holds : Holds directory file symbol days) : bars.get? symbol = some days := by
  obtain ⟨before, after, rfl⟩ := List.append_of_mem here
  have moved : (before ++ after ++ [file]).Perm (before ++ file :: after) := by
    rw [List.append_assoc]
    exact (List.perm_append_singleton file after).append_left before
  exact get?_of_last (same _ moved) holds fun f none => (nomatch none)

/-- Whether the order of a listing matters. A listing that can be read in one order can be read in every
other. A symbol has the bars of its last file and no others, and all orders give the same bars if and only
if no two files hold different bars for one symbol. -/
theorem bars_of_every_order_iff (directory : String) {files others : List ListedFile} (perm : files.Perm others) :
    ((∃ bars, barsOfFiles directory .empty files = .ok bars) ↔
        ∃ bars, barsOfFiles directory .empty others = .ok bars) ∧
      ∀ bars, barsOfFiles directory .empty files = .ok bars →
        (∀ symbol days, bars.get? symbol = some days ↔ ∃ before file after,
          files = before ++ file :: after ∧ Holds directory file symbol days ∧
            ∀ f ∈ after, fileSymbol? f.1 ≠ some symbol) ∧
        ((∀ listing, listing.Perm files → barsOfFiles directory .empty listing = .ok bars) ↔
          ∀ f ∈ files, ∀ g ∈ files, ∀ symbol first second,
            Holds directory f symbol first → Holds directory g symbol second → first = second) := by
  refine ⟨⟨fun ⟨_, read⟩ => ⟨_, exists_bars_of_perm perm read⟩,
    fun ⟨_, read⟩ => ⟨_, exists_bars_of_perm perm.symm read⟩⟩,
    fun bars read => ⟨fun symbol days => get?_eq_some_iff_last read, ?_⟩⟩
  constructor
  · intro same f hf g hg symbol first second holdsFirst holdsSecond
    exact Option.some.inj
      ((get?_of_every_order same hf holdsFirst).symm.trans (get?_of_every_order same hg holdsSecond))
  · intro unique listing reordered
    obtain ⟨-, rfl⟩ := barsOfFiles_empty_eq_ok_iff.1 read
    rw [exists_bars_of_perm reordered.symm read]
    congr 1
    refine SortedMap.ofList_congr (fun e => (reordered.filterMap _).mem_iff) fun symbol first second h k => ?_
    obtain ⟨f, hf, holdsFirst⟩ := mem_fileEntries.1 h
    obtain ⟨g, hg, holdsSecond⟩ := mem_fileEntries.1 k
    exact unique f (reordered.mem_iff.1 hf) g (reordered.mem_iff.1 hg) symbol first second holdsFirst
      holdsSecond

/-- A changed success was one before. -/
theorem exists_of_toOption_map {ε α β : Type} {x : Except ε α} {f : α → β} {b : β}
    (h : x.toOption.map f = some b) : ∃ a, x = .ok a ∧ f a = b := by
  cases x with
  | error e => cases h
  | ok a => exact ⟨a, rfl, Option.some.inj h⟩

/-- A file of bars with some rows below its header. -/
def barFile (name rows : String) : ListedFile :=
  (name, .ok ("date,open,high,low,close,volume\n" ++ rows).toUTF8)

/-- Two names that stand for one symbol, one of a file without rows: either order can be read, and the order
matters. -/
theorem bars_of_every_order_of_two_names :
    let idle := barFile "AAPL.csv" ""
    let traded := barFile "aapl.csv" "2024-01-02,1,2,0.5,1,100\n"
    [idle, traded].Perm [traded, idle] ∧ (∃ bars, barsOfFiles "daily" .empty [traded, idle] = .ok bars) ∧
      ∃ bars, barsOfFiles "daily" .empty [idle, traded] = .ok bars ∧
        ¬∀ listing, listing.Perm [idle, traded] → barsOfFiles "daily" .empty listing = .ok bars := by
  intro idle traded
  have swapped : [idle, traded].Perm [traded, idle] := .swap ..
  obtain ⟨bars, read, -⟩ := exists_of_toOption_map
    (show (barsOfFiles "daily" .empty [idle, traded]).toOption.map Bars.assets =
      some [⟨0, "AAPL", ⟨738887⟩, ⟨738887⟩⟩] by decide +kernel)
  obtain ⟨nothing, readIdle, noDays⟩ := exists_of_toOption_map
    (show (barsOfFile (joinPath "daily" idle.1) idle.2).toOption.map SortedMap.keys = some [] by
      decide +kernel)
  obtain ⟨something, readTraded, oneDay⟩ := exists_of_toOption_map
    (show (barsOfFile (joinPath "daily" traded.1) traded.2).toOption.map SortedMap.keys =
      some [⟨738887⟩] by decide +kernel)
  obtain ⟨readable, orders⟩ := bars_of_every_order_iff "daily" swapped
  refine ⟨swapped, readable.1 ⟨bars, read⟩, bars, read, fun same => ?_⟩
  have unique := (orders bars read).2.1 same idle (by simp) traded (by simp) "AAPL" nothing something
    ⟨by decide +kernel, readIdle⟩ ⟨by decide +kernel, readTraded⟩
  rw [unique, oneDay] at noDays
  cases noDays

/-- The bars do depend on the order of the listing. -/
theorem not_all_orders_agree : ¬∀ (directory : String) (files others : List ListedFile) (bars : Bars),
    files.Perm others → barsOfFiles directory .empty files = .ok bars →
      barsOfFiles directory .empty others = .ok bars := by
  intro all
  let idle := barFile "AAPL.csv" ""
  let traded := barFile "aapl.csv" "2024-01-02,1,2,0.5,1,100\n"
  have none : (barsOfFiles "daily" .empty [traded, idle]).toOption.map Bars.assets = some [] := by
    decide +kernel
  have some_asset : (barsOfFiles "daily" .empty [idle, traded]).toOption.map Bars.assets =
      some [⟨0, "AAPL", ⟨738887⟩, ⟨738887⟩⟩] := by
    decide +kernel
  cases read : barsOfFiles "daily" .empty [traded, idle] with
  | error fault =>
    rw [read] at none
    cases none
  | ok bars =>
    have same := all "daily" [traded, idle] [idle, traded] bars (.swap ..) read
    rw [read] at none
    rw [same] at some_asset
    cases none.symm.trans some_asset

end Backtest.Market
