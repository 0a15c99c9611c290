import Backtest.Market.BenchmarkFile
import Backtest.Proofs.Market.Assets

/-!
# Benchmarks and the order of their rows

The rows of a benchmark file are sorted by day before returns are made of them. If no two rows have the same day,
there is one order only that they can be brought into, so that the returns are those of the rows in any order
(`sortRows_congr`). In that order neighbours are a day and the latest day of the file before it
(`infix_iff_isPrevious`). A close of zero therefore takes away the return of the next day and no other.
-/

namespace Backtest.Market

open Backtest.Calendar (Date)
open Backtest.Files (Workspace)
open Backtest.Format.Csv (Table)

variable {rows others closes : List (Date × Float)} {a b r : Date × Float} {d : Date} {x : Float}

/-! ### Rows in order -/

/-- Sorting leaves the rows as they are but for their order. -/
theorem sortRows_perm (rows : List (Date × Float)) : (sortRows rows).Perm rows :=
  List.mergeSort_perm _ _

/-- Sorted rows are in the order of their dates. -/
theorem sortRows_ordered (rows : List (Date × Float)) : (sortRows rows).Pairwise fun a b => a.1 ≤ b.1 := by
  have sorted : (sortRows rows).Pairwise fun a b => decide (a.1 ≤ b.1) = true := List.pairwise_mergeSort
    (fun a b c first second => by
      simp only [decide_eq_true_eq, Date.le_iff] at first second ⊢
      exact Int.le_trans first second)
    (fun a b => by
      simp only [Bool.or_eq_true, decide_eq_true_eq, Date.le_iff]
      exact Int.le_total _ _) rows
  exact sorted.imp of_decide_eq_true

/-- Rows with different days are in increasing order once they are sorted. -/
theorem sortRows_increasing (distinct : (rows.map (·.1)).Nodup) :
    (sortRows rows).Pairwise fun a b => a.1 < b.1 := by
  have apart : (sortRows rows).Pairwise fun a b => a.1 ≠ b.1 :=
    List.pairwise_map.1 (((sortRows_perm rows).map Prod.fst).nodup_iff.2 distinct)
  refine ((sortRows_ordered rows).and apart).imp fun {a b} ⟨le, ne⟩ => ?_
  have other : a.1.number ≠ b.1.number := fun same => ne (congrArg Date.mk same)
  rw [Date.le_iff] at le
  rw [Date.lt_iff]
  omega

/-- The order that rows are given in does not matter if they have different days. -/
theorem sortRows_congr (perm : rows.Perm others) (distinct : (rows.map (·.1)).Nodup) :
    sortRows rows = sortRows others := by
  have same : (sortRows rows).Perm (sortRows others) :=
    (sortRows_perm rows).trans (perm.trans (sortRows_perm others).symm)
  refine List.Perm.eq_of_pairwise (fun a b _ _ less more => ?_) (sortRows_increasing distinct)
    (sortRows_increasing ((perm.map Prod.fst).nodup_iff.1 distinct)) same
  exact absurd (Int.lt_trans less more) (Int.lt_irrefl _)

/-- Rows with different days are settled by their days. -/
theorem eq_of_day_eq (distinct : (rows.map (·.1)).Nodup) (ha : a ∈ rows) (hb : b ∈ rows) (same : a.1 = b.1) :
    a = b :=
  List.inj_on_of_nodup_map distinct ha hb same

/-! ### Neighbours -/

/-- A row of the latest day before another. -/
structure IsPrevious (rows : List (Date × Float)) (d : Date) (previous : Date × Float) : Prop where
  here : previous ∈ rows
  before : previous.1 < d
  latest : ∀ r ∈ rows, r.1 < d → r.1 ≤ previous.1

/-- Which row is the previous one does not depend on the order of the rows. -/
theorem IsPrevious.of_perm (previous : IsPrevious rows d a) (perm : rows.Perm others) : IsPrevious others d a where
  here := perm.mem_iff.1 previous.here
  before := previous.before
  latest r there := previous.latest r (perm.mem_iff.2 there)

/-- Of rows with distinct dates one at most is the previous one of a day. -/
theorem IsPrevious.unique (distinct : (rows.map (·.1)).Nodup) (first : IsPrevious rows d a)
    (second : IsPrevious rows d b) : a = b := by
  have le : a.1.number ≤ b.1.number := second.latest a first.here first.before
  have ge : b.1.number ≤ a.1.number := first.latest b second.here second.before
  exact eq_of_day_eq distinct first.here second.here (congrArg Date.mk (Int.le_antisymm le ge))

/-- In ordered rows the row before another is the previous one. -/
theorem isPrevious_of_neighbours (ordered : rows.Pairwise fun a b => a.1 < b.1) (pair : [a, b] <:+: rows) :
    IsPrevious rows b.1 a := by
  obtain ⟨front, back, rfl⟩ := pair
  rw [List.append_assoc, List.pairwise_append] at ordered
  obtain ⟨-, later, across⟩ := ordered
  obtain ⟨afterA, later⟩ := List.pairwise_cons.1 later
  refine ⟨by simp, afterA b List.mem_cons_self, fun r here less => ?_⟩
  simp only [List.append_assoc, List.mem_append, List.mem_cons, List.not_mem_nil, or_false] at here
  rcases here with earlier | (rfl | rfl) | after
  · exact Int.le_of_lt (across r earlier a List.mem_cons_self)
  · exact Int.le_refl _
  · exact absurd less (Int.lt_irrefl _)
  · exact absurd (Int.lt_trans less ((List.pairwise_cons.1 later).1 r after)) (Int.lt_irrefl _)

/-- The first of ordered rows has the least date. -/
theorem le_of_head?_eq (ordered : rows.Pairwise fun a b => a.1 < b.1) (head : rows.head? = some b) :
    ∀ r ∈ rows, b.1 ≤ r.1 :=
  List.forall_mem_map.1 (le_of_head? (List.pairwise_map.2 ordered) (by rw [List.head?_map, head]; rfl))

/-- A row is the first one or has a neighbour before it. -/
theorem head_or_neighbours (here : b ∈ rows) : rows.head? = some b ∨ ∃ a, [a, b] <:+: rows := by
  obtain ⟨front, back, rfl⟩ := List.append_of_mem here
  rcases List.eq_nil_or_concat front with rfl | ⟨front, a, rfl⟩
  · exact .inl rfl
  · exact .inr ⟨a, front, back, by simp⟩

/-- In increasing order, a row stands behind that of the latest day before its own. -/
theorem infix_iff_isPrevious (ordered : rows.Pairwise fun a b => a.1 < b.1) :
    [a, b] <:+: rows ↔ b ∈ rows ∧ IsPrevious rows b.1 a := by
  refine ⟨fun pair => ⟨pair.subset (by simp), isPrevious_of_neighbours ordered pair⟩, fun ⟨here, previous⟩ => ?_⟩
  rcases head_or_neighbours here with head | ⟨c, pair⟩
  · have le : b.1 ≤ a.1 := le_of_head?_eq ordered head a previous.here
    exact absurd previous.before (Int.not_lt.2 le)
  · have distinct : (rows.map (·.1)).Nodup :=
      List.pairwise_map.2 (ordered.imp fun {a b} (less : a.1 < b.1) (same : a.1 = b.1) =>
        Int.lt_irrefl _ (same ▸ less : b.1 < b.1))
    rwa [previous.unique distinct (isPrevious_of_neighbours ordered pair)]

/-- A day of the file is the first or has a latest day before it. -/
theorem exists_isPrevious (distinct : (rows.map (·.1)).Nodup) (here : b ∈ rows) :
    (∀ r ∈ rows, b.1 ≤ r.1) ∨ ∃ a, IsPrevious rows b.1 a := by
  have perm := sortRows_perm rows
  have ordered := sortRows_increasing distinct
  rcases head_or_neighbours (perm.mem_iff.2 here) with head | ⟨a, pair⟩
  · exact .inl fun r there => le_of_head?_eq ordered head r (perm.mem_iff.2 there)
  · exact .inr ⟨a, (isPrevious_of_neighbours ordered pair).of_perm perm⟩

/-! ### Returns -/

/-- The returns of closes are those of neighbours, if the close in front is not zero. -/
theorem mem_closeReturns_iff : (d, x) ∈ closeReturns closes ↔
    ∃ previous close, [previous, (d, close)] <:+: closes ∧ previous.2 != 0.0 ∧
      x = close / previous.2 - 1.0 := by
  have pair (p n previous next : Date × Float) (rest : List (Date × Float)) :
      [previous, next] <:+: p :: n :: rest ↔
        (previous = p ∧ next = n) ∨ [previous, next] <:+: n :: rest := by
    simp [List.infix_cons_iff, List.cons_prefix_cons]
  fun_induction closeReturns closes with
  | case1 p n rest later nonzero ih =>
    simp only [List.mem_cons, Prod.mk.injEq, ih, later, pair]
    constructor
    · rintro (⟨rfl, rfl⟩ | ⟨previous, close, near, more⟩)
      · exact ⟨p, n.2, .inl ⟨rfl, rfl⟩, nonzero, rfl⟩
      · exact ⟨previous, close, .inr near, more⟩
    · rintro ⟨previous, close, ⟨rfl, rfl⟩ | near, more⟩
      · exact .inl ⟨rfl, more.2⟩
      · exact .inr ⟨previous, close, near, more⟩
  | case2 p n rest later zero ih =>
    simp only [ih, later, pair]
    constructor
    · rintro ⟨previous, close, near, more⟩
      exact ⟨previous, close, .inr near, more⟩
    · rintro ⟨previous, close, ⟨rfl, rfl⟩ | near, more⟩
      · exact absurd more.1 zero
      · exact ⟨previous, close, near, more⟩
  | case3 closes short =>
    simp only [List.not_mem_nil, false_iff]
    rintro ⟨previous, close, near, -⟩
    obtain ⟨front, back, rfl⟩ := near
    cases front with
    | nil => exact short _ _ _ rfl
    | cons c front => cases front <;> exact short _ _ _ rfl

/-- What the return of a day is, going by rows in no particular order: the value of its row, or what its close
makes on the close of the latest day before it. -/
def BenchmarkKind.IsReturn (kind : BenchmarkKind) (rows : List (Date × Float)) (d : Date) (x : Float) : Prop :=
  match kind with
  | .returns => (d, x) ∈ rows
  | .closes => ∃ close previous, (d, close) ∈ rows ∧ IsPrevious rows d previous ∧ previous.2 != 0.0 ∧
      x = close / previous.2 - 1.0

/-- The returns of sorted closes are those of each row against the previous one. -/
theorem mem_closeReturns_sortRows (distinct : (rows.map (·.1)).Nodup) :
    (d, x) ∈ closeReturns (sortRows rows) ↔ BenchmarkKind.closes.IsReturn rows d x := by
  have perm := sortRows_perm rows
  simp only [mem_closeReturns_iff, infix_iff_isPrevious (sortRows_increasing distinct), BenchmarkKind.IsReturn]
  constructor
  · rintro ⟨previous, close, ⟨here, before⟩, more⟩
    exact ⟨close, previous, perm.mem_iff.1 here, before.of_perm perm, more⟩
  · rintro ⟨close, previous, here, before, more⟩
    exact ⟨previous, close, ⟨perm.mem_iff.2 here, before.of_perm perm.symm⟩, more⟩

/-- A day has one return at most. -/
theorem BenchmarkKind.IsReturn.unique {kind : BenchmarkKind} (distinct : (rows.map (·.1)).Nodup) {y : Float}
    (first : kind.IsReturn rows d x) (second : kind.IsReturn rows d y) : x = y := by
  cases kind with
  | returns => exact congrArg Prod.snd (eq_of_day_eq distinct first second rfl)
  | closes =>
    obtain ⟨close, previous, here, before, -, rfl⟩ := first
    obtain ⟨close', previous', here', before', -, rfl⟩ := second
    obtain rfl : close = close' := congrArg Prod.snd (eq_of_day_eq distinct here here' rfl)
    rw [before.unique distinct before']

/-- The returns that rows make do not depend on the order of the rows. -/
theorem returnsOf_congr {kind : BenchmarkKind} (perm : rows.Perm others) (distinct : (rows.map (·.1)).Nodup) :
    kind.returnsOf rows = kind.returnsOf others := by
  simp only [BenchmarkKind.returnsOf, sortRows_congr perm distinct]

/-- The returns made of rows are looked up as those of the days. -/
theorem get?_returnsOf_eq_some_iff {kind : BenchmarkKind} (distinct : (rows.map (·.1)).Nodup) :
    (kind.returnsOf rows).get? d = some x ↔ kind.IsReturn rows d x := by
  cases kind with
  | returns =>
    have listed {y : Float} : (d, y) ∈ sortRows rows ↔ BenchmarkKind.returns.IsReturn rows d y :=
      (sortRows_perm rows).mem_iff
    refine (SortedMap.get?_ofList_eq_some_iff fun y z first second => ?_).trans listed
    exact (listed.1 first).unique distinct (listed.1 second)
  | closes =>
    have listed {y : Float} := mem_closeReturns_sortRows (d := d) (x := y) distinct
    refine (SortedMap.get?_ofList_eq_some_iff fun y z first second => ?_).trans listed
    exact (listed.1 first).unique distinct (listed.1 second)

/-- Without a return are the days that are not in the file, its first day, and those behind a close of zero. -/
theorem get?_closes_eq_none_iff (distinct : (rows.map (·.1)).Nodup) :
    (BenchmarkKind.closes.returnsOf rows).get? d = none ↔
      (∀ close, (d, close) ∉ rows) ∨ (∀ r ∈ rows, d ≤ r.1) ∨
        ∃ previous, IsPrevious rows d previous ∧ previous.2 == 0.0 := by
  simp only [Option.eq_none_iff_forall_ne_some, ne_eq, get?_returnsOf_eq_some_iff distinct]
  constructor
  · intro without
    by_cases absent : ∀ close, (d, close) ∉ rows
    · exact .inl absent
    · obtain ⟨close, here⟩ := not_forall_not.1 absent
      refine .inr ((exists_isPrevious distinct here).imp_right fun ⟨previous, before⟩ => ?_)
      refine ⟨previous, before, ?_⟩
      by_contra nonzero
      exact without _ ⟨close, previous, here, before, by simp [bne, nonzero], rfl⟩
  · rintro none x ⟨close, previous, here, before, nonzero, -⟩
    rcases none with absent | first | ⟨previous', before', zero⟩
    · exact absent close here
    · exact absurd before.before (Int.not_lt.2 (first previous before.here))
    · rw [before.unique distinct before', bne, zero] at nonzero
      exact absurd nonzero (by decide)

/-! ### Files -/

/-- Results are collected if there is a result for each item. -/
theorem mapM_eq_ok_iff {ε α β : Type} {f : α → Except ε β} {l : List α} {bs : List β} :
    l.mapM f = .ok bs ↔ List.Forall₂ (fun a b => f a = .ok b) l bs := by
  induction l generalizing bs with
  | nil => simp [pure, Except.pure, eq_comm]
  | cons a l ih =>
    rw [List.mapM_cons, List.forall₂_cons_left_iff]
    cases first : f a with
    | error e => simp [bind, Except.bind]
    | ok b =>
      cases others : l.mapM f with
      | error e =>
        have unread (cs : List β) : ¬List.Forall₂ (fun a b => f a = .ok b) l cs := fun all => by
          cases others.symm.trans (ih.2 all)
        simp [bind, Except.bind, unread]
      | ok cs =>
        have all (ds : List β) : List.Forall₂ (fun a b => f a = .ok b) l ds ↔ cs = ds := by
          rw [← ih, others, Except.ok.injEq]
        simp [bind, Except.bind, pure, Except.pure, all, eq_comm]

/-- What a table of benchmark data says: the kind of its values, and the day and the value of each row. -/
structure Tabulates (t : Table) (kind : BenchmarkKind) (rows : List (Date × Float)) : Prop where
  header : ∃ names, t.header = some names ∧ BenchmarkKind.ofHeader names = .ok kind
  rows : List.Forall₂ (fun row dated => benchmarkRow row = .ok dated) t.rows rows

/-- A table stands for the rows of one kind only. -/
theorem Tabulates.unique {t : Table} {kind kind' : BenchmarkKind} (tabulates : Tabulates t kind rows)
    (same : Tabulates t kind' others) : kind = kind' ∧ rows = others := by
  obtain ⟨⟨names, header, named⟩, read⟩ := tabulates
  obtain ⟨⟨names', header', named'⟩, read'⟩ := same
  obtain rfl := Option.some.inj (header.symm.trans header')
  exact ⟨Except.ok.inj (named.symm.trans named'),
    Except.ok.inj ((mapM_eq_ok_iff.2 read).symm.trans (mapM_eq_ok_iff.2 read'))⟩

/-- A table is accepted if it says something, and makes the returns of what it says. -/
theorem benchmarkOfTable_eq_ok_iff {t : Table} {returns : BenchmarkReturns} :
    benchmarkOfTable t = .ok returns ↔ ∃ kind rows, Tabulates t kind rows ∧ returns = kind.returnsOf rows := by
  constructor
  · intro accepted
    rw [benchmarkOfTable] at accepted
    cases header : t.header with
    | none =>
      rw [header] at accepted
      cases accepted
    | some names =>
      rw [header] at accepted
      cases named : BenchmarkKind.ofHeader names with
      | error fault => simp [named, bind, Except.bind] at accepted
      | ok kind =>
        cases read : t.rows.mapM benchmarkRow with
        | error fault => simp [named, read, bind, Except.bind] at accepted
        | ok rows =>
          simp only [named, read, bind, Except.bind, pure, Except.pure, Except.ok.injEq] at accepted
          exact ⟨kind, rows, ⟨⟨names, header, named⟩, mapM_eq_ok_iff.1 read⟩, accepted.symm⟩
  · rintro ⟨kind, rows, ⟨⟨names, header, named⟩, read⟩, rfl⟩
    rw [benchmarkOfTable, header]
    simp only [named, mapM_eq_ok_iff.2 read, bind, Except.bind, pure, Except.pure]

/-- A benchmark is loaded if its file can be read and is a table of one. -/
theorem loadBenchmark_eq_ok_iff {w : Workspace} {path : String} {returns : BenchmarkReturns} :
    loadBenchmark w path = .ok returns ↔
      ∃ content, w.readBytes path = .ok content ∧ benchmarkOfTable (.ofBytes content) = .ok returns := by
  rw [loadBenchmark]
  cases w.readBytes path with
  | error fault => simp
  | ok content =>
    simp only [Except.ok.injEq, exists_eq_left']
    cases benchmarkOfTable (.ofBytes content) <;> simp

/-- A file with a table of rows is loaded as their returns. -/
theorem loadBenchmark_of_tabulates {w : Workspace} {path : String} {content : ByteArray} {kind : BenchmarkKind}
    (file : w.readBytes path = .ok content) (tabulates : Tabulates (.ofBytes content) kind rows) :
    loadBenchmark w path = .ok (kind.returnsOf rows) :=
  loadBenchmark_eq_ok_iff.2 ⟨content, file, benchmarkOfTable_eq_ok_iff.2 ⟨kind, rows, tabulates, rfl⟩⟩

/-- Rows in another order say the same in another order. -/
theorem Tabulates.of_perm {t u : Table} {kind : BenchmarkKind} (tabulates : Tabulates t kind rows)
    (header : u.header = t.header) (perm : u.rows.Perm t.rows) :
    ∃ others, Tabulates u kind others ∧ others.Perm rows := by
  obtain ⟨others, read, reordered⟩ := List.perm_comp_forall₂ perm tabulates.rows
  exact ⟨others, ⟨header ▸ tabulates.header, read⟩, reordered⟩

/-- The returns of a benchmark file whose rows have different days. Every file with the same header and the same
rows in another order is loaded with the same returns. The return of a day is the value of its row, if the file
holds returns. If it holds closes, it is what the close of the day makes on that of the latest earlier day in the
file, and there is none on a day that is not in the file or is its first, nor on one behind a close of zero. -/
theorem benchmark_of_rows_in_any_order {w : Workspace} {path : String} {returns : BenchmarkReturns}
    (loaded : loadBenchmark w path = .ok returns) :
    ∃ content kind rows, w.readBytes path = .ok content ∧ Tabulates (.ofBytes content) kind rows ∧
      ((rows.map (·.1)).Nodup →
        (∀ (v : Workspace) (other : String) (reordered : ByteArray), v.readBytes other = .ok reordered →
          (Table.ofBytes reordered).header = (Table.ofBytes content).header →
          (Table.ofBytes reordered).rows.Perm (Table.ofBytes content).rows →
          loadBenchmark v other = .ok returns) ∧
        (∀ d x, returns.get? d = some x ↔ kind.IsReturn rows d x) ∧
        (kind = .closes → ∀ d, returns.get? d = none ↔
          (∀ close, (d, close) ∉ rows) ∨ (∀ r ∈ rows, d ≤ r.1) ∨
            ∃ previous, IsPrevious rows d previous ∧ previous.2 == 0.0)) := by
  obtain ⟨content, file, accepted⟩ := loadBenchmark_eq_ok_iff.1 loaded
  obtain ⟨kind, rows, tabulates, rfl⟩ := benchmarkOfTable_eq_ok_iff.1 accepted
  refine ⟨content, kind, rows, file, tabulates, fun distinct => ?_⟩
  refine ⟨?_, fun d x => get?_returnsOf_eq_some_iff distinct, ?_⟩
  · intro v other reordered file' header perm
    obtain ⟨others, tabulates', same⟩ := tabulates.of_perm header perm
    rw [loadBenchmark_of_tabulates file' tabulates', returnsOf_congr same.symm distinct]
  · rintro rfl d
    exact get?_closes_eq_none_iff distinct

/-- Closes of five days, one of them zero, in no order. -/
def shuffledCloses : ByteArray :=
  "date,close\n2024-01-05,50\n2024-01-03,110\n2024-01-08,55\n2024-01-02,100\n2024-01-04,0\n".toUTF8

/-- The same closes in the order of their days. -/
def sortedCloses : ByteArray :=
  "date,close\n2024-01-02,100\n2024-01-03,110\n2024-01-04,0\n2024-01-05,50\n2024-01-08,55\n".toUTF8

/-- A workspace with closes in two orders. -/
def closesWorkspace : Workspace where
  entries := .ofList [(["shuffled.csv"], .file shuffledCloses), (["sorted.csv"], .file sortedCloses)]

/-- A close of zero has a return and takes one away from the next day; the day after that has one again. -/
theorem benchmark_of_rows_in_any_order_of_zero_close :
    ∃ returns, loadBenchmark closesWorkspace "shuffled.csv" = .ok returns ∧
      loadBenchmark closesWorkspace "sorted.csv" = .ok returns ∧
      returns.get? ⟨738887⟩ = none ∧ returns.get? ⟨738888⟩ = some (110.0 / 100.0 - 1.0) ∧
      returns.get? ⟨738889⟩ = some (0.0 / 110.0 - 1.0) ∧ returns.get? ⟨738890⟩ = none ∧
      returns.get? ⟨738893⟩ = some (55.0 / 50.0 - 1.0) := by
  have shuffled : closesWorkspace.readBytes "shuffled.csv" = .ok shuffledCloses := by decide +kernel
  have sorted : closesWorkspace.readBytes "sorted.csv" = .ok sortedCloses := by decide +kernel
  have tabulates : Tabulates (.ofBytes shuffledCloses) .closes
      [(⟨738890⟩, 50.0), (⟨738888⟩, 110.0), (⟨738893⟩, 55.0), (⟨738887⟩, 100.0), (⟨738889⟩, 0.0)] :=
    ⟨⟨["date", "close"], by decide +kernel, by decide +kernel⟩, mapM_eq_ok_iff.1 (by decide +kernel)⟩
  have loaded := loadBenchmark_of_tabulates shuffled tabulates
  obtain ⟨content, kind, rows, file, same, answers⟩ := benchmark_of_rows_in_any_order loaded
  obtain rfl := Except.ok.inj (shuffled.symm.trans file)
  obtain ⟨rfl, rfl⟩ := tabulates.unique same
  obtain ⟨reordered, found, without⟩ := answers (by decide)
  refine ⟨_, loaded, reordered _ _ _ sorted (by decide +kernel) (by decide +kernel), ?_, ?_, ?_, ?_, ?_⟩
  · exact (without rfl _).2 (.inr (.inl (by decide)))
  · exact (found _ _).2 ⟨110.0, (⟨738887⟩, 100.0), by simp, ⟨by simp, by decide, by decide⟩, by decide, rfl⟩
  · exact (found _ _).2 ⟨0.0, (⟨738888⟩, 110.0), by simp, ⟨by simp, by decide, by decide⟩, by decide, rfl⟩
  · exact (without rfl _).2 (.inr (.inr ⟨(⟨738889⟩, 0.0), ⟨by simp, by decide, by decide⟩, by decide⟩))
  · exact (found _ _).2 ⟨55.0, (⟨738890⟩, 50.0), by simp, ⟨by simp, by decide, by decide⟩, by decide, rfl⟩

end Backtest.Market
