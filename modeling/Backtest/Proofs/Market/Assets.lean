import Backtest.Proofs.Calendar.Sessions
import Backtest.Proofs.Market.Listings
import Backtest.Proofs.Text.UpperCase

/-!
# Assets and their bars

The assets of bars are told apart by their symbols and by their numbers, which are the places of the symbols
among all symbols, those without a bar included. An asset's first and last day bound the days of its bars
(`Spans`). As symbols are in upper case, at most one of them is meant by a symbol that is looked up.
-/

namespace Backtest.Calendar.Date

/-- Dates are compared as they are ordered. -/
theorem compare_eq_lt {d e : Date} : compare d e = .lt ↔ d < e :=
  Int.compare_eq_lt

/-- Two dates that are not after each other are the same. -/
theorem le_antisymm {d e : Date} (le : d ≤ e) (ge : e ≤ d) : d = e :=
  congrArg Date.mk (Int.le_antisymm le ge)

end Backtest.Calendar.Date

namespace Backtest.Market

open Backtest.Calendar (Date)

/-! ### The days of a symbol -/

/-- A symbol's bars reach from one day to another: there is a bar on either, and none before or after. -/
structure Spans (days : DayBars) (first last : Date) : Prop where
  onFirst : ∃ bar, days.get? first = some bar
  onLast : ∃ bar, days.get? last = some bar
  within : ∀ {d bar}, days.get? d = some bar → first ≤ d ∧ d ≤ last

/-- The days of bars are in order. -/
theorem DayBars.keys_pairwise (days : DayBars) : days.keys.Pairwise (· < ·) :=
  (SortedMap.keys_pairwise days).imp Date.compare_eq_lt.1

/-- The first of ordered dates is the least. -/
theorem le_of_head? {ds : List Date} (ordered : ds.Pairwise (· < ·)) {first : Date}
    (head : ds.head? = some first) : ∀ d ∈ ds, first ≤ d := by
  obtain ⟨rest, rfl⟩ := List.head?_eq_some_iff.1 head
  intro d here
  rcases List.mem_cons.1 here with rfl | later
  · exact Int.le_refl _
  · exact Int.le_of_lt ((List.pairwise_cons.1 ordered).1 d later)

/-- The last of ordered dates is the greatest. -/
theorem le_of_getLast? {ds : List Date} (ordered : ds.Pairwise (· < ·)) {last : Date}
    (final : ds.getLast? = some last) : ∀ d ∈ ds, d ≤ last := by
  obtain ⟨rest, rfl⟩ := List.getLast?_eq_some_iff.1 final
  intro d here
  rcases List.mem_append.1 here with earlier | same
  · exact Int.le_of_lt ((List.pairwise_append.1 ordered).2.2 d earlier last (List.mem_singleton_self _))
  · rw [List.mem_singleton.1 same]
    exact Int.le_refl _

/-- Bars span the time from the first of their days to the last. -/
theorem spans_of_keys {days : DayBars} {first last : Date} (head : days.keys.head? = some first)
    (final : days.keys.getLast? = some last) : Spans days first last where
  onFirst := SortedMap.mem_keys_iff.1 (List.mem_of_head? head)
  onLast := SortedMap.mem_keys_iff.1 (List.mem_of_getLast? final)
  within := fun {d bar} found =>
    have here : d ∈ days.keys := SortedMap.mem_keys_iff.2 ⟨bar, found⟩
    ⟨le_of_head? days.keys_pairwise head d here, le_of_getLast? days.keys_pairwise final d here⟩

namespace Bars

variable {bars : Bars} {a b : Asset} {symbol : String}

/-! ### The list of assets -/

/-- An asset has its symbol and the first and the last day of its bars. -/
theorem asset?_eq_some_iff {sid : Nat} {days : DayBars} :
    asset? sid symbol days = some a ↔ a.sid = sid ∧ a.symbol = symbol ∧
      days.keys.head? = some a.firstDay ∧ days.keys.getLast? = some a.lastDay := by
  unfold asset?
  split
  · rename_i first last head final
    rw [head, final]
    cases a
    simp only [Option.some.injEq, Asset.mk.injEq]
    grind
  · rename_i none
    exact ⟨fun h => (nomatch h), fun ⟨_, _, head, final⟩ => absurd final (none _ _ head)⟩

/-- The assets are the symbols with bars, numbered by their places. -/
theorem mem_assets_iff : a ∈ bars.assets ↔ ∃ days, bars.entries[a.sid]? = some (a.symbol, days) ∧
    days.keys.head? = some a.firstDay ∧ days.keys.getLast? = some a.lastDay := by
  simp only [assets, List.mem_filterMap, List.mem_zipIdx_iff_getElem?, Prod.exists, asset?_eq_some_iff]
  constructor
  · rintro ⟨symbol, days, sid, here, rfl, rfl, head, final⟩
    exact ⟨days, here, head, final⟩
  · rintro ⟨days, here, head, final⟩
    exact ⟨a.symbol, days, a.sid, here, rfl, rfl, head, final⟩

/-- The bars of an asset span its days. -/
theorem spans_of_mem_assets (here : a ∈ bars.assets) :
    ∃ days, bars.get? a.symbol = some days ∧ Spans days a.firstDay a.lastDay := by
  obtain ⟨days, place, head, final⟩ := mem_assets_iff.1 here
  exact ⟨days, SortedMap.get?_eq_some_iff.2 (List.mem_of_getElem? place), spans_of_keys head final⟩

/-- A symbol with a bar makes an asset. -/
theorem exists_asset {days : DayBars} (here : bars.get? symbol = some days) {d : Date} {bar : Bar}
    (found : days.get? d = some bar) : ∃ a ∈ bars.assets, a.symbol = symbol := by
  have inside : d ∈ days.keys := SortedMap.mem_keys_iff.2 ⟨bar, found⟩
  have some_day : days.keys ≠ [] := List.ne_nil_of_mem inside
  obtain ⟨sid, place⟩ := List.mem_iff_getElem?.1 (SortedMap.get?_eq_some_iff.1 here)
  exact ⟨⟨sid, symbol, days.keys.head some_day, days.keys.getLast some_day⟩,
    mem_assets_iff.2 ⟨days, place, List.head?_eq_some_head some_day,
      List.getLast?_eq_some_getLast some_day⟩, rfl⟩

/-- The number of an asset is the rank of its symbol. -/
theorem getElem?_keys_of_mem_assets (here : a ∈ bars.assets) : bars.keys[a.sid]? = some a.symbol := by
  obtain ⟨days, place, -⟩ := mem_assets_iff.1 here
  rw [SortedMap.keys, List.getElem?_map, place, Option.map_some]

/-- Assets are listed in the order of their symbols and of their numbers. -/
theorem assets_pairwise (bars : Bars) :
    bars.assets.Pairwise fun a b => compare a.symbol b.symbol = .lt ∧ a.sid < b.sid := by
  refine List.pairwise_filterMap.2 (List.pairwise_iff_getElem.2 fun i j hi hj less a ha b hb => ?_)
  rw [List.getElem_zipIdx, Nat.zero_add] at ha hb
  obtain ⟨sid, symbol, -⟩ := asset?_eq_some_iff.1 ha
  obtain ⟨sid', symbol', -⟩ := asset?_eq_some_iff.1 hb
  rw [sid, symbol, sid', symbol']
  exact ⟨List.pairwise_iff_getElem.1 bars.sorted i j _ _ less, less⟩

/-- An asset is told by its symbol. -/
theorem eq_of_symbol_eq (ha : a ∈ bars.assets) (hb : b ∈ bars.assets) (same : a.symbol = b.symbol) :
    a = b := by
  have distinct : (bars.assets.map (·.symbol)).Nodup :=
    List.pairwise_map.2 (bars.assets_pairwise.imp fun {a b} before equal => by
      have self : compare a.symbol b.symbol = .eq := equal ▸ Std.ReflCmp.compare_self
      cases self.symm.trans before.1)
  exact List.inj_on_of_nodup_map distinct ha hb same

/-! ### Values and the first day -/

/-- A symbol has a value on a day if and only if it has a bar on that day. -/
theorem value_isSome_iff {field : PriceField} {d : Date} :
    (bars.value symbol field d).isSome ↔
      ∃ days bar, bars.get? symbol = some days ∧ days.get? d = some bar := by
  unfold value
  cases bars.get? symbol with
  | none => simp
  | some days => simp [Option.isSome_iff_exists]

/-- Only of no dates there is no earliest. -/
theorem earliest_eq_none_iff {ds : List Date} : earliest ds = none ↔ ds = [] := by
  cases ds with
  | nil => simp [earliest]
  | cons d rest =>
    rw [earliest]
    cases earliest rest <;> simp

/-- The earliest of some dates is one of them and not after any other. -/
theorem earliest_spec {ds : List Date} {d : Date} (least : earliest ds = some d) :
    d ∈ ds ∧ ∀ e ∈ ds, d ≤ e := by
  induction ds generalizing d with
  | nil => cases least
  | cons e rest ih =>
    rw [earliest] at least
    cases later : earliest rest with
    | none =>
      rw [later] at least
      obtain rfl := earliest_eq_none_iff.1 later
      cases least
      simp [Date.le_iff]
    | some f =>
      rw [later] at least
      obtain ⟨here, before⟩ := ih later
      simp only [Option.some.injEq] at least
      split at least
      · rename_i less
        subst least
        exact ⟨List.mem_cons_of_mem _ here, List.forall_mem_cons.2 ⟨Int.le_of_lt less, before⟩⟩
      · rename_i notLess
        subst least
        have le : e ≤ f := Int.not_lt.1 notLess
        exact ⟨List.mem_cons_self, List.forall_mem_cons.2
          ⟨Int.le_refl _, fun g hg => Int.le_trans le (before g hg)⟩⟩

/-- That is what makes it the earliest. -/
theorem earliest_eq_some_iff {ds : List Date} {d : Date} :
    earliest ds = some d ↔ d ∈ ds ∧ ∀ e ∈ ds, d ≤ e := by
  refine ⟨earliest_spec, fun ⟨here, before⟩ => ?_⟩
  cases least : earliest ds with
  | none =>
    rw [earliest_eq_none_iff.1 least] at here
    cases here
  | some f =>
    obtain ⟨there, first⟩ := earliest_spec least
    rw [Date.le_antisymm (before f there) (first d here)]

/-- The first day of an asset is that of its bars. -/
theorem map_firstDay_asset? (sid : Nat) (symbol : String) (days : DayBars) :
    (asset? sid symbol days).map (·.firstDay) = days.keys.head? := by
  unfold asset?
  split
  · rename_i head _
    rw [head, Option.map_some]
  · rename_i none
    cases head : days.keys.head? with
    | none => rfl
    | some d =>
      have some_day : days.keys ≠ [] := List.ne_nil_of_mem (List.mem_of_head? head)
      exact absurd (List.getLast?_eq_some_getLast some_day) (none _ _ head)

/-- The first day of bars is the earliest first day of an asset. -/
theorem firstDay_eq_earliest (bars : Bars) : bars.firstDay = earliest (bars.assets.map (·.firstDay)) := by
  have heads : bars.assets.map (·.firstDay) = bars.entries.filterMap fun e => e.2.keys.head? := by
    rw [assets, List.map_filterMap]
    simp only [map_firstDay_asset?]
    conv_rhs => rw [← List.zipIdx_map_fst 0 bars.entries, List.filterMap_map]
    rfl
  rw [firstDay, SortedMap.values, List.filterMap_map, heads]
  rfl

end Bars

/-! ### Symbols that are looked up -/

section Symbols

variable {assets : List Asset} {a : Asset}

/-- Of assets with different symbols in upper case, the one is found whose symbol is the given one with its
ASCII letters capitalised. -/
theorem lookupSymbol_eq_some_iff
    (upper : ∀ a ∈ assets, ∃ stem, a.symbol = Text.toUpper stem)
    (distinct : ∀ a ∈ assets, ∀ b ∈ assets, a.symbol = b.symbol → a = b) {symbol : String} :
    lookupSymbol assets symbol = some a ↔ a ∈ assets ∧ a.symbol.toList = symbol.toList.map Char.toUpper := by
  have meant : ∀ b ∈ assets, b.symbol.toList.map Char.toLower == symbol.toList.map Char.toLower ↔
      b.symbol.toList = symbol.toList.map Char.toUpper := fun b hb => by
    obtain ⟨stem, same⟩ := upper b hb
    rw [beq_iff_eq, Text.map_toLower_eq_iff (same ▸ Text.toUpper_not_lower stem)]
  have right : ∀ {b}, lookupSymbol assets symbol = some b →
      b ∈ assets ∧ b.symbol.toList = symbol.toList.map Char.toUpper := fun {b} found => by
    rw [lookupSymbol] at found
    have here := List.mem_of_find?_eq_some found
    have fits := List.find?_some found
    exact ⟨here, (meant b here).1 fits⟩
  refine ⟨right, fun ⟨here, same⟩ => ?_⟩
  obtain ⟨b, found⟩ : ∃ b, lookupSymbol assets symbol = some b :=
    Option.isSome_iff_exists.1 (List.find?_isSome.2 ⟨a, here, (meant a here).2 same⟩)
  obtain ⟨there, equal⟩ := right found
  rw [found, distinct b there a here (String.toList_inj.1 (equal.trans same.symm))]

end Symbols

/-- The assets describe the bars. If all symbols are stems of file names in upper case, there is one asset for
each symbol with a bar and no other. Assets increase in symbol and in number, and an asset's number is the
place of its symbol among all symbols. There are bars on an asset's first and last day and none outside of
them, no bar is without its asset, and the first day of the bars is the least first day of an asset, if there
is one. A symbol finds an asset if and only if it is the asset's own once its ASCII letters are capitalised,
and then no other asset. -/
theorem assets_describe_bars {bars : Bars} (upper : ∀ symbol ∈ bars.keys, ∃ stem, symbol = Text.toUpper stem) :
    (∀ symbol, (∃ a ∈ bars.assets, a.symbol = symbol) ↔ ∃ field d, (bars.value symbol field d).isSome) ∧
      bars.assets.Pairwise (fun a b => compare a.symbol b.symbol = .lt ∧ a.sid < b.sid) ∧
      (∀ a ∈ bars.assets, bars.keys[a.sid]? = some a.symbol ∧
        bars.keys.countP (compare · a.symbol == .lt) = a.sid) ∧
      (∀ symbol field d, (bars.value symbol field d).isSome →
        ∃ a ∈ bars.assets, a.symbol = symbol ∧ a.firstDay ≤ d ∧ d ≤ a.lastDay) ∧
      (∀ a ∈ bars.assets, ∀ field, (bars.value a.symbol field a.firstDay).isSome ∧
        (bars.value a.symbol field a.lastDay).isSome) ∧
      (bars.firstDay = none ↔ bars.assets = []) ∧
      (∀ d, bars.firstDay = some d ↔
        (∃ a ∈ bars.assets, a.firstDay = d) ∧ ∀ a ∈ bars.assets, d ≤ a.firstDay) ∧
      ∀ symbol a, lookupSymbol bars.assets symbol = some a ↔
        a ∈ bars.assets ∧ a.symbol.toList = symbol.toList.map Char.toUpper := by
  have within : ∀ symbol field d, (bars.value symbol field d).isSome →
      ∃ a ∈ bars.assets, a.symbol = symbol ∧ a.firstDay ≤ d ∧ d ≤ a.lastDay := by
    intro symbol field d valued
    obtain ⟨days, bar, known, found⟩ := Bars.value_isSome_iff.1 valued
    obtain ⟨a, here, rfl⟩ := Bars.exists_asset known found
    obtain ⟨own, same, spans⟩ := Bars.spans_of_mem_assets here
    obtain rfl : own = days := Option.some.inj (same.symm.trans known)
    exact ⟨a, here, rfl, spans.within found⟩
  have attained : ∀ a ∈ bars.assets, ∀ field, (bars.value a.symbol field a.firstDay).isSome ∧
      (bars.value a.symbol field a.lastDay).isSome := by
    intro a here field
    obtain ⟨days, known, spans⟩ := Bars.spans_of_mem_assets here
    obtain ⟨first, onFirst⟩ := spans.onFirst
    obtain ⟨last, onLast⟩ := spans.onLast
    exact ⟨Bars.value_isSome_iff.2 ⟨days, first, known, onFirst⟩,
      Bars.value_isSome_iff.2 ⟨days, last, known, onLast⟩⟩
  refine ⟨fun symbol => ⟨?_, ?_⟩, bars.assets_pairwise, fun a here => ?_, within, attained, ?_,
    fun d => ?_, fun symbol a => ?_⟩
  · rintro ⟨a, here, rfl⟩
    exact ⟨.close, a.firstDay, (attained a here .close).1⟩
  · rintro ⟨field, d, valued⟩
    obtain ⟨a, here, same, -⟩ := within symbol field d valued
    exact ⟨a, here, same⟩
  · have place := Bars.getElem?_keys_of_mem_assets here
    exact ⟨place, SortedMap.countP_keys place⟩
  · rw [Bars.firstDay_eq_earliest, Bars.earliest_eq_none_iff, List.map_eq_nil_iff]
  · rw [Bars.firstDay_eq_earliest, Bars.earliest_eq_some_iff, List.mem_map, List.forall_mem_map]
  · exact lookupSymbol_eq_some_iff
      (fun a here => upper a.symbol (List.mem_of_getElem? (Bars.getElem?_keys_of_mem_assets here)))
      fun a ha b hb => Bars.eq_of_symbol_eq ha hb

/-- Of three files the one without rows makes no asset, yet its symbol counts in the numbers of the others;
an accented letter is looked up as it stands. -/
theorem assets_describe_bars_of_three_files :
    let files := [barFile "\u00e9.csv" "2024-01-03,1,2,0.5,1,100\n2024-01-02,1,2,0.5,1,100\n",
      barFile "msft.csv" "2024-01-04,1,2,0.5,1,100\n", barFile "AAPL.csv" ""]
    let msft : Asset := ⟨1, "MSFT", ⟨738889⟩, ⟨738889⟩⟩
    let accented : Asset := ⟨2, "\u00c9", ⟨738887⟩, ⟨738888⟩⟩
    ∃ bars, barsOfFiles "daily" .empty files = .ok bars ∧
      (∀ symbol ∈ bars.keys, ∃ stem, symbol = Text.toUpper stem) ∧ bars.assets = [msft, accented] ∧
      bars.keys.countP (compare · "MSFT" == .lt) = 1 ∧ bars.firstDay = some ⟨738887⟩ ∧
      lookupSymbol bars.assets "Msft" = some msft ∧ lookupSymbol bars.assets "\u00e9" = none := by
  intro files msft accented
  obtain ⟨bars, read, assets⟩ := exists_of_toOption_map
    (show (barsOfFiles "daily" .empty files).toOption.map Bars.assets = some [msft, accented] by
      decide +kernel)
  have upper : ∀ symbol ∈ bars.keys, ∃ stem, symbol = Text.toUpper stem :=
    fun symbol here => exists_stem_of_mem_keys read here
  obtain ⟨-, -, places, -, -, -, first, found⟩ := assets_describe_bars upper
  rw [assets] at places first found
  refine ⟨bars, read, upper, assets, (places msft (by simp)).2,
    (first ⟨738887⟩).2 ⟨⟨accented, by simp, rfl⟩, by decide⟩, ?_, ?_⟩
  · rw [assets]
    exact (found "Msft" msft).2 ⟨by simp, by decide⟩
  · rw [assets, Option.eq_none_iff_forall_ne_some]
    intro a same
    obtain ⟨here, equal⟩ := (found "\u00e9" a).1 same
    revert equal
    have : a = msft ∨ a = accented := by simpa using here
    rcases this with rfl | rfl <;> decide

end Backtest.Market
