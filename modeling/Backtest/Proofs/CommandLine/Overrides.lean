import Backtest.CommandLine.RunFile

/-!
# Arguments over the run file

A run file says what the arguments leave open, so two run files that differ only where the arguments have a
value of their own should make the same request. Two settings are in the way of that. The capital base and
the data frequency of the file are read before the arguments are asked, and a text there that is no number
or no frequency is refused even if the arguments give the value.
-/

namespace Backtest.CommandLine

open Backtest.Files (Environment Workspace)
open Backtest.Format (Ini)
open Backtest.Run

/-- The figures of a run file: the capital base and the data frequency that it sets. -/
def figures (file : Ini) : Except RunError (Option Float × Option DataFrequency) := do
  let capitalBase ← runValue file "capital_base" readNumber
  let frequency ← runValue file "data_frequency" readFrequency
  return (capitalBase, frequency)

/-- Why the figures of a run file are refused, if they are. -/
def figureFault? (file : Ini) : Option RunError :=
  match figures file with
  | .ok _ => none
  | .error fault => some fault

/-- A setting that cannot be read is reported under its key. -/
theorem runValue_error {α : Type} {file : Ini} {key : String} {read : String → Except ValueFault α}
    {fault : RunError} (failed : runValue file key read = .error fault) :
    ∃ cause, fault = .invalidKey key cause := by
  unfold runValue at failed
  split at failed
  · cases failed
  · split at failed
    · cases failed
    · rename_i cause _
      cases failed
      exact ⟨cause, rfl⟩

/-- The figures of a run file are read if the capital and the frequency both are. -/
theorem figures_eq_ok {file : Ini} {capitalBase : Option Float} {frequency : Option DataFrequency} :
    figures file = .ok (capitalBase, frequency) ↔
      runValue file "capital_base" readNumber = .ok capitalBase ∧
        runValue file "data_frequency" readFrequency = .ok frequency := by
  unfold figures
  rcases runValue file "capital_base" readNumber with _ | c
  · exact ⟨fun h => (nomatch h), fun h => (nomatch h.1)⟩
  rcases runValue file "data_frequency" readFrequency with _ | q
  · exact ⟨fun h => (nomatch h), fun h => (nomatch h.2)⟩
  constructor
  · rintro ⟨⟩
    exact ⟨rfl, rfl⟩
  · rintro ⟨⟨⟩, ⟨⟩⟩
    rfl

/-- The capital base is read first. -/
theorem figures_eq_error {file : Ini} {fault : RunError} (failed : figures file = .error fault) :
    runValue file "capital_base" readNumber = .error fault ∨
      ∃ capitalBase, runValue file "capital_base" readNumber = .ok capitalBase ∧
        runValue file "data_frequency" readFrequency = .error fault := by
  unfold figures at failed
  generalize runValue file "capital_base" readNumber = first at failed ⊢
  generalize runValue file "data_frequency" readFrequency = second at failed ⊢
  rcases first with _ | capitalBase
  · cases failed
    exact .inl rfl
  rcases second with _ | frequency
  · cases failed
    exact .inr ⟨capitalBase, rfl, rfl⟩
  · cases failed

/-- A run file with one more setting of a run, or with another value of one. -/
def withSetting (file : Ini) (key value : String) : Ini :=
  file.insert "run" (((file.get? "run").getD .empty).insert key (some value))

namespace RunArguments

/-- Whether the arguments have a value of their own for a key of the run file. -/
def gives (a : RunArguments) : String → Bool
  | "algofile" => a.algofile.isSome
  | "start" => a.first.isSome
  | "end" => a.last.isSome
  | "capital_base" => a.capitalBase.isSome
  | "data_frequency" => a.frequency.isSome
  | "bundle" => a.bundle.isSome
  | "bundle_timestamp" => a.timestamp.isSome
  | "calendar" => a.calendar.isSome
  | "metrics_set" => a.metrics.isSome
  | "blotter" => a.blotter.isSome
  | "output" => a.output.isSome
  | _ => false

/-- Run files whose settings of a run are the same but for those that the arguments give. -/
def AgreeElsewhere (a : RunArguments) (f g : Ini) : Prop :=
  ∀ key, a.gives (Text.toLower key) = false → f.value? "run" key = g.value? "run" key

/-- The strategy and both dates are settled, as they are before anything else of a request. -/
def Opens (a : RunArguments) (file : Ini) (w : Workspace) : Prop :=
  ∃ strategy first last, a.strategy file w = .ok strategy ∧
    requiredDate a.first file "start" = .ok first ∧ requiredDate a.last file "end" = .ok last

section Agreement

variable {a : RunArguments} {f g : Ini}

namespace AgreeElsewhere

variable (agree : a.AgreeElsewhere f g)

include agree

/-- A setting that the arguments leave to the run file has the same text in both files. -/
theorem text {key : String} (left : a.gives (Text.toLower key) = false) :
    runText? f key = runText? g key := by
  rw [runText?, runText?, Ini.text?, Ini.text?, agree key left]

/-- It has the same value in both, however it is read. -/
theorem value {α : Type} {key : String} (left : a.gives (Text.toLower key) = false)
    (read : String → Except ValueFault α) : runValue f key read = runValue g key read := by
  rw [runValue, runValue, agree.text left]

/-- A text that the arguments or the file give. -/
theorem given_or_text {given : Option String} {key : String}
    (own : a.gives (Text.toLower key) = given.isSome) :
    given.or (runText? f key) = given.or (runText? g key) := by
  cases given with
  | some v => rfl
  | none => rw [agree.text own]

/-- A value that the arguments give or that the files have, whatever it is that they have. -/
theorem given_or_value {α : Type} {given x y : Option α} {key : String}
    {read : String → Except ValueFault α} (own : a.gives (Text.toLower key) = given.isSome)
    (one : runValue f key read = .ok x) (other : runValue g key read = .ok y) :
    given.or x = given.or y := by
  cases given with
  | some v => rfl
  | none =>
    rw [agree.value own, other] at one
    cases one
    rfl

/-- Both files name the same strategy. -/
theorem strategy (w : Workspace) : a.strategy f w = a.strategy g w := by
  have path : a.strategyPath? f = a.strategyPath? g := agree.given_or_text rfl
  rw [RunArguments.strategy, RunArguments.strategy, path]

/-- A date that is required comes to the same with both files. -/
theorem requiredDate {given : Option Calendar.Date} {key : String}
    (own : a.gives (Text.toLower key) = given.isSome) :
    requiredDate given f key = RunArguments.requiredDate given g key := by
  cases given with
  | some d => rfl
  | none => rw [RunArguments.requiredDate, RunArguments.requiredDate, agree.value own]

/-- So does the first date of the run. -/
theorem firstDate :
    RunArguments.requiredDate a.first f "start" = RunArguments.requiredDate a.first g "start" :=
  agree.requiredDate rfl

/-- So does the last date of the run. -/
theorem lastDate : RunArguments.requiredDate a.last f "end" = RunArguments.requiredDate a.last g "end" :=
  agree.requiredDate rfl

/-- So does the moment of the data. -/
theorem dataTime : a.dataTime f = a.dataTime g := by
  rw [RunArguments.dataTime, RunArguments.dataTime]
  cases given : a.timestamp with
  | some m => rfl
  | none =>
    have own : a.gives (Text.toLower "bundle_timestamp") = false := congrArg Option.isSome given
    exact agree.value own readMoment

/-- So does the calendar. -/
theorem chosenCalendar : a.chosenCalendar f = a.chosenCalendar g := by
  rw [RunArguments.chosenCalendar, RunArguments.chosenCalendar, agree.given_or_text rfl]

/-- With the one file the strategy and both dates are settled if they are with the other. -/
theorem opens {w : Workspace} (settled : a.Opens f w) : a.Opens g w := by
  obtain ⟨strategy, first, last, hstrategy, hfirst, hlast⟩ := settled
  rw [agree.strategy w] at hstrategy
  rw [agree.firstDate] at hfirst
  rw [agree.lastDate] at hlast
  exact ⟨strategy, first, last, hstrategy, hfirst, hlast⟩

end AgreeElsewhere

/-- A setting that the arguments give may have any value in the file. -/
theorem agreeElsewhere_withSetting {key : String} (own : a.gives key) (file : Ini)
    (value : String) : a.AgreeElsewhere (withSetting file key value) file := by
  intro other left
  have differ : Text.toLower other ≠ key := by
    rintro rfl
    rw [own] at left
    cases left
  have lower : Text.toLower "run" = "run" := rfl
  have section? : ((file.get? "run").getD .empty).get? (Text.toLower other) =
      (file.get? "run").bind (·.get? (Text.toLower other)) := by
    cases file.get? "run" <;> rfl
  simp only [Ini.value?, withSetting, lower, SortedMap.get?_insert_self, Option.bind_eq_bind,
    Option.bind_some, SortedMap.get?_insert_of_ne _ differ, section?, Option.bind_assoc]

end Agreement

section Requests

variable {a : RunArguments} {f g file : Ini} {e : Environment} {w : Workspace} {fault : RunError}

/-- The moment of the data fails by the setting of the bundle's moment only. -/
theorem dataTime_error (failed : a.dataTime file = .error fault) :
    ∃ cause, fault = .invalidKey "bundle_timestamp" cause := by
  unfold dataTime at failed
  split at failed
  · cases failed
  · exact runValue_error failed

/-- The calendar fails as a conflict only. -/
theorem chosenCalendar_error (failed : a.chosenCalendar file = .error fault) :
    ∃ cause, fault = .conflict cause := by
  unfold chosenCalendar at failed
  split at failed
  · cases failed
  · rename_i name _
    unfold findCalendar at failed
    cases found : Calendar.WeekdayCalendar.ofName name with
    | ok calendar =>
      rw [found] at failed
      cases failed
    | error upper =>
      rw [found] at failed
      cases failed
      exact ⟨_, rfl⟩

/-- Without a strategy or a date the request is refused before the figures are read. -/
theorem request_of_not_opens (agree : a.AgreeElsewhere f g) (closed : ¬a.Opens f w) :
    a.request f e w = a.request g e w := by
  rw [Opens, agree.strategy w, agree.firstDate, agree.lastDate] at closed
  rw [request, request, agree.strategy w, agree.firstDate, agree.lastDate]
  generalize a.strategy g w = strategy? at closed ⊢
  generalize requiredDate a.first g "start" = first? at closed ⊢
  generalize requiredDate a.last g "end" = last? at closed ⊢
  rcases strategy? with _ | strategy
  · rfl
  rcases first? with _ | first
  · rfl
  rcases last? with _ | last
  · rfl
  · exact absurd ⟨strategy, first, last, rfl, rfl, rfl⟩ closed

/-- Figures that are refused refuse the request, even if the arguments give them. -/
theorem request_of_figures_error (opens : a.Opens file w) (failed : figures file = .error fault) :
    a.request file e w = .error fault := by
  obtain ⟨strategy, first, last, hstrategy, hfirst, hlast⟩ := opens
  rw [request, hstrategy, hfirst, hlast]
  rcases figures_eq_error failed with capitalBase | ⟨c, capitalBase, frequency⟩
  · rw [capitalBase]
    rfl
  · rw [capitalBase, frequency]
    rfl

/-- What is refused later is refused for another reason. -/
theorem request_ne_of_figures_error {read : Option Float × Option DataFrequency} (opens : a.Opens f w)
    (right : figures f = .ok read) (failed : figures g = .error fault) : a.request f e w ≠ .error fault := by
  obtain ⟨strategy, first, last, hstrategy, hfirst, hlast⟩ := opens
  obtain ⟨capitalBase, frequency⟩ := figures_eq_ok.1 right
  rw [request, hstrategy, hfirst, hlast, capitalBase, frequency]
  have named : ∃ key cause, fault = .invalidKey key cause ∧ key ≠ "bundle_timestamp" := by
    rcases figures_eq_error failed with refused | ⟨_, _, refused⟩
    · obtain ⟨cause, rfl⟩ := runValue_error refused
      exact ⟨_, cause, rfl, by decide⟩
    · obtain ⟨cause, rfl⟩ := runValue_error refused
      exact ⟨_, cause, rfl, by decide⟩
  obtain ⟨key, cause, rfl, other⟩ := named
  intro refused
  cases time : a.dataTime f with
  | error _ =>
    rw [time] at refused
    cases refused
    obtain ⟨_, same⟩ := dataTime_error time
    cases same
    exact other rfl
  | ok timestamp =>
    cases chosen : a.chosenCalendar f with
    | error _ =>
      rw [time, chosen] at refused
      cases refused
      obtain ⟨_, same⟩ := chosenCalendar_error chosen
      cases same
    | ok calendar =>
      rw [time, chosen] at refused
      cases refused

/-- Figures that can be read do not matter where the arguments give them. -/
theorem request_of_figures {c c' : Option Float} {q q' : Option DataFrequency}
    (agree : a.AgreeElsewhere f g) (one : figures f = .ok (c, q)) (other : figures g = .ok (c', q')) :
    a.request f e w = a.request g e w := by
  have bundle : a.bundle.or (runText? f "bundle") = a.bundle.or (runText? g "bundle") :=
    agree.given_or_text rfl
  have metrics : a.metrics.or (runText? f "metrics_set") = a.metrics.or (runText? g "metrics_set") :=
    agree.given_or_text rfl
  have blotter : a.blotter.or (runText? f "blotter") = a.blotter.or (runText? g "blotter") :=
    agree.given_or_text rfl
  have output : a.output.or (runText? f "output") = a.output.or (runText? g "output") :=
    agree.given_or_text rfl
  have printing : f.flag "run" "print_algo" false = g.flag "run" "print_algo" false := by
    rw [Ini.flag, Ini.flag, agree "print_algo" rfl]
  obtain ⟨capitalBase, frequency⟩ := figures_eq_ok.1 one
  obtain ⟨capitalBase', frequency'⟩ := figures_eq_ok.1 other
  have capitals : a.capitalBase.or c = a.capitalBase.or c' :=
    agree.given_or_value rfl capitalBase capitalBase'
  have frequencies : a.frequency.or q = a.frequency.or q' :=
    agree.given_or_value rfl frequency frequency'
  rw [request, request, agree.strategy w, agree.firstDate, agree.lastDate, capitalBase, frequency, capitalBase',
    frequency', agree.dataTime, agree.chosenCalendar, bundle, metrics, blotter, output, printing]
  simp only [bind, Except.bind, capitals, frequencies]

/-- The arguments override the run file, with one exception. Run files that differ only in settings that the
arguments give make the same request or are refused for the same reason, unless the capital base or the data
frequency is refused in one of them and not in the other, or for another reason. -/
theorem request_eq_iff (agree : a.AgreeElsewhere f g) (e : Environment) (w : Workspace) :
    a.request f e w = a.request g e w ↔ (a.Opens f w → figureFault? f = figureFault? g) := by
  by_cases opens : a.Opens f w
  · have opens' : a.Opens g w := agree.opens opens
    rw [figureFault?, figureFault?]
    rcases one : figures f with fault | ⟨c, q⟩ <;> rcases other : figures g with fault' | ⟨c', q'⟩
    · rw [request_of_figures_error opens one, request_of_figures_error opens' other]
      simp [opens]
    · have differ := request_ne_of_figures_error (e := e) opens' other one
      rw [request_of_figures_error opens one]
      simp [opens, differ.symm]
    · have differ := request_ne_of_figures_error (e := e) opens one other
      rw [request_of_figures_error opens' other]
      simp [opens, differ]
    · simp [request_of_figures agree one other]
  · exact ⟨fun _ open? => absurd open? opens, fun _ => request_of_not_opens agree opens⟩

/-- A date that cannot be read does not matter where the arguments give the date. -/
theorem request_eq_of_given_start :
    let a : RunArguments := { algotext := some "x = 1", first := some ⟨1⟩, last := some ⟨2⟩ }
    let g := withSetting .empty "data_frequency" "daily"
    a.AgreeElsewhere (withSetting g "start" "soon") g ∧
      a.request (withSetting g "start" "soon") .empty .empty = a.request g .empty .empty := by
  have readable : figureFault? (withSetting (withSetting .empty "data_frequency" "daily") "start" "soon") =
      figureFault? (withSetting .empty "data_frequency" "daily") := rfl
  intro a g
  have agree : a.AgreeElsewhere (withSetting g "start" "soon") g := agreeElsewhere_withSetting rfl g "soon"
  exact ⟨agree, (request_eq_iff agree .empty .empty).2 fun _ => readable⟩

/-- A capital base that is no number does matter where the arguments give the capital base. -/
theorem request_not_always_overridden :
    ¬∀ (a : RunArguments) (f g : Ini) (e : Environment) (w : Workspace),
      a.AgreeElsewhere f g → a.request f e w = a.request g e w := by
  intro always
  let a : RunArguments :=
    { algotext := some "x = 1", first := some ⟨1⟩, last := some ⟨2⟩, capitalBase := some 1000 }
  have refused : a.request (withSetting .empty "capital_base" "abc") .empty .empty =
      .error (.invalidKey "capital_base" (.number .malformed)) := rfl
  have agree : a.AgreeElsewhere (withSetting .empty "capital_base" "abc") .empty :=
    agreeElsewhere_withSetting rfl .empty "abc"
  have same := always a _ _ .empty .empty agree
  rw [refused] at same
  cases same

end Requests

end RunArguments

end Backtest.CommandLine
