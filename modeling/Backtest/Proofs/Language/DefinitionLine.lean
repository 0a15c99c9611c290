import Backtest.Proofs.Language.Assignments
import Backtest.Proofs.Language.DefinitionLists
import Backtest.Proofs.Language.RoundTrip
import Backtest.Proofs.Language.ScriptLines

/-!
# A definition as a line of a script

A definition string is split at its equals sign, a line of a script is read token by token. On one line both
find the same name, and the same expression or none, whatever blanks and comments there are. So a definition
and the script that it is as a line do the same.
-/

namespace Backtest.Language

open Backtest.Text

variable {text : String} {d : Definition}

/-- The line of a definition assigns to the name of the definition. -/
theorem assignee?_of_written (written : d.WrittenAs text) :
    assignee? text.toList = some (d.name, d.expression.toList) := by
  obtain ⟨front, split, name, -⟩ := written.front
  obtain ⟨before, behind, trimmed, blankBefore, blankBehind⟩ := exists_trimBlanks front
  have nameChars : d.name.toList = trimBlanks front := by rw [name, String.toList_ofList]
  refine assignee?_eq_some_iff.2 ⟨written.identifier, ?_, before, behind, ?_, blankBefore, blankBehind⟩
  · exact fun doubled => written.single (List.mem_of_head? doubled)
  · rw [split, nameChars, ← trimmed]

/-- On a line that is neither blank nor a comment stands the statement that the line is. -/
theorem toOption_readLine {line : List Char} (busy : ¬isIdle (trimBlanks line)) :
    (readLine line).toOption = (readStatement line).toOption.map some := by
  rw [← toOption_readStatement_trimBlanks, readLine, if_neg busy, parseStatement, String.toList_ofList]
  cases readStatement (trimBlanks line) <;> rfl

/-- On the line of a definition stands an assignment, if the expression can be read. -/
theorem toOption_readLine_of_written (written : d.WrittenAs text) :
    (readLine text.toList).toOption =
      (parse d.expression).toOption.map fun e => some (.assign d.name e) := by
  have assigns := assignee?_of_written written
  have busy : ¬isIdle (trimBlanks text.toList) := by
    intro idle
    have silent : skipBlank text.toList = [] := silent_of_isIdle idle
    rw [assignee?, silent] at assigns
    cases assigns
  rw [toOption_readLine busy, toOption_readStatement, assigns]
  dsimp only
  rw [← toOption_parse, Option.map_map]
  rfl

/-- A definition that is written as a line is read as an assignment, or fails with its expression. -/
theorem readLine_of_written (written : d.WrittenAs text) :
    (∃ e, parse d.expression = .ok e ∧ readLine text.toList = .ok (some (.assign d.name e))) ∨
      ∃ e f, parse d.expression = .error e ∧ readLine text.toList = .error f := by
  have line := toOption_readLine_of_written written
  generalize parse d.expression = read at line ⊢
  generalize readLine text.toList = stands at line ⊢
  rcases read with e | e <;> rcases stands with f | statement? <;> cases line
  · exact .inr ⟨e, f, rfl, rfl⟩
  · exact .inl ⟨e, rfl, rfl⟩

/-- The same error, or two errors of reading. -/
inductive EvalError.Alike : EvalError → EvalError → Prop where
  | same (e : EvalError) : Alike e e
  | parse (e f : ParseError) : Alike (.parse e) (.parse f)

/-- A definition and the script that it is as a line mean the same. Both succeed and leave the same bindings,
or both fail with the same error and leave the bindings as they were; only where and why the expression
cannot be read may be told differently. -/
theorem define_as_script (split : Definition.ofString? text = some d) (single : '\n' ∉ text.toList)
    (b : Bindings) :
    (∃ last, define b [text] = (.ok (), last) ∧ runScript Host.core text ⟨b, ()⟩ = (.ok (), ⟨last, ()⟩)) ∨
      ∃ e f, e.Alike f ∧ define b [text] = (.error (.evaluation d.name e), b) ∧
        runScript Host.core text ⟨b, ()⟩ = (.error ⟨1, f⟩, ⟨b, ()⟩) := by
  have written := Definition.ofString?_eq_some_iff.1 split
  have script : parseScript text = readLines 1 [text.toList] := by rw [parseScript, pieces_of_not_mem single]
  rw [define, splitDefinitions_of_written (.cons written .nil), runScript, script, readLines_cons]
  simp only [bindDefinitions, evalText]
  rcases readLine_of_written written with ⟨e, read, line⟩ | ⟨e, f, read, line⟩
  · rw [read, line]
    simp only [readLines, Except.map, runLines, Statement.run]
    rcases evaluate Host.core b e () with ⟨failure | v, ⟨⟩⟩
    · exact .inr ⟨failure, failure, .same failure, rfl, rfl⟩
    · exact .inl ⟨b.insert d.name v, rfl, rfl⟩
  · rw [read, line]
    exact .inr ⟨.parse e, .parse f, .parse e f, rfl, rfl⟩

/-- A definition with blanks around its name and a comment behind it. -/
theorem define_as_script_with_comment :
    let b := Bindings.empty.insert "total" (.int 1)
    define .empty [" total\t= 1 # once"] = (.ok (), b) ∧
      runScript Host.core " total\t= 1 # once" ⟨.empty, ()⟩ = (.ok (), ⟨b, ()⟩) := by
  intro b
  have split : Definition.ofString? " total\t= 1 # once" = some ⟨"total", " 1 # once"⟩ := by decide +kernel
  have one : parse "1" = .ok (.literal (.int 1)) :=
    parse_text (e := .literal (.int 1)) (.literal (.int 1 (by decide)))
  have comment : Silent " # once".toList := rfl
  have same : (parse " 1 # once").toOption = (parse "1").toOption := by
    calc
      (parse " 1 # once").toOption
        = (readExpr (" 1".toList ++ " # once".toList)).toOption := toOption_parse _
      _ = (readExpr " 1".toList).toOption := toOption_readExpr_append comment (by decide) (by decide) _
      _ = (readExpr "1".toList).toOption := toOption_readExpr_congr rfl
      _ = (parse "1").toOption := (toOption_parse "1").symm
  have read : parse " 1 # once" = .ok (.literal (.int 1)) := by
    rw [one] at same
    cases again : parse " 1 # once" <;> rw [again] at same <;> cases same
    rfl
  have defined : define .empty [" total\t= 1 # once"] = (.ok (), b) := by
    rw [define, splitDefinitions_of_written (.cons (Definition.ofString?_eq_some_iff.1 split) .nil)]
    simp only [bindDefinitions, evalText, read]
    rfl
  rcases define_as_script split (by decide) .empty with ⟨last, same, ran⟩ | ⟨e, f, -, failed, -⟩
  · rw [defined] at same
    cases same
    exact ⟨defined, ran⟩
  · rw [defined] at failed
    cases failed

end Backtest.Language
