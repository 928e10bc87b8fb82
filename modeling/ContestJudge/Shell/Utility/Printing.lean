import ContestJudge.Shell.Format
import ContestJudge.Shell.Utility.Basic

/-!
# Utilities that write their arguments
-/

namespace ContestJudge.Shell.Utility

/-- Writes words. Options are only words that hold nothing but their letters. -/
def echo : Utility := fun arguments s =>
  let isOption := fun (word : String) =>
    match word.toList with
    | '-' :: c :: letters => (c :: letters).all fun c => "neE".contains c
    | _ => false
  let options := (arguments.takeWhile isOption).flatMap String.toList
  let escapes := (options.filter fun c => c ≠ 'n' && c ≠ '-').getLast? = some 'e'
  .say s.files (echoText true escapes (options.contains 'n') (arguments.dropWhile isOption))

/-- Writes arguments by a format, again and again as long as it takes any. -/
def printf : Utility := fun arguments s =>
  let operands := if arguments.head? = some "--" then arguments.drop 1 else arguments
  match operands with
  | [] => s.misuse "missing operand"
  | format :: arguments =>
    let p := printed systemDialect format arguments
    let said := p.outcomes.reverse.map fun
      | .text text => (OutputStream.stdout, text)
      | .complaint text => (.stderr, s!"{s.name}: {text}\n")
      | .warning text => (.stderr, s!"{s.name}: {text}\n")
    let status := if p.isEnded ∨ p.complaints = [] then 0 else 1
    let written : Effect := { files := s.files, said, status }
    match p.fault, p.arguments with
    | some fault, _ => written.andThen fun files => s.refuse files fault
    | none, extra :: _ =>
      if p.isEnded then written
      else
        let warning := s!"warning: ignoring excess arguments, starting with {quoted extra}"
        written.andThen fun files => s.refuse files warning 0
    | none, [] => written

/-- Writes a line without end. -/
def yes : Utility :=
  Usage.run {} fun _ operands s =>
    let line := (if operands = [] then "y" else " ".intercalate operands) ++ "\n"
    let count := 65536 / line.length + 1
    { Effect.say s.files (String.join (List.replicate count line)) with isEndless := true }

end ContestJudge.Shell.Utility
