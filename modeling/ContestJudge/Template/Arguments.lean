import ContestJudge.ShellWords.Split
import ContestJudge.Template.Basic

/-!
# Argument templates

The arguments of a validator are written as one braced template, `{batch_no} {case_no}` for
instance. The numbers are filled in first, then the line is split into words.
-/

namespace ContestJudge.Template

/-- Why a template gives no arguments. -/
inductive ArgumentFault where
  /-- The template itself is wrong. -/
  | template (fault : Fault)
  /-- The line that it gives has an open quote or ends in a backslash. -/
  | unbalancedQuotes (line : String)
  deriving DecidableEq, Repr

/-- The wording of an argument fault. -/
def ArgumentFault.message : ArgumentFault → String
  | .template fault => "Invalid argument template: " ++ fault.message
  | .unbalancedQuotes line => "Unbalanced quotes in arguments: '" ++ line ++ "'"

/-- The variables of a case: its batch number, zero outside batches, and its position. -/
def caseVariables (batch : Option Nat) (position : Nat) : Variables :=
  .ofList [("batch_no", toString (batch.getD 0)), ("case_no", toString position)]

/-- The arguments that a template gives for one case. -/
def arguments (template : String) (batch : Option Nat) (position : Nat) :
    Except ArgumentFault (List String) :=
  match expandBraced template (caseVariables batch position) with
  | .error fault => .error (.template fault)
  | .ok line =>
    match ShellWords.split? line with
    | none => .error (.unbalancedQuotes line)
    | some words => .ok words

end ContestJudge.Template
