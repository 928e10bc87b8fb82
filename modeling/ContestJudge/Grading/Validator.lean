import ContestJudge.Grading.Grader
import ContestJudge.Verdict.Judge

/-!
# Validators

A validator reads the input of a case. It accepts the input by exiting with zero within its limits.
-/

namespace ContestJudge

/-- A validator, and how to use it. -/
structure Validator where
  /-- The program. -/
  executable : Executable
  /-- What it may use; the wall time limit is set for each case. -/
  limits : Limits
  /-- The template of its arguments. -/
  arguments : String
  /-- The stream that holds its feedback. -/
  feedback : OutputStream := .stderr
  /-- The cap on captured standard error. -/
  errorCap : Nat := Exchange.standardErrorCap

namespace Validator

/-- What to run for a case. -/
def spec (v : Validator) (c : Case) : Except GradeFault LaunchSpec := do
  let arguments ← (Template.arguments v.arguments c.batch c.position).mapError .arguments
  return launchSpec v.executable c arguments (← caseLimits v.limits c)

/-- What to make of an outcome. -/
def score (v : Validator) (c : Case) (outcome : Outcome) : Verdict :=
  match caseLimits v.limits c with
  | .ok limits => judgeOutcome outcome limits v.feedback c.data.points
  | .error fault => fault.verdict

/-- A validator as a grader. -/
def grader (v : Validator) : Grader where
  prepare _ c := (v.spec c, c)
  load := loadInput
  score _ c outcome := (v.score c outcome, c)
  errorCap := v.errorCap

end Validator

end ContestJudge
