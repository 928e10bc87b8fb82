import ContestJudge.Grading.Grader
import ContestJudge.Verdict.Judge

/-!
# Solutions

A solution turns the input of a case into the expected output, byte for byte. The expected output is
read before the solution is launched and again, if that failed, before it is given the input, so
that an unreadable file is never taken for a wrong answer.
-/

namespace ContestJudge

/-- A solution, and how to use it. -/
structure Solution where
  /-- The program. -/
  executable : Executable
  /-- What it may use; the wall time limit is set for each case. -/
  limits : Limits
  /-- The cap on captured standard error. -/
  errorCap : Nat := Exchange.standardErrorCap

namespace Solution

/-- What to run for a case that says what to expect. -/
def prepare (s : Solution) (files : FileTree) (c : Case) : Except GradeFault LaunchSpec × Case :=
  match c.expected files with
  | (none, c) => (.error (.noExpectedOutput c.position), c)
  | (some _, c) => ((caseLimits s.limits c).map (launchSpec s.executable c []), c)

/-- The input of a case, once the expected output has been read as well. -/
def load (files : FileTree) (c : Case) : Except GradeFault Text.Bytes × Case :=
  match loadInput files c with
  | (.error fault, c) => (.error fault, c)
  | (.ok input, c) =>
    match c.expected files with
    | (some (.error fault), c) => (.error (.testData fault), c)
    | (_, c) => (.ok input, c)

/-- The verdict on a run with some flags. -/
def verdict (flags : Flags) (c : Case) (outcome : Outcome) : Verdict :=
  .ofFlags flags (flags.primary.describe (some outcome.usage.status)) c.data.points
    (some outcome.usage)

/-- What to make of an outcome: a run without any other flag is compared with what is expected. -/
def score (s : Solution) (files : FileTree) (c : Case) (outcome : Outcome) : Verdict × Case :=
  match caseLimits s.limits c with
  | .error fault => (fault.verdict, c)
  | .ok limits =>
    let flags := judgeExit outcome.usage limits outcome.overflow.isSome
    if !flags.isEmpty then (verdict flags c outcome, c)
    else match c.expected files with
      | (some (.ok expected), c) =>
        let flags := if expected = outcome.stdout then flags else flags.insert .wrongAnswer
        (verdict flags c outcome, c)
      | (some (.error fault), c) => (.internalError fault.message, c)
      | (none, c) => ((GradeFault.noExpectedOutput c.position).verdict, c)

/-- A solution as a grader. -/
def grader (s : Solution) : Grader where
  prepare := s.prepare
  load := load
  score := s.score
  errorCap := s.errorCap

end Solution

end ContestJudge
