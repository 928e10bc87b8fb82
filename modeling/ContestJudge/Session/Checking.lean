import ContestJudge.Grading.Solution
import ContestJudge.Session.Validation

/-!
# Checking solutions

A solution is run on the input of every case of a problem, and its output is compared with what is
expected. Each wrong answer is shown in full at the end.
-/

namespace ContestJudge

/-- Why a solution cannot be checked. -/
inductive CheckFault where
  /-- There is no such problem. -/
  | unknownProblem (problem : String)
  /-- The declaration of the problem cannot be read. -/
  | unreadable (problem : String) (cause : FileFault)
  /-- The cases of the problem are not well declared. -/
  | invalidCases (problem : String) (cause : Problem.CaseFault)
  /-- The problem has no cases. -/
  | noCases (problem : String)
  /-- There is no such solution. -/
  | program (cause : FileFault)
  /-- Some case has no wall time limit. -/
  | wallTime (problem : String) (cause : WallTimeFault)

/-- What went wrong and what caused it, outermost first. -/
def CheckFault.chain : CheckFault → List String
  | unknownProblem problem => [unknownProblemMessage problem]
  | unreadable problem cause => s!"Failed to load config of problem '{problem}'" :: cause.chain
  | invalidCases problem cause => [s!"Invalid test cases in problem '{problem}'", cause.message]
  | noCases problem => [s!"Problem '{problem}' has no test cases"]
  | program cause => cause.chain
  | wallTime problem cause => [s!"Invalid test cases in problem '{problem}'", cause.message]

/-- All that a check needs once nothing speaks against it. -/
structure CheckPlan where
  /-- The path of the solution, free of links. -/
  program : Path
  /-- What it may use. -/
  limits : Limits
  /-- The cases. -/
  cases : CaseTree

/-- A solution that was checked. -/
structure Check where
  /-- The id of the problem. -/
  problem : String
  /-- The path of the solution. -/
  program : Path
  /-- The cases. -/
  runs : List JudgedRun
  /-- What is shown of the wrong answers. -/
  wrongAnswers : List Console.Line

/-- What is shown of a wrong answer, if a case is one: what was expected of it and what came out. -/
def JudgedCase.wrongAnswer? (c : JudgedCase) : Option Console.Line :=
  if c.graded.verdict.code ≠ .wrongAnswer then none
  else do
    let outcome ← c.graded.outcome
    let expected ← (← c.graded.case.data.expected).kept?
    return .wrongAnswer c.id c.graded.verdict expected outcome.stdout

/-- Collects what is shown of wrong answers. -/
def collectWrongAnswers : Watcher (List Console.Line) := fun shown c =>
  shown ++ c.wrongAnswer?.toList

namespace Check

/-- What is shown of a check. -/
def lines (c : Check) : List Console.Line :=
  .checkHeader c.program.text c.problem :: c.runs.flatMap JudgedRun.lines
    ++ c.wrongAnswers ++ [.checkSummary (JudgedRun.record c.runs)]

/-- The exit code for a check. -/
def exitCode (c : Check) : Nat := if (JudgedRun.record c.runs).failed then 1 else 0

end Check

namespace Session

variable {ε π : Type}

/-- Plans a check. -/
def planCheck (s : Session ε π) (id : String) (program : Path) (files : FileTree) :
    Except CheckFault CheckPlan := do
  let directory ← (s.problems.get? id).elim (.error (.unknownProblem id)) .ok
  let d ← (Problem.Declaration.load files directory).mapError (.unreadable id)
  let cases ← (d.tree directory).mapError (.invalidCases id)
  if cases.isEmpty then throw (.noCases id)
  let program ← (files.canonical program).mapError .program
  let limits := s.limits d.timeLimit d.memoryLimit
  (checkWallTimes limits cases).mapError (.wallTime id)
  return ⟨program, limits, cases⟩

/-- The solution of a plan. -/
def solution (p : CheckPlan) : Solution where
  executable := .precompiled p.program.text []
  limits := p.limits

/-- Checks a solution of a problem. -/
def check (s : Session ε π) (id : String) (program : Path) (w : World ε) :
    Except CheckFault (Option (Check × World ε)) :=
  (s.planCheck id program w.files).map fun p => do
    let judge := (solution p).grader.grade s.sandbox
    let (runs, wrongAnswers, w) ← judgeCases judge collectWrongAnswers p.cases [] w
    return (⟨id, p.program, runs, wrongAnswers⟩, w)

end Session

end ContestJudge
