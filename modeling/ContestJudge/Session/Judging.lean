import ContestJudge.Case.Tree
import ContestJudge.Console.Line
import ContestJudge.Grading.Grader

/-!
# Judging all cases of a problem

The cases of a tree are judged in order, each once, whatever became of those before. They are
numbered across the whole problem and shown in runs: the cases of one batch after the header of the
batch. Whoever wants to know of each case right after it was judged is a `Watcher`.
-/

namespace ContestJudge

/-- Judges one case; `none` if that never ends. -/
abbrev CaseJudge (ε : Type) := Case → World ε → Option (Graded × World ε)

/-- A case that was judged. -/
structure JudgedCase where
  /-- Which case it is. -/
  id : CaseId
  /-- What came of it. -/
  graded : Graded

/-- Neighbouring cases of one batch, or of none. -/
structure JudgedRun where
  /-- The number of the batch. -/
  batch : Option Nat
  /-- The cases. -/
  cases : List JudgedCase

/-- Someone who is told of each case as soon as it has been judged; `σ` is what they make of it. -/
abbrev Watcher (σ : Type) := σ → JudgedCase → σ

/-- Judges cases, the first of which has the given number, under the eyes of a watcher who has
`seen` something before. -/
def judgeEach {ε σ : Type} (judge : CaseJudge ε) (watch : Watcher σ) (number : Nat) :
    List Case → σ → World ε → Option (List JudgedCase × σ × World ε)
  | [], seen, w => some ([], seen, w)
  | c :: rest, seen, w => do
    let (graded, w) ← judge c w
    let judged : JudgedCase := ⟨⟨number, c.batch, c.position⟩, graded⟩
    let (more, seen, w) ← judgeEach judge watch (number + 1) rest (watch seen judged) w
    return (judged :: more, seen, w)

/-- Judges runs of cases, the first of which has the given number. -/
def judgeRuns {ε σ : Type} (judge : CaseJudge ε) (watch : Watcher σ) (number : Nat) :
    List (Option Nat × List (Option Nat × Case)) → σ → World ε →
      Option (List JudgedRun × σ × World ε)
  | [], seen, w => some ([], seen, w)
  | (batch, cases) :: rest, seen, w => do
    let (judged, seen, w) ← judgeEach judge watch number (cases.map (·.2)) seen w
    let (runs, seen, w) ← judgeRuns judge watch (number + cases.length) rest seen w
    return (⟨batch, judged⟩ :: runs, seen, w)

/-- Judges all cases of a tree; `none` if that never ends. -/
def judgeCases {ε σ : Type} (judge : CaseJudge ε) (watch : Watcher σ) (tree : CaseTree) (seen : σ)
    (w : World ε) : Option (List JudgedRun × σ × World ε) :=
  judgeRuns judge watch 1 (runs (·.1) tree.flatten) seen w

namespace JudgedRun

/-- What is shown of a run: the header of its batch and a line for each case. -/
def lines (run : JudgedRun) : List Console.Line :=
  (run.batch.map Console.Line.batchHeader).toList
    ++ run.cases.map fun c => .caseStatus c.id c.graded.verdict

/-- All cases of some runs. -/
def allCases (runs : List JudgedRun) : List JudgedCase := runs.flatMap cases

/-- The record of some runs. -/
def record (runs : List JudgedRun) : Record :=
  (allCases runs).foldl (fun r c => r.push c.id c.graded.verdict) .empty

/-- All launches of some runs. -/
def launches (runs : List JudgedRun) : List LaunchRecord :=
  (allCases runs).filterMap (·.graded.launch)

end JudgedRun

/-- Whether every case of a tree has a wall time limit. -/
def checkWallTimes (limits : Limits) (tree : CaseTree) : Except WallTimeFault Unit :=
  tree.flatten.forM fun (_, c) => (limits.scaled c.data.settings.wallTimeFactor).map fun _ => ()

end ContestJudge
