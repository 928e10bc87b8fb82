import ContestJudge.Case.Basic
import ContestJudge.Exchange.Run
import ContestJudge.Program.Executable
import ContestJudge.Sandbox.Basic
import ContestJudge.Sandbox.Launch
import ContestJudge.Template.Arguments
import ContestJudge.Verdict.Basic

/-!
# Judging one case

A grader says what to run for a case, what to give it, and what to make of the outcome. The data of
a case is read on the way and kept in the case, so every step returns the case as it leaves it.
Whatever goes wrong before there is an outcome becomes a verdict of its own.
-/

namespace ContestJudge

/-! ### Why a case cannot be judged -/

/-- Why a case cannot be judged. -/
inductive GradeFault where
  /-- The argument template gives no arguments. -/
  | arguments (cause : Template.ArgumentFault)
  /-- The case has no wall time limit. -/
  | wallTime (cause : WallTimeFault)
  /-- The program cannot be launched. -/
  | launch (cause : LaunchFault)
  /-- The exchange with the program fails. -/
  | exchange (cause : Exchange.Fault)
  /-- The data of the case cannot be read. -/
  | testData (cause : FileFault)
  /-- The case at some position says nothing about the output. -/
  | noExpectedOutput (position : Nat)

/-- The wording of a grade fault. -/
def GradeFault.message : GradeFault → String
  | arguments cause => cause.message
  | wallTime cause => cause.message
  | launch cause => cause.message
  | exchange cause => cause.message
  | testData cause => s!"Cannot load test data: {cause.message}"
  | noExpectedOutput position => s!"No expected output for case #{position}"

/-- The verdict on a case that cannot be judged. -/
def GradeFault.verdict (fault : GradeFault) : Verdict := .internalError fault.message

/-! ### Graders -/

open Text (Bytes)

/-- How cases are judged. -/
structure Grader where
  /-- What to run for a case. -/
  prepare : FileTree → Case → Except GradeFault LaunchSpec × Case
  /-- What to give to the program. -/
  load : FileTree → Case → Except GradeFault Bytes × Case
  /-- What to make of the outcome. -/
  score : FileTree → Case → Outcome → Verdict × Case
  /-- The cap on captured standard error. -/
  errorCap : Nat

/-- One launch, as it went. -/
structure LaunchRecord where
  /-- What was launched. -/
  spec : LaunchSpec
  /-- Whether a process came of it. -/
  started : Bool
  /-- The exchange with the process, if there was one. -/
  exchange : Option Exchange.Run

/-- A case that was judged. -/
structure Graded where
  /-- The verdict. -/
  verdict : Verdict
  /-- The outcome that it is about, if the program ran. -/
  outcome : Option Outcome
  /-- The case as it is left. -/
  case : Case
  /-- The launch, if there was one. -/
  launch : Option LaunchRecord
  /-- The milliseconds that it took. -/
  elapsed : Nat

/-- A case that could not be judged. -/
def Graded.ofFault (fault : GradeFault) (c : Case) (launch : Option LaunchRecord) (elapsed : Nat) :
    Graded :=
  ⟨fault.verdict, none, c, launch, elapsed⟩

namespace Grader

variable {ε π : Type}

/-- The caps on captured output for a case. -/
def caps (g : Grader) (c : Case) : OutputStream → Nat
  | .stdout => c.data.settings.outputLimit
  | .stderr => g.errorCap

/-- Judges a case whose process runs; `none` if the process never ends. -/
def interact (g : Grader) (s : Sandbox ε π) (spec : LaunchSpec) (process : π) (time : Nat)
    (c : Case) (w : World ε) : Option (Graded × World ε) :=
  match g.load w.files c with
  | (.error fault, c) => some (.ofFault fault c (some ⟨spec, true, none⟩) time, s.release process w)
  | (.ok input, c) => do
    let (behaviour, w) := s.engage process input w
    let run ← Exchange.run behaviour spec.limits.wallTime (g.caps c) false input
    let w := s.release process w
    let launch := some ⟨spec, true, some run⟩
    match run.result with
    | .error fault => return (.ofFault (.exchange fault) c launch (time + run.time), w)
    | .ok outcome =>
      let (verdict, c) := g.score w.files c outcome
      return (⟨verdict, some outcome, c, launch, time + run.time⟩, w)

/-- Judges a case; `none` if that never ends. -/
def grade (g : Grader) (s : Sandbox ε π) (c : Case) (w : World ε) : Option (Graded × World ε) :=
  match g.prepare w.files c with
  | (.error fault, c) => some (.ofFault fault c none 0, w)
  | (.ok spec, c) => do
    let (arrival, w) := s.launch spec w
    let started ← arrival.bound spec.limits.wallTime
    match started.result with
    | .error fault => return (.ofFault (.launch fault) c (some ⟨spec, false, none⟩) started.time, w)
    | .ok process => g.interact s spec process started.time c w

end Grader

/-- What to run for a case. -/
def launchSpec (e : Executable) (c : Case) (arguments : List String) (limits : Limits) :
    LaunchSpec :=
  let (program, arguments) := e.commandLine arguments
  { program, arguments, limits, links := c.data.settings.links }

/-- The limits of a case. -/
def caseLimits (limits : Limits) (c : Case) : Except GradeFault Limits :=
  (limits.scaled c.data.settings.wallTimeFactor).mapError .wallTime

/-- The input of a case. -/
def loadInput (files : FileTree) (c : Case) : Except GradeFault Bytes × Case :=
  let (result, c) := c.input files
  (result.mapError .testData, c)

end ContestJudge
