import ContestJudge.Process.Outcome
import ContestJudge.Text.Display
import ContestJudge.Verdict.Basic

/-!
# From usage to verdict

A run that overran an output cap is judged by that alone: it was killed for it, so its status says
nothing. Otherwise every limit it reached is a flag, a non-zero exit code is one more, and a signal
is one only when no limit explains it.
-/

namespace ContestJudge

open Text (Bytes)

/-- The flags of a run. -/
def judgeExit (usage : Usage) (limits : Limits) (overflow : Bool) : Flags :=
  if overflow then Flags.empty.insert .outputLimit
  else
    let reached : Flags := {
      wallTimeLimit := limits.wallTime ≤ usage.wallTime
      timeLimit := limits.time ≤ usage.cpuTime
      memoryLimit := limits.memory ≤ usage.peakMemory }
    match usage.status with
    | .exited code => if code = 0 then reached else reached.insert .invalidReturn
    | .signaled _ => if reached.isEmpty then reached.insert .runtimeError else reached

/-- The names of the signals that are worth one. -/
def signalName? (signal : Int) : Option String :=
  [((4 : Int), "SIGILL"), (6, "SIGABRT"), (7, "SIGBUS"), (8, "SIGFPE"), (9, "SIGKILL"),
    (11, "SIGSEGV"), (13, "SIGPIPE"), (15, "SIGTERM"), (24, "SIGXCPU"),
    (25, "SIGXFSZ")].lookup signal

/-- The canonical description of a code, for a process with a given status. -/
def Code.describe (code : Code) (status : Option ExitStatus) : String :=
  match code with
  | .outputLimit => "output limit exceeded"
  | .wallTimeLimit => "wall time limit exceeded"
  | .timeLimit => "time limit exceeded"
  | .memoryLimit => "memory limit exceeded"
  | .invalidReturn =>
    match status with
    | some (.exited n) => s!"exited with code {n}"
    | _ => "exited with non-zero code"
  | .runtimeError =>
    match status with
    | some (.signaled n) =>
      match signalName? n with
      | some name => s!"killed by signal {n} ({name})"
      | none => s!"killed by signal {n}"
    | _ => "runtime error"
  | .wrongAnswer => "wrong answer"
  | .accepted => ""

/-- The verdict on a run by its exit alone. The feedback is what the process wrote to `stream`, or
else the description of the reported code. -/
def judgeOutcome (outcome : Outcome) (limits : Limits) (stream : OutputStream) (points : Float) :
    Verdict :=
  let flags := judgeExit outcome.usage limits outcome.overflow.isSome
  let written := Text.display (outcome.captured stream)
  let feedback :=
    if written.isEmpty then flags.primary.describe (some outcome.usage.status) else written
  .ofFlags flags feedback points (some outcome.usage)

end ContestJudge
