import ContestJudge.Duration
import ContestJudge.Text.Utf8

/-!
# Processes from the outside

How a process ended, what it used and what it was allowed to use, and what an exchange with it
yields.
-/

namespace ContestJudge

/-! ### How a process ended and what it used -/

/-- How a process ended. -/
inductive ExitStatus where
  /-- By itself, with an exit code. -/
  | exited (code : Int)
  /-- By a signal. -/
  | signaled (signal : Int)
  deriving DecidableEq, Repr, Inhabited

/-- Whether a process ended by itself with code zero. -/
def ExitStatus.isSuccess : ExitStatus → Bool
  | .exited code => code = 0
  | .signaled _ => false

/-- The text of a status. -/
def ExitStatus.text : ExitStatus → String
  | .exited code => s!"exit code {code}"
  | .signaled signal => s!"signal {signal}"

/-- The signal that kills unconditionally. -/
def killSignal : Int := 9

/-- What is known of a process once it has been reaped. -/
structure Usage where
  /-- How it ended. -/
  status : ExitStatus
  /-- The CPU time it used. -/
  cpuTime : Duration
  /-- How long it lived. -/
  wallTime : Duration
  /-- The most memory it held, in bytes. -/
  peakMemory : Nat
  deriving DecidableEq, Repr, Inhabited

/-! ### What an exchange with a process yields -/

open Text (Bytes)

/-- The two output streams of a process. -/
inductive OutputStream where
  | stdout
  | stderr
  deriving DecidableEq, Repr, Inhabited

namespace OutputStream

/-- The name of a stream. -/
def name : OutputStream → String
  | .stdout => "stdout"
  | .stderr => "stderr"

/-- The stream of a name. -/
def ofName? (s : String) : Option OutputStream :=
  [stdout, stderr].find? (·.name = s)

end OutputStream

/-- The captured output of a process and its usage. When a stream overran its cap, the process was
killed and that stream holds exactly as many bytes as the cap. -/
structure Outcome where
  /-- What it wrote to its standard output. -/
  stdout : Bytes
  /-- What it wrote to its standard error. -/
  stderr : Bytes
  /-- The stream that overran its cap. -/
  overflow : Option OutputStream
  /-- How it ended. -/
  usage : Usage
  deriving DecidableEq, Repr, Inhabited

/-- The captured bytes of one stream. -/
def Outcome.captured (o : Outcome) : OutputStream → Bytes
  | .stdout => o.stdout
  | .stderr => o.stderr

/-!
### Resource limits

What a process may use. The wall time limit starts out equal to the CPU time limit and is usually
set to a multiple of it.
-/

/-- The resources a process may use; reaching a limit already counts as exceeding it. -/
structure Limits where
  /-- CPU time. -/
  time : Duration
  /-- Peak resident memory in bytes. -/
  memory : Nat
  /-- Time on the clock on the wall. -/
  wallTime : Duration
  deriving DecidableEq, Repr, Inhabited

/-- A multiple of a CPU time limit that is no duration. -/
structure WallTimeFault where
  /-- The CPU time limit. -/
  time : Duration
  /-- The factor. -/
  factor : Float
  deriving Repr

/-- The wording of a wall time fault. -/
def WallTimeFault.message (f : WallTimeFault) : String :=
  s!"Wall time limit out of range: {f.time.text} x {Decimal.plain f.factor}"

namespace Limits

/-- Limits on CPU time and memory, with the CPU time limit on the wall clock too. -/
def ofTime (time : Duration) (memory : Nat) : Limits := ⟨time, memory, time⟩

/-- The limits with a wall time limit of `factor` times the CPU time limit. -/
def scaled (l : Limits) (factor : Float) : Except WallTimeFault Limits :=
  match Duration.ofFloat? (l.time.toFloat * factor) with
  | some wallTime => .ok ⟨l.time, l.memory, wallTime⟩
  | none => .error ⟨l.time, factor⟩

end Limits

end ContestJudge
