import ContestJudge.Process.Outcome

/-!
# How a launched process behaves

A behaviour is everything that a process does, as a timetable in whole milliseconds since its
launch: how it answers writes to its input, what it writes to its outputs and when, when it exits,
and how killing it and waiting for it turn out. A descendant may hold a stream open, so a stream can
end after the exit.

Killing may fail and may then be tried again, and each attempt turns out its own way; the first that
works counts (`Behaviour.killing`). Likewise each wait turns out its own way. One that works
completes with the process, and one that fails does so at a time of its own, until which it is
pending whatever becomes of the process (`Behaviour.waited`).
-/

namespace ContestJudge.Exchange

open Text (Bytes)

/-- The answer to one write to the input of a process. -/
inductive WriteAnswer where
  /-- At most so many bytes are taken. -/
  | taken (count : Nat)
  /-- The process closed its end. -/
  | brokenPipe
  /-- The write fails. -/
  | failed (message : String)
  deriving DecidableEq, Repr

/-- The answer to closing the input of a process. -/
inductive CloseAnswer where
  | closed
  | brokenPipe
  | failed (message : String)
  deriving DecidableEq, Repr

/-- The input of a process: when and how it answers successive writes, and the closing after them. A
write without an answer never completes. -/
structure InputPipe where
  /-- The answers to writes. -/
  writes : List (Nat × WriteAnswer)
  /-- The answer to closing. -/
  closing : Option (Nat × CloseAnswer)
  deriving DecidableEq, Repr, Inhabited

/-- What one read from an output stream yields. -/
inductive StreamEvent where
  | data (bytes : Bytes)
  | ended
  | failed (message : String)
  deriving DecidableEq, Repr

/-- The timetable of a process. -/
structure Behaviour where
  /-- Its input, if that is a pipe. -/
  input : Option InputPipe
  /-- What it writes to each stream that is a pipe, in order of time. -/
  output : OutputStream → Option (List (Nat × StreamEvent))
  /-- When it exits, if it does so by itself. -/
  exit : Option Nat
  /-- How it exits by itself. -/
  status : ExitStatus
  /-- The CPU time it uses. -/
  cpuTime : Duration
  /-- The memory it uses. -/
  peakMemory : Nat
  /-- The wall time that is reported, when it is not the time of its end. -/
  reportedWall : Option Duration
  /-- Why an attempt at killing it fails, if any does. -/
  killFault : Option String
  /-- Why a wait for it fails, if any does. -/
  waitFault : Option String
  /-- Which attempts at killing it fail then, counted from zero. -/
  killFails : Nat → Bool := fun _ => true
  /-- When each wait for it fails then, counted from zero. A wait without a time works. -/
  waitFails : Nat → Option Nat := fun _ => some 0
  deriving Inhabited

namespace Behaviour

/-- Whether an attempt at killing a process fails. -/
def resists (b : Behaviour) (attempt : Nat) : Bool := b.killFault.isSome && b.killFails attempt

/-- When a process is killed, if that is attempted at some times: at the first that works. -/
def killing (b : Behaviour) (attempts : List Nat) : Option Nat :=
  (attempts.zipIdx.find? fun (_, attempt) => !b.resists attempt).map (·.1)

/-- When and how a process ends, if it is killed at some time. Killing a process that has exited
changes nothing. -/
def ending (b : Behaviour) (killed : Option Nat) : Option (Nat × ExitStatus) :=
  match b.exit, killed with
  | some exit, some kill =>
    if exit ≤ kill then some (exit, b.status) else some (kill, .signaled killSignal)
  | some exit, none => some (exit, b.status)
  | none, some kill => some (kill, .signaled killSignal)
  | none, none => none

/-- What is reported of a process that ended. -/
def usage (b : Behaviour) (time : Nat) (status : ExitStatus) : Usage where
  status := status
  cpuTime := b.cpuTime
  wallTime := b.reportedWall.getD (.ofMillis time)
  peakMemory := b.peakMemory

/-- When and why a wait for a process fails, if it does. -/
def faultOf (b : Behaviour) (wait : Nat) : Option (Nat × String) := do
  return (← b.waitFails wait, ← b.waitFault)

/-- When and how a wait for a process completes, if killing it was attempted at some times; `none` if
it never does. -/
def waited (b : Behaviour) (wait : Nat) (attempts : List Nat) :
    Option (Nat × Except String Usage) :=
  match b.faultOf wait with
  | some (time, message) => some (time, .error message)
  | none => (b.ending (b.killing attempts)).map fun e => (e.1, .ok (b.usage e.1 e.2))

end Behaviour

end ContestJudge.Exchange
