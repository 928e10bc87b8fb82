import ContestJudge.Process.Outcome
import ContestJudge.Shell.Ceiling

/-!
# The limits that the system enforces

A process is let run a little beyond its limits, so that reaching one of them can be seen: a second
of CPU time more, and some memory.
-/

namespace ContestJudge

open Shell (Ceiling)

/-- The most that the system can be told; it means that there is no limit. -/
def unlimited : Nat := Nat.pow 2 64 - 1

/-- How far the address space may grow past the memory limit, in bytes. -/
def addressSpaceGrace : Nat := 256 * Nat.pow 2 20

/-- Whole seconds that are no fewer than a duration, as far as they can be told. -/
def wholeSeconds (d : Duration) : Nat := d.toFloat.ceil.toUInt64.toNat

/-- The seconds of CPU time after which a process is warned. -/
def Limits.softSeconds (l : Limits) : Nat := min unlimited (wholeSeconds l.time + 1)

/-- The address space of a process in bytes. -/
def Limits.addressSpace (l : Limits) : Nat := min unlimited (l.memory + addressSpaceGrace)

/-- The limits that the system enforces. -/
def Limits.ceiling (l : Limits) : Ceiling where
  bounds := [
    (Shell.secondsLetter, ⟨finite l.softSeconds, finite (min unlimited (l.softSeconds + 1))⟩),
    (Shell.memoryLetter, .both ((finite l.addressSpace).map (· / 1024))),
    (Shell.remainsLetter, .both (some 0))]
where
  /-- A limit, unless it is none. -/
  finite (n : Nat) : Option Nat := if n = unlimited then none else some n

end ContestJudge
