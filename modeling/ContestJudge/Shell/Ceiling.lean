/-!
# Ceilings

The limits that a process runs under, by the letters of its resources. Each has a soft and a hard
value: the soft one is what counts, and it never exceeds the hard one.
-/

namespace ContestJudge.Shell

/-- The values of a limit; without one there is no limit. -/
structure Bound where
  /-- What counts. -/
  soft : Option Nat := none
  /-- The most that the soft value may become. -/
  hard : Option Nat := none
  deriving DecidableEq, Repr, Inhabited

/-- A bound whose values are the same. -/
def Bound.both (n : Option Nat) : Bound := ⟨n, n⟩

/-- The letter for seconds of CPU time. -/
def secondsLetter : Char := 't'

/-- The letter for the size of the memory in KiB. -/
def memoryLetter : Char := 'v'

/-- The letter for the size of what a crash leaves behind. -/
def remainsLetter : Char := 'c'

/-- The letters of all resources with what they stand for. -/
def resources : List (Char × String) :=
  [('t', "time(seconds)"), ('f', "file(blocks)"), ('d', "data(kbytes)"), ('s', "stack(kbytes)"),
    ('c', "coredump(blocks)"), ('m', "memory(kbytes)"), ('l', "locked memory(kbytes)"),
    ('p', "process"), ('n', "nofiles"), ('v', "vmemory(kbytes)"), ('w', "locks"), ('r', "rtprio")]

/-- The limits of a process. -/
structure Ceiling where
  /-- The bounds that were set. -/
  bounds : List (Char × Bound) := []
  deriving DecidableEq, Repr, Inhabited

namespace Ceiling

/-- The bound of a resource that nobody has set. -/
def usual (letter : Char) : Bound :=
  match letter with
  | 's' => ⟨some 8192, none⟩
  | 'l' => .both (some 8192)
  | 'n' => .both (some 1048576)
  | 'r' => .both (some 0)
  | _ => {}

/-- The bound of a resource. -/
def get (c : Ceiling) (letter : Char) : Bound := (c.bounds.lookup letter).getD (usual letter)

/-- Sets the bound of a resource. -/
def set (c : Ceiling) (letter : Char) (bound : Bound) : Ceiling :=
  ⟨(letter, bound) :: c.bounds.filter (·.1 ≠ letter)⟩

/-- The seconds of CPU time until a process is told to end, and the signal that tells it: a kinder
one if it is not the last second. -/
def lastSecond? (c : Ceiling) : Option (Nat × Nat) :=
  let b := c.get secondsLetter
  b.soft.map fun seconds => (seconds, if b.hard.any (· ≤ seconds) then 9 else 24)

end Ceiling

/-- Whether a value is no more than another one. -/
def atMost : Option Nat → Option Nat → Bool
  | _, none => true
  | none, some _ => false
  | some a, some b => a ≤ b

end ContestJudge.Shell
