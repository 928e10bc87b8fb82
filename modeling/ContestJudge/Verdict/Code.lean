/-!
# Verdict codes and failure flags

A run can fail in several ways at once. `Flags` is the set of them and `Flags.primary` the one that
is reported: codes are declared in the order of their precedence, and `accepted` is never a flag.
-/

namespace ContestJudge

/-- The codes of verdicts, most important first. -/
inductive Code where
  /-- Too much output. -/
  | outputLimit
  /-- Too long on the wall clock. -/
  | wallTimeLimit
  /-- Too much CPU time. -/
  | timeLimit
  /-- Too much memory. -/
  | memoryLimit
  /-- A non-zero exit code. -/
  | invalidReturn
  /-- Killed by a signal, or never run at all. -/
  | runtimeError
  /-- Output that differs from the expected one. -/
  | wrongAnswer
  /-- Nothing wrong. -/
  | accepted
  deriving DecidableEq, Repr, Inhabited

namespace Code

/-- All codes, most important first. -/
def all : List Code :=
  [outputLimit, wallTimeLimit, timeLimit, memoryLimit, invalidReturn, runtimeError, wrongAnswer,
    accepted]

/-- The place of a code in the order of precedence. -/
def rank : Code → Nat
  | outputLimit => 0
  | wallTimeLimit => 1
  | timeLimit => 2
  | memoryLimit => 3
  | invalidReturn => 4
  | runtimeError => 5
  | wrongAnswer => 6
  | accepted => 7

/-- More important codes come first. -/
instance : Ord Code := ⟨fun c d => compare c.rank d.rank⟩

/-- The short name of a code. -/
def label : Code → String
  | outputLimit => "OLE"
  | wallTimeLimit => "WTLE"
  | timeLimit => "TLE"
  | memoryLimit => "MLE"
  | invalidReturn => "IR"
  | runtimeError => "RTE"
  | wrongAnswer => "WA"
  | accepted => "AC"

/-- The code with a short name. -/
def ofLabel? (s : String) : Option Code := all.find? (·.label = s)

/-- Whether a code means that nothing is wrong. -/
def isAccepted (c : Code) : Bool := c = accepted

end Code

/-- The ways in which a run failed; none of them means that it is accepted. -/
structure Flags where
  outputLimit : Bool := false
  wallTimeLimit : Bool := false
  timeLimit : Bool := false
  memoryLimit : Bool := false
  invalidReturn : Bool := false
  runtimeError : Bool := false
  wrongAnswer : Bool := false
  deriving DecidableEq, Repr, Inhabited

namespace Flags

/-- No failure. -/
def empty : Flags := {}

/-- Whether a code is among the flags. -/
def contains (f : Flags) : Code → Bool
  | .outputLimit => f.outputLimit
  | .wallTimeLimit => f.wallTimeLimit
  | .timeLimit => f.timeLimit
  | .memoryLimit => f.memoryLimit
  | .invalidReturn => f.invalidReturn
  | .runtimeError => f.runtimeError
  | .wrongAnswer => f.wrongAnswer
  | .accepted => false

/-- Adds a code; adding `accepted` changes nothing. -/
def insert (f : Flags) : Code → Flags
  | .outputLimit => { f with outputLimit := true }
  | .wallTimeLimit => { f with wallTimeLimit := true }
  | .timeLimit => { f with timeLimit := true }
  | .memoryLimit => { f with memoryLimit := true }
  | .invalidReturn => { f with invalidReturn := true }
  | .runtimeError => { f with runtimeError := true }
  | .wrongAnswer => { f with wrongAnswer := true }
  | .accepted => f

/-- The flags of a list of codes. -/
def ofList (codes : List Code) : Flags := codes.foldl insert empty

/-- The flags, most important first. -/
def toList (f : Flags) : List Code := Code.all.filter f.contains

/-- Whether there is no flag. -/
def isEmpty (f : Flags) : Bool := f = empty

/-- The most important flag, or `accepted`. -/
def primary (f : Flags) : Code := f.toList.head?.getD .accepted

@[simp] theorem contains_accepted (f : Flags) : f.contains .accepted = false := rfl

theorem mem_toList {f : Flags} {c : Code} : c ∈ f.toList ↔ f.contains c = true := by
  cases c <;> simp [toList, Code.all]

end Flags

end ContestJudge
