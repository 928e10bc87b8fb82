import ContestJudge.Process.Outcome
import ContestJudge.Verdict.Code

/-!
# Verdicts

What is said about one run: its flags, a line of feedback, the points it earns and what it used.
-/

namespace ContestJudge

/-- What is said about one run. -/
structure Verdict where
  /-- The ways in which it failed. -/
  flags : Flags
  /-- What to tell its author. -/
  feedback : String
  /-- The points it earns; none with a flag. -/
  points : Float
  /-- What it used, if it ran. -/
  usage : Option Usage
  deriving Repr, Inhabited

namespace Verdict

/-- A verdict that awards `points` exactly if there is no flag. -/
def ofFlags (flags : Flags) (feedback : String) (points : Float) (usage : Option Usage) : Verdict :=
  ⟨flags, feedback, if flags.isEmpty then points else 0, usage⟩

/-- The code that is reported. -/
def code (v : Verdict) : Code := v.flags.primary

/-- Whether nothing is wrong. -/
def isAccepted (v : Verdict) : Bool := v.flags.isEmpty

/-- The most characters of a diagnostic that become feedback. -/
def diagnosticLimit : Nat := 200

/-- A diagnostic, cut and marked with dots if it is too long. -/
def cutDiagnostic (diagnostic : String) : String :=
  let cs := diagnostic.toList
  if diagnosticLimit < cs.length then String.ofList (cs.take diagnosticLimit) ++ "..."
  else diagnostic

/-- The verdict on a case that could not be run or judged. -/
def internalError (diagnostic : String) : Verdict :=
  ofFlags (Flags.empty.insert .runtimeError) (cutDiagnostic diagnostic) 0 none

end Verdict

/-! ### The record of a run through a problem's cases -/

/-- Which case a verdict is about. -/
structure CaseId where
  /-- Counted from one across the whole problem. -/
  number : Nat
  /-- The batch it belongs to. -/
  batch : Option Nat
  /-- Counted from one within its batch, or within the top level. -/
  position : Nat
  deriving DecidableEq, Repr, Inhabited

/-- The verdicts on a problem's cases, in the order in which they were judged. -/
structure Record where
  /-- Each case with its verdict. -/
  entries : List (CaseId × Verdict)
  deriving Inhabited

namespace Record

/-- Nothing judged yet. -/
def empty : Record := ⟨[]⟩

/-- Adds a verdict at the end. -/
def push (r : Record) (id : CaseId) (verdict : Verdict) : Record := ⟨r.entries ++ [(id, verdict)]⟩

/-- How many verdicts there are. -/
def size (r : Record) : Nat := r.entries.length

/-- Whether any case has a flag, whatever its points. -/
def failed (r : Record) : Bool := r.entries.any fun (_, v) => !v.isAccepted

/-- The reported code of each case. -/
def codes (r : Record) : List Code := r.entries.map fun (_, v) => v.code

/-- The points of all cases together. -/
def points (r : Record) : Float := r.entries.foldl (fun sum (_, v) => sum + v.points) 0

end Record

end ContestJudge
