import ContestJudge.FileTree.Fault
import ContestJudge.NameMap
import ContestJudge.Process.Outcome

/-!
# Launching programs
-/

namespace ContestJudge

/-- What is to be run, and how. -/
structure LaunchSpec where
  /-- The program. -/
  program : String
  /-- Its arguments. -/
  arguments : List String
  /-- What it may use. -/
  limits : Limits
  /-- The links in its directory, by name, with what they lead to. -/
  links : NameMap Path := .empty
  /-- Whether its input is a pipe. -/
  inputPiped : Bool := true
  /-- Whether its standard output is a pipe. -/
  outputPiped : Bool := true
  /-- Whether its standard error is a pipe. -/
  errorPiped : Bool := true
  deriving Inhabited

/-- Why a launch fails. -/
inductive LaunchFault where
  /-- There is no such program. -/
  | programNotFound (program : String)
  /-- The program cannot be started. -/
  | notStarted (program message : String)
  /-- The links cannot be placed. -/
  | setup (cause : FileFault)
  /-- There is no directory to run in. -/
  | noDirectory (message : String)
  /-- It takes longer than it may. -/
  | timedOut (after : Duration)
  deriving DecidableEq, Repr

/-- The wording of a launch fault. -/
def LaunchFault.message : LaunchFault → String
  | programNotFound program => s!"Program not found: '{program}'"
  | notStarted program message => s!"Failed to spawn '{program}': {message}"
  | setup cause => s!"Failed to prepare working dir: {cause.message}"
  | noDirectory message => s!"Failed to create working dir: {message}"
  | timedOut after => s!"Launch did not finish within {after.text}"

end ContestJudge
