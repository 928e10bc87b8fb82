import ContestJudge.FileTree.Operations
import ContestJudge.Sandbox.Launch
import ContestJudge.Shell.Program

/-!
# Programs that a machine can run

A program is named by a path, or by a name that is looked up in the directories for programs.
-/

namespace ContestJudge.Machine

open Text

/-- The directories where programs are looked up. -/
def searchPath : List Path := [⟨"/usr/local/bin"⟩, ⟨"/usr/bin"⟩, ⟨"/bin"⟩]

/-- The path that a program's name means in a directory: itself if it holds a slash, or else the
first one in the directories for programs, if any. -/
def locate (tree : FileTree) (program : String) : Except IoFault Path :=
  if program.contains '/' then .ok ⟨program⟩
  else if program = "" then .error .notFound
  else if FileTree.nameLimit < program.utf8ByteSize then .error .nameTooLong
  else match (searchPath.map (·.join ⟨program⟩)).find? tree.pathExists with
    | some path => .ok path
    | none => .error .notFound

/-- The program that is to be run in a directory. -/
def findProgram (tree : FileTree) (program : String) (arguments : List String) :
    Except IoFault Shell.Program := do
  if (program :: arguments).any (·.contains '\x00') then throw .nulInArgument
  let path ← locate tree program
  Shell.Program.find tree Shell.interpreterLimit (Octets.ofText path.text) (Octets.ofText program)
    (arguments.map Octets.ofText)

/-- The fault of a launch whose program cannot be run. -/
def launchFault (program : String) : IoFault → LaunchFault
  | .notFound => .programNotFound program
  | fault => .notStarted program fault.message

end ContestJudge.Machine
