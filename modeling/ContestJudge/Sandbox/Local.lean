import ContestJudge.FileTree.System
import ContestJudge.Machine.Program
import ContestJudge.Machine.Run
import ContestJudge.Program.Build
import ContestJudge.Sandbox.Basic
import ContestJudge.Sandbox.Ceiling

/-!
# Running programs on the machine

Each program runs in a directory of its own, which holds nothing but its links and is removed with
everything in it once the program is given up. Commands that build programs run in the shell,
without an input and without limits.
-/

namespace ContestJudge.Machine

open Text

/-- The name of running directories. -/
def directoryName : String := "kvalid-run-"

/-- Prepares a program in a new directory. -/
def load (spec : LaunchSpec) (files : FileTree) : Except LaunchFault (Loaded × FileTree) := do
  let (directory, files) ← (files.makeTemporary directoryName).mapError .noDirectory
  let files ← (files.placeLinks directory spec.links).mapError .setup
  let inside := { files with current := FileTree.placeOf directory.text }
  let program ← (findProgram inside spec.program spec.arguments).mapError
    (launchFault spec.program)
  return ({
    program, directory
    ceiling := spec.limits.ceiling
    inputPiped := spec.inputPiped
    outputPiped := fun
      | .stdout => spec.outputPiped
      | .stderr => spec.errorPiped }, files)

/-- The sandbox that runs programs on the machine. A launch takes no time. -/
def sandbox {ε : Type} : Sandbox ε Loaded where
  launch spec w :=
    match load spec w.files with
    | .ok (program, files) => (⟨some 0, .ok program⟩, { w with files })
    | .error fault => (⟨some 0, .error fault⟩, w)
  engage program input w :=
    let (trace, files) := program.run (some input) w.files
    (program.behaviour trace input, { w with files })
  release program w := { w with files := w.files.removeTemporary program.directory }

/-- The shell with a command to run in a directory. -/
def shellCommand (command : String) (directory : Path) : Loaded where
  program := {
    utility := Shell.shellName
    name := Shell.shellPath
    arguments := ["-c", Octets.ofText command] }
  directory := directory
  ceiling := {}
  inputPiped := false
  outputPiped _ := true

/-- Everything that a program wrote to a stream. -/
def Trace.output (t : Trace) (stream : OutputStream) : Bytes :=
  (t.written.filter (·.2.1 = stream)).flatMap (·.2.2)

/-- Runs a command in the shell. It has ended once nothing more can come from its streams. -/
def runCommand {ε : Type} : CommandRunner ε := fun command directory w =>
  if command.contains '\x00' then (.notStarted IoFault.nulInArgument.message, w)
  else
    let (trace, files) := (shellCommand command directory).run (some []) w.files
    let time := do
      return max (← trace.ended) (max (← trace.closed .stdout) (← trace.closed .stderr))
    (.ended time trace.status (trace.output .stdout) (trace.output .stderr), { w with files })

end ContestJudge.Machine
