import ContestJudge.FileTree.Operations
import ContestJudge.FileTree.System
import ContestJudge.Process.Outcome
import ContestJudge.Program.Executable
import ContestJudge.Sandbox.World
import ContestJudge.ShellWords.Quote
import ContestJudge.ShellWords.Split
import ContestJudge.Template.Basic
import ContestJudge.Text.Display

/-!
# Building programs

A program is built in a directory of its own, into which its source files are copied. The command
that builds it and the command that runs it are templates over the directory, the file that is built
and the copied sources, each quoted as one word of a shell. Whoever runs the building command is a
`CommandRunner`; nothing is assumed of it.
-/

namespace ContestJudge

open Text (Bytes)

/-- How a command for the shell went. -/
inductive CommandAnswer where
  /-- It could not be started. -/
  | notStarted (message : String)
  /-- It ended after some milliseconds, with its output, unless it never ends. -/
  | ended (time : Option Nat) (status : ExitStatus) (stdout stderr : Bytes)

/-- Runs commands for the shell in a directory. -/
abbrev CommandRunner (ε : Type) := String → Path → World ε → CommandAnswer × World ε

/-- Why a program cannot be built. -/
inductive BuildFault where
  /-- There is no executor for its language. -/
  | unsupportedLanguage (language : String)
  /-- There are no source files, or one of them has no name. -/
  | noSource
  /-- There is no directory to build in. -/
  | noDirectory (message : String)
  /-- A source file cannot be copied. -/
  | copying (cause : FileFault)
  /-- A command template is wrong. -/
  | template (cause : Template.Fault)
  /-- A path cannot be written as a word of a shell. -/
  | unquotable (path : Path)
  /-- The running command has no words, or quotes that do not end. -/
  | invalidCommand (command : String)
  /-- The building command cannot be started. -/
  | notStarted (message : String)
  /-- The building command takes longer than it may. -/
  | timedOut (limit : Duration)
  /-- The building command fails, and says why. -/
  | failed (message : String)

/-- The wording of a build fault. -/
def BuildFault.message : BuildFault → String
  | unsupportedLanguage language => s!"Language not supported: {language}"
  | noSource => "No source file given"
  | noDirectory message => s!"Failed to create build dir: {message}"
  | copying cause => cause.message
  | template cause => s!"Invalid command template: {cause.message}"
  | unquotable path => s!"Cannot quote path {path.quoted} for the shell"
  | invalidCommand command => s!"Invalid run command: '{command}'"
  | notStarted message => s!"Failed to spawn compiler: {message}"
  | timedOut limit => s!"Compilation took longer than {limit.text}"
  | failed message => message

namespace Build

/-- Copies files into a directory one after the other, and gives the paths of the copies. -/
def copyInto (directory : Path) : List Path → FileTree → Except BuildFault (List Path × FileTree)
  | [], tree => .ok ([], tree)
  | source :: rest, tree => do
    let name ← (source.fileName?.map Except.ok).getD (.error .noSource)
    let copy := directory.join ⟨name⟩
    let (_, tree) ← (tree.copy source copy).mapError .copying
    let (copies, tree) ← copyInto directory rest tree
    return (copy :: copies, tree)

/-- A path as one word of a shell. -/
def quotePath (path : Path) : Except BuildFault String :=
  match ShellWords.quote? path.text with
  | some word => .ok word
  | none => .error (.unquotable path)

/-- What the command templates may name: the directory, the file that is built, the first source,
and all sources. -/
def bindings (directory : Path) (artifact : String) (sources : List Path) :
    Except BuildFault Template.Variables := do
  let dir ← quotePath directory
  let exe ← quotePath (directory.join ⟨artifact⟩)
  let words ← sources.mapM quotePath
  return .ofList [("dir", dir), ("exe", exe), ("main", words.headD ""),
    ("sources", " ".intercalate words)]

/-- A command template filled in. -/
def expand (template : String) (vars : Template.Variables) : Except BuildFault String :=
  (Template.expandMarked template vars).mapError .template

/-- The words of the running command: a program and its arguments. -/
def commandWords (template : String) (vars : Template.Variables) :
    Except BuildFault (String × List String) := do
  let command ← expand template vars
  match ShellWords.split? command with
  | some (program :: arguments) => return (program, arguments)
  | _ => throw (.invalidCommand command)

/-- What a failed building command says: its errors, or else its output, or else nothing in
particular. -/
def failureMessage (stdout stderr : Bytes) : String :=
  let errors := Text.display stderr
  let output := Text.display stdout
  if errors ≠ "" then errors else if output ≠ "" then output else "compiler exited abnormally"

/-- What an answer of the building command means. -/
def judgeAnswer (limit : Duration) : CommandAnswer → Except BuildFault Unit
  | .notStarted message => .error (.notStarted message)
  | .ended none _ _ _ => .error (.timedOut limit)
  | .ended (some time) status stdout stderr =>
    if limit ≤ .ofMillis time then .error (.timedOut limit)
    else if status.isSuccess then .ok ()
    else .error (.failed (failureMessage stdout stderr))

/-- Runs the building command, if there is one. -/
def compile {ε : Type} (runner : CommandRunner ε) (template : Option String)
    (vars : Template.Variables) (directory : Path) (limit : Duration) (w : World ε) :
    Except BuildFault Unit × World ε :=
  match template with
  | none => (.ok (), w)
  | some template =>
    match expand template vars with
    | .error fault => (.error fault, w)
    | .ok command =>
      let (answer, w) := runner command directory w
      (judgeAnswer limit answer, w)

/-- Builds a program from copied sources in a directory. -/
def finish {ε : Type} (runner : CommandRunner ε) (executor : Executor) (directory : Path)
    (sources : List Path) (limit : Duration) (w : World ε) :
    Except BuildFault Executable × World ε :=
  match bindings directory executor.artifact sources with
  | .error fault => (.error fault, w)
  | .ok vars =>
    match compile runner executor.compile vars directory limit w with
    | (.error fault, w) => (.error fault, w)
    | (.ok (), w) =>
      ((commandWords executor.command vars).map fun (program, arguments) =>
        ⟨program, arguments, some directory⟩, w)

/-- The name of build directories. -/
def directoryName : String := "kvalid-build-"

end Build

/-- Removes the directory that a program was built in. -/
def Executable.discard (e : Executable) (files : FileTree) : FileTree :=
  match e.buildDirectory with
  | some directory => files.removeTemporary directory
  | none => files

/-- Builds a program of some language from source files, with other files beside them. The directory
is kept only if that succeeds. -/
def build {ε : Type} (executors : Executors) (runner : CommandRunner ε) (sources extra : List Path)
    (language : String) (limit : Duration) (w : World ε) : Except BuildFault Executable × World ε :=
  match executors.get? language with
  | none => (.error (.unsupportedLanguage language), w)
  | some executor =>
    if sources.isEmpty then (.error .noSource, w)
    else
      match w.files.makeTemporary Build.directoryName with
      | .error message => (.error (.noDirectory message), w)
      | .ok (directory, files) =>
        match Build.copyInto directory (sources ++ extra) files with
        | .error fault => (.error fault, w)
        | .ok (copies, files) =>
          let copied := copies.take sources.length
          match Build.finish runner executor directory copied limit { w with files } with
          | (.ok executable, w) => (.ok executable, w)
          | (.error fault, w) =>
            (.error fault, { w with files := w.files.removeTemporary directory })

end ContestJudge
