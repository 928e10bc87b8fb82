import ContestJudge.CommandLine.Execution
import ContestJudge.Sandbox.Local

/-!
# The program

The program takes a picture of the files that it may need, carries out what its arguments ask for on
that picture, shows the lines that come of it, and writes the files back that have changed.
Everything else is decided by the rest of the library.
-/

namespace ContestJudge.CommandLine

/-- What is shown to a user who asks for an explanation. -/
def usageText : String :=
  String.join <| [
    "It validates test inputs of problems by running their validators.",
    "",
    s!"Usage: {programName} [OPTIONS] <COMMAND>",
    "",
    "Commands:",
    "  validate <PROBLEM_IDS>...          validate problems",
    "  problems [--json]                  list the problems",
    "  check <PROBLEM_ID> <EXECUTABLE>    run a compiled solution on every test case",
    "  init [--force] [DIR]               write an example kvalid.toml",
    "  help                               show this",
    "",
    "Options:",
    "      --config <CONFIG>  Path to kvalid.toml"
      ++ " (default: searched in current dir and its ancestors)",
    "  -h, --help             Print help",
    "  -V, --version          Print version"].map (· ++ "\n")

/-- The name and version of the program. -/
def versionText : String := s!"{programName} 0.1.0\n"

/-- The variables of the environment that mean something. -/
def variableNames : List String :=
  ["HOME", "XDG_CONFIG_HOME", "COLORTERM", "NO_COLOR", "CLICOLOR", "CLICOLOR_FORCE"]
    ++ ["GENERATOR_TIME_LIMIT", "GENERATOR_MEMORY_LIMIT", "GENERATOR_COMPILER_TIME_LIMIT"].map
      (Settings.variableStart ++ ·)

/-- A file. It counts as executable when it names an interpreter. -/
def fileEntry (content : Text.Bytes) : Entry :=
  .file content (Shell.interpreter? (Text.Octets.ofBytes content)).isSome

/-- The entries of a picture that are not in another one, or not like that. -/
def changedFiles (before after : FileTree) : List (Place × Text.Bytes) :=
  after.entries.filterMap fun (place, entry) =>
    match entry with
    | .file content _ => if before.get? place = some entry then none else some (place, content)
    | _ => none

/-- Everything at and below an entry of a directory; what cannot be read is left out. -/
partial def entriesAt (entry : IO.FS.DirEntry) : IO (List (Place × Entry)) := do
  try
    let path := entry.path
    let place := FileTree.placeOf path.toString
    match (← path.symlinkMetadata).type with
    | .dir => return (place, .directory) :: (← (← path.readDir).toList.mapM entriesAt).flatten
    | .symlink => return [(place, .link (← IO.FS.realPath path).toString)]
    | .file => return [(place, fileEntry (← IO.FS.readBinFile path).toList)]
    | .other => return []
  catch _ => return []

/-- Adds everything below a directory to a picture, with the directories above it. -/
def addBelow (files : FileTree) (directory : String) : IO FileTree := do
  try
    let here ← IO.FS.realPath directory
    let found := (← (← here.readDir).toList.mapM entriesAt).flatten
    let place := FileTree.placeOf here.toString
    let above := (List.range (place.length + 1)).map fun n => (place.take n, Entry.directory)
    return (above ++ found).foldl
      (fun files (place, entry) =>
        if (files.get? place).isSome then files else files.set place entry) files
  catch _ => return files

/-- The directories of which a picture is taken. -/
def neededDirectories (s : Surroundings) (i : Invocation) : List Path :=
  let program := match i.command with
    | .check _ program => [program]
    | _ => []
  let written := (i.settings.toList ++ s.userSettings :: program).filterMap Path.parent?
  s.directory :: written.map (s.directory.join ·)

/-- The nearest directory on the way up that has a settings file, or else the directory itself. -/
def judgeDirectory (directory : Path) : IO Path := do
  for candidate in directory.ancestors do
    let path ← IO.FS.realPath (candidate.join Settings.fileName).text
    if ← path.pathExists then return candidate
  return directory

/-- Shows what is wrong with the arguments, or explains them. -/
def showFault (fault : UsageFault) : IO Unit :=
  match fault with
  | .helpWanted => IO.print usageText
  | .versionWanted => IO.print versionText
  | .nothingGiven => IO.eprint usageText
  | fault => IO.eprint s!"error: {fault.message}\n\n{usageText}"

/-- Carries out a command on the files of the machine. -/
def carryOut (s : Surroundings) (invocation : Invocation) : IO Nat := do
  let directories := (← judgeDirectory s.directory) :: neededDirectories s invocation
  let mut files := FileTree.system
  for directory in directories do
    files ← addBelow files directory.text
  files := { files with current := FileTree.placeOf s.directory.text }
  let sandbox : Sandbox Unit Machine.Loaded := Machine.sandbox
  match invocation.execute s sandbox Machine.runCommand ⟨files, ()⟩ with
  | .error failure =>
    IO.eprintln s!"Error: {chainText failure.chain}"
    return Failure.exitCode
  | .ok none =>
    IO.eprintln "Error: this never ends"
    return Failure.exitCode
  | .ok (some (report, w)) =>
    -- the terminal is not asked for its size
    let palette := Console.Palette.ofEnvironment s.environment (← (← IO.getStdout).isTty) none
    IO.print (Console.transcript palette report.lines)
    for (place, content) in changedFiles files w.files do
      let path := FileTree.pathOf place
      if let some parent := path.parent? then IO.FS.createDirAll parent.text
      IO.FS.writeBinFile path.text content.toByteArray
    return report.exitCode

end ContestJudge.CommandLine

open ContestJudge CommandLine

/-- Does what the arguments ask for. -/
def main (arguments : List String) : IO UInt32 := do
  match Invocation.read arguments with
  | .error fault =>
    showFault fault
    return fault.exitCode.toUInt32
  | .ok invocation =>
    let directory ← IO.FS.realPath "."
    let found ← variableNames.filterMapM fun variableName => do
      return (← IO.getEnv variableName).map (variableName, ·)
    return (← carryOut ⟨⟨directory.toString⟩, found⟩ invocation).toUInt32
