import ContestJudge.CommandLine.Arguments
import ContestJudge.CommandLine.Surroundings
import ContestJudge.Json.Printer
import ContestJudge.Settings.Starter

/-!
# Carrying out commands

A command changes the world, shows lines and ends with an exit code. What it shows is part of its
result, so nothing here depends on a terminal being there.
-/

namespace ContestJudge.CommandLine

/-- What a command has done. -/
structure Report where
  /-- What it shows. -/
  lines : List Console.Line
  /-- How it ends. -/
  exitCode : Nat

/-- The problems of a store, one a line. -/
def problemLines (problems : Problem.Store) : List Console.Line :=
  problems.keys.map fun id => .plain (id ++ "\n")

/-- The problems of a store as JSON. -/
def problemsJson (problems : Problem.Store) : Json :=
  .arr (problems.toList.map fun (id, directory) =>
    .obj [("id", .str id), ("dir", .str directory.text)])

/-- Writes the settings of a new judge into a directory. Settings that are there are replaced only
by force, because nobody can be asked. -/
def prepare (files : FileTree) (directory : Path) (force : Bool) :
    Except Failure (Report × FileTree) := do
  let target := directory.join Settings.fileName
  if !force && files.pathExists target then throw (.noAnswer .notTerminal)
  let files ←
    (files.writeWithParents target (Text.Utf8.encode Settings.starter)).mapError .unwritten
  return (⟨[.success s!"Successfully wrote example config. (path: {target.text})"], 0⟩, files)

variable {ε π : Type}

/-- The session of a command. -/
def openSession (s : Surroundings) (sandbox : Sandbox ε π) (runner : CommandRunner ε)
    (named : Option Path) (files : FileTree) : Except Failure (Session ε π) := do
  return .ofSettings (← s.settings files named) sandbox runner files

/-- Carries out what arguments ask for; `none` if that never ends. -/
def Invocation.execute (i : Invocation) (s : Surroundings) (sandbox : Sandbox ε π)
    (runner : CommandRunner ε) (w : World ε) : Except Failure (Option (Report × World ε)) :=
  match i.command with
  | .problems asJson => do
    let session ← openSession s sandbox runner i.settings w.files
    let lines :=
      if asJson then [.plain ((problemsJson session.problems).pretty ++ "\n")]
      else problemLines session.problems
    return some (⟨lines, 0⟩, w)
  | .validate ids => do
    let session ← openSession s sandbox runner i.settings w.files
    let ended ← (session.validateMany ids w).mapError .unknownProblems
    return ended.map fun (validations, w) =>
      (⟨Validation.summaryLines validations, exitCode (Validation.failures validations)⟩, w)
  | .check problem program => do
    let session ← openSession s sandbox runner i.settings w.files
    let ended ← (session.check problem program w).mapError .check
    return ended.map fun (check, w) => (⟨check.lines, check.exitCode⟩, w)
  | .prepare directory force => do
    let (report, files) ← prepare w.files directory force
    return some (report, { w with files })

end ContestJudge.CommandLine
