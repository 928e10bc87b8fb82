import ContestJudge.Session.Checking
import ContestJudge.Settings.Override
import ContestJudge.Settings.Reader

/-!
# How commands fail

A command either ends with an exit code or fails. A failure is told as a chain of messages, from
what was wanted down to what the system said.
-/

namespace ContestJudge.CommandLine

/-- Why a command cannot be carried out. -/
inductive Failure where
  /-- There are no settings. -/
  | settings (cause : Settings.Missing)
  /-- The environment replaces settings by what cannot be one. -/
  | environment (cause : Settings.OverrideFault)
  /-- Some problems are unknown. -/
  | unknownProblems (cause : UnknownProblems)
  /-- A solution cannot be checked. -/
  | check (cause : CheckFault)
  /-- A question to the user cannot be asked. -/
  | noAnswer (cause : IoFault)
  /-- The settings of a new judge cannot be written. -/
  | unwritten (cause : FileFault)

/-- Stands for the text of an environment fault, which is not kept. -/
def environmentFaultText : String := "<env error>"

/-- An override fault and what caused it. -/
def overrideChain (fault : Settings.OverrideFault) : List String :=
  match fault with
  | .unreadable => [fault.message, environmentFaultText]
  | .notDuration .. => [fault.message]

/-- What went wrong and what caused it, outermost first. -/
def Failure.chain : Failure → List String
  | settings cause => cause.chain
  | environment cause => "Failed to apply environment overrides" :: overrideChain cause
  | unknownProblems cause => [cause.message]
  | check cause => cause.chain
  | noAnswer cause => ["Failed to read answer", cause.message]
  | unwritten cause => "Failed to write example config" :: cause.chain

/-- A chain of messages as it is shown: several causes are numbered. -/
def chainText : List String → String
  | [] => ""
  | [message] => message
  | [message, cause] => s!"{message}\n\nCaused by:\n    {cause}"
  | message :: causes =>
    let numbered := causes.zipIdx.map fun (cause, i) => s!"\n    {i}: {cause}"
    s!"{message}\n\nCaused by:" ++ String.join numbered

/-- The exit code of a failure. -/
def Failure.exitCode : Nat := 1

end ContestJudge.CommandLine
