import ContestJudge.Problem.Convention
import ContestJudge.Problem.Store
import ContestJudge.Program.Build
import ContestJudge.Sandbox.Basic
import ContestJudge.Settings.Basic

/-!
# Sessions

A session is everything that judging the problems of one set of settings needs.
-/

namespace ContestJudge

/-- Everything that judging needs. -/
structure Session (ε π : Type) where
  /-- The settings. -/
  settings : Settings
  /-- The directory of each problem. -/
  problems : Problem.Store
  /-- How programs of each language are built and run. -/
  executors : Executors
  /-- The argument template of each convention. -/
  conventions : Problem.Conventions := .builtin
  /-- Where programs run. -/
  sandbox : Sandbox ε π
  /-- Runs the commands that build programs. -/
  runner : CommandRunner ε

namespace Session

variable {ε π : Type}

/-- The session of some settings. -/
def ofSettings (settings : Settings) (sandbox : Sandbox ε π) (runner : CommandRunner ε)
    (files : FileTree) : Session ε π where
  settings := settings
  problems := .discover files settings.baseDirectory settings.problemPatterns
  executors := settings.executorOfLanguage
  sandbox := sandbox
  runner := runner

/-- The limits that a problem sets, or else those of the settings. The memory is in KiB. -/
def limits (s : Session ε π) (time : Option Duration) (memory : Option Nat) : Limits :=
  .ofTime (time.getD s.settings.timeLimit)
    ((memory.map Settings.kibibytes).getD s.settings.memoryBytes)

end Session

end ContestJudge
