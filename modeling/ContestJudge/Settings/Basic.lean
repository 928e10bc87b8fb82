import ContestJudge.Duration
import ContestJudge.Glob.Pattern
import ContestJudge.Path.Basic
import ContestJudge.Program.Executable

/-!
# Settings

What a judge is set up with: where its problems are, what a validator and a compiler may use unless
a problem says otherwise, and how programs of each language are built and run.
-/

namespace ContestJudge

/-- The settings of a judge. -/
structure Settings where
  /-- The file that the settings come from. -/
  source : Option Path := none
  /-- The patterns that the directories of problems match. -/
  problemPatterns : List Glob.Pattern := (Glob.Pattern.parse "./problems/*").toOption.toList
  /-- The CPU time that a validator may use. -/
  timeLimit : Duration := .ofSeconds 20
  /-- The memory that a validator may use, in KiB. -/
  memoryLimit : Nat := 524288
  /-- The time that building a validator may take. -/
  compilerTimeLimit : Duration := .ofSeconds 30
  /-- Executors that replace those that are always there. -/
  executors : NameMap Executor := .empty
  deriving DecidableEq, Inhabited

namespace Settings

/-- The name of a settings file. -/
def fileName : Path := ⟨"kvalid.toml"⟩

/-- The directory that paths in the settings are relative to. -/
def baseDirectory (s : Settings) : Path := (s.source.bind Path.parent?).getD ⟨"."⟩

/-- A number of KiB in bytes, as far as 64 bits can say. -/
def kibibytes (n : Nat) : Nat := min (n * 1024) (Nat.pow 2 64 - 1)

/-- The memory that a validator may use, in bytes. -/
def memoryBytes (s : Settings) : Nat := kibibytes s.memoryLimit

/-- The executor of each language. -/
def executorOfLanguage (s : Settings) : Executors := Executors.builtin.override s.executors

end Settings

end ContestJudge
