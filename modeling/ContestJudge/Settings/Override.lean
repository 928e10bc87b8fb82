import ContestJudge.Decimal.Positional
import ContestJudge.Decimal.Reading
import ContestJudge.Settings.Basic

/-!
# Settings from outside

A few settings can be given in the environment, and then replace those of the file. A variable is
named after the setting, in letters of any case behind a fixed beginning.
-/

namespace ContestJudge.Settings

/-- Settings that replace others. -/
structure Overrides where
  /-- The CPU time that a validator may use, in seconds. -/
  timeLimit : Option Float := none
  /-- The memory that a validator may use, in KiB. -/
  memoryLimit : Option Nat := none
  /-- The time that building a validator may take, in seconds. -/
  compilerTimeLimit : Option Float := none

/-- Why settings cannot be replaced. -/
inductive OverrideFault where
  /-- A variable does not hold a number, or one is given twice. -/
  | unreadable
  /-- A duration that is no duration. -/
  | notDuration (name : String) (value : Float)

/-- How the names of the variables begin. -/
def variableStart : String := "KVALID_"

/-- The wording of an override fault. -/
def OverrideFault.message : OverrideFault → String
  | unreadable => s!"Invalid {variableStart}* environment variable"
  | notDuration name value => s!"{variableStart}{name} must be non-negative: {Decimal.plain value}"

/-- Drops the fixed beginning of a name, as often as it is there. -/
def dropStart : Nat → String → String
  | 0, name => name
  | fuel + 1, name =>
    if name.startsWith variableStart then dropStart fuel (name.drop variableStart.length).toString
    else name

/-- The variables that may hold settings, by the rest of their names in small letters. -/
def namedSettings (environment : List (String × String)) : List (String × String) :=
  (environment.filter fun v => v.1.startsWith variableStart).map fun v =>
    ((dropStart v.1.length v.1).toLower, v.2)

/-- The value of a variable that may be missing but not be there twice. -/
def lookupVariable {α : Type} (read? : String → Option α) (name : String)
    (vars : List (String × String)) : Except OverrideFault (Option α) :=
  match vars.filter (·.1 = name) with
  | [] => .ok none
  | [(_, text)] =>
    match read? text with
    | some value => .ok (some value)
    | none => .error .unreadable
  | _ => .error .unreadable

/-- The settings that an environment gives. -/
def Overrides.ofEnvironment (environment : List (String × String)) :
    Except OverrideFault Overrides := do
  let vars := namedSettings environment
  return ⟨← lookupVariable Decimal.float? "generator_time_limit" vars,
    ← lookupVariable Decimal.natural? "generator_memory_limit" vars,
    ← lookupVariable Decimal.float? "generator_compiler_time_limit" vars⟩

/-- A duration that may replace another one. -/
def replaceDuration (name : String) (old : Duration) : Option Float → Except OverrideFault Duration
  | none => .ok old
  | some value =>
    match Duration.ofFloat? value with
    | some duration => .ok duration
    | none => .error (.notDuration name value)

/-- Replaces settings. -/
def override (s : Settings) (o : Overrides) : Except OverrideFault Settings := do
  let timeLimit ← replaceDuration "GENERATOR_TIME_LIMIT" s.timeLimit o.timeLimit
  let compilerTimeLimit ←
    replaceDuration "GENERATOR_COMPILER_TIME_LIMIT" s.compilerTimeLimit o.compilerTimeLimit
  return { s with timeLimit, memoryLimit := o.memoryLimit.getD s.memoryLimit, compilerTimeLimit }

/-- Replaces the settings that an environment gives. -/
def overrideFrom (s : Settings) (environment : List (String × String)) :
    Except OverrideFault Settings := do
  s.override (← Overrides.ofEnvironment environment)

end ContestJudge.Settings
