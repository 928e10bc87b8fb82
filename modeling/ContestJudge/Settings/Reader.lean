import ContestJudge.Document.Decode
import ContestJudge.FileTree.Operations
import ContestJudge.Settings.Basic

/-!
# Settings files

How settings are written down, and where the settings of a directory are found.
-/

namespace ContestJudge

open Document

/-- The fields of an executor. -/
def Executor.shape : RecordShape where
  name := "ExecutorSpec"
  fields := [("compile", .optional), ("run", .required), ("exe", .defaulted)]

/-- Reads an executor. -/
def Executor.decode (v : Value) : Except Fault Executor :=
  Executor.shape.decode v { compile := none, command := "" } fun e name part =>
    match name with
    | "compile" => return { e with compile := some (← part.1.words) }
    | "run" => return { e with command := ← part.1.words }
    | "exe" => return { e with artifact := ← part.1.words }
    | _ => return e

namespace Settings

/-- The fields of a settings file. -/
def shape : RecordShape where
  name := "Config"
  fields := [("problem_storage_globs", .defaulted), ("generator_time_limit", .defaulted),
    ("generator_memory_limit", .defaulted), ("generator_compiler_time_limit", .defaulted),
    ("executors", .defaulted)]

/-- Reads settings. -/
def decode (v : Value) : Except Fault Settings :=
  shape.decode v {} fun s name part =>
    match name with
    | "problem_storage_globs" => return { s with problemPatterns := ← part.1.list Value.pattern }
    | "generator_time_limit" => return { s with timeLimit := ← part.1.seconds }
    | "generator_memory_limit" => return { s with memoryLimit := ← part.1.count }
    | "generator_compiler_time_limit" => return { s with compilerTimeLimit := ← part.1.seconds }
    | "executors" => return { s with executors := ← part.1.map Executor.decode }
    | _ => return s

/-- The settings that a text describes. -/
def parse (text : String) : Except Document.Failure Settings := Document.read decode text

/-- Why there are no settings. -/
inductive Missing where
  /-- No directory on the way up has a settings file. -/
  | notFound
  /-- The file cannot be read. -/
  | unreadable (fault : FileFault)
  /-- The file does not hold settings. -/
  | invalid (path : Path)
  deriving DecidableEq, Repr

/-- What went wrong and what caused it, outermost first. -/
def Missing.chain : Missing → List String
  | notFound => [s!"Not in a kvalid judge dir: Cannot find '{fileName.text}'"]
  | unreadable fault => "Cannot read a file" :: fault.chain
  | invalid path => [s!"Invalid config TOML: {path.quoted}", documentFaultText]

/-- Reads a settings file. -/
def load (tree : FileTree) (path : Path) : Except Missing Settings :=
  match tree.readText path with
  | .error fault => .error (.unreadable fault)
  | .ok text =>
    match parse text with
    | .error _ => .error (.invalid path)
    | .ok settings => .ok { settings with source := some path }

/-- Reads the settings file of a directory: the first one on the way up. -/
def find (tree : FileTree) (directory : Path) : Except Missing Settings :=
  match (directory.ancestors.map (·.join fileName)).find? tree.isFile with
  | none => .error .notFound
  | some path => load tree path

end Settings

end ContestJudge
