import ContestJudge.Case.Basic
import ContestJudge.Document.Decode
import ContestJudge.Process.Outcome
import ContestJudge.Problem.Store

/-!
# Problem declarations

What a problem file says: the limits of solutions, the validator, and the cases with their settings.
A setting that a case does not make is left open here.
-/

namespace ContestJudge.Problem

open Document

/-- What a problem says about its validator. -/
structure ValidatorDeclaration where
  /-- The language that it is written in. -/
  language : Option String := none
  /-- Its source files, by one name or a list of names. -/
  source : Option Value := none
  /-- The CPU time that it may use. -/
  timeLimit : Option Duration := none
  /-- The memory that it may use, in KiB. -/
  memoryLimit : Option Nat := none
  /-- The time that building it may take. -/
  compilerTimeLimit : Option Duration := none
  /-- The name of the stream that it gives feedback on. -/
  feedback : Option String := none
  /-- The name of the argument convention that it follows. -/
  convention : Option String := none
  /-- The template of its arguments. -/
  arguments : Option String := none
  deriving Inhabited

/-- What a problem says about a case or a batch of cases. -/
structure CaseDeclaration where
  /-- The file with the input. -/
  input : Option Path := none
  /-- The file with the expected output. -/
  expected : Option Path := none
  /-- The points that it is worth. -/
  points : Option Float := none
  /-- The most bytes that a program may write. -/
  outputLimit : Option Nat := none
  /-- How often the CPU time limit fits into the wall time limit. -/
  wallTimeFactor : Option Float := none
  /-- The files that a program finds in its directory, by name. -/
  links : Option (NameMap Path) := none
  /-- The cases of a batch. -/
  members : Option (List CaseDeclaration) := none
  deriving Inhabited

/-- What a problem file says. -/
structure Declaration where
  /-- The CPU time that a solution may use. -/
  timeLimit : Option Duration := none
  /-- The memory that a solution may use, in KiB. -/
  memoryLimit : Option Nat := none
  /-- The most bytes that a program may write. -/
  outputLimit : Nat := CaseSettings.outputLimit {}
  /-- How often the CPU time limit fits into the wall time limit. -/
  wallTimeFactor : Float := CaseSettings.wallTimeFactor {}
  /-- The files that a program finds in its directory, by name. -/
  links : NameMap Path := .empty
  /-- The validator. -/
  validator : Option ValidatorDeclaration := none
  /-- The cases and batches. -/
  cases : List CaseDeclaration := []
  deriving Inhabited

namespace ValidatorDeclaration

/-- The fields of a validator. -/
def shape : RecordShape where
  name := "ValidatorConfig"
  fields := ["language", "source", "time", "memory", "compiler_time_limit", "feedback", "type",
    "args_format_string"].map (·, .optional)

/-- Reads a validator. -/
def decode (v : Value) : Except Fault ValidatorDeclaration :=
  shape.decode v {} fun d name part =>
    match name with
    | "language" => return { d with language := some (← part.1.words) }
    | "source" => return { d with source := some (← part.1.generic) }
    | "time" => return { d with timeLimit := some (← part.1.seconds) }
    | "memory" => return { d with memoryLimit := some (← part.1.count) }
    | "compiler_time_limit" => return { d with compilerTimeLimit := some (← part.1.seconds) }
    | "feedback" => return { d with feedback := some (← part.1.words) }
    | "type" => return { d with convention := some (← part.1.words) }
    | "args_format_string" => return { d with arguments := some (← part.1.words) }
    | _ => return d

/-- The source files of a validator in a directory, if they are named well: at least one, and each
by a text that is not empty. -/
def sourceFiles (d : ValidatorDeclaration) (directory : Path) : Option (List Path) := do
  let names ← match ← d.source with
    | .string name => some [name]
    | .sequence names => names.mapM Value.text?
    | _ => none
  if names.isEmpty ∨ names.any String.isEmpty then none
  else some (names.map fun n => directory.join ⟨n⟩)

/-- The stream that the validator gives feedback on, if it is named well. -/
def feedbackStream (d : ValidatorDeclaration) : Option OutputStream :=
  match d.feedback with
  | none => some .stderr
  | some name => OutputStream.ofName? name

end ValidatorDeclaration

/-- The fields of a case. -/
def CaseDeclaration.shape : RecordShape where
  name := "TestCaseConfig"
  fields := ["in", "out", "points", "output_limit_length", "wall_time_factor", "symlinks",
    "batched"].map (·, .optional)

/-- Reads a case or a batch. -/
def CaseDeclaration.decode (v : Value) : Except Fault CaseDeclaration :=
  shape.decode v {} fun d name part =>
    match name with
    | "in" => return { d with input := some (← part.1.path) }
    | "out" => return { d with expected := some (← part.1.path) }
    | "points" => return { d with points := some (← part.1.number) }
    | "output_limit_length" => return { d with outputLimit := some (← part.1.size) }
    | "wall_time_factor" => return { d with wallTimeFactor := some (← part.1.number) }
    | "symlinks" => return { d with links := some (← part.1.map Value.path) }
    | "batched" => do
      let elements ← part.1.elements
      return { d with members := some (← elements.mapM fun (w : part.1.Part) =>
        have : sizeOf w.1 < sizeOf v := Nat.lt_trans w.2 part.2
        CaseDeclaration.decode w.1) }
    | _ => return d
termination_by sizeOf v

namespace Declaration

/-- The fields of a problem. -/
def shape : RecordShape where
  name := "ProblemConfig"
  fields := [("time_limit", .optional), ("memory_limit", .optional),
    ("output_limit_length", .defaulted), ("wall_time_factor", .defaulted),
    ("symlinks", .defaulted), ("validator", .optional), ("test_cases", .defaulted)]

/-- Reads a problem. -/
def decode (v : Value) : Except Fault Declaration :=
  shape.decode v {} fun d name part =>
    match name with
    | "time_limit" => return { d with timeLimit := some (← part.1.seconds) }
    | "memory_limit" => return { d with memoryLimit := some (← part.1.count) }
    | "output_limit_length" => return { d with outputLimit := ← part.1.size }
    | "wall_time_factor" => return { d with wallTimeFactor := ← part.1.number }
    | "symlinks" => return { d with links := ← part.1.map Value.path }
    | "validator" => return { d with validator := some (← ValidatorDeclaration.decode part.1) }
    | "test_cases" => return { d with cases := ← part.1.list CaseDeclaration.decode }
    | _ => return d

/-- The problem that a text declares. -/
def parse (text : String) : Except Document.Failure Declaration := Document.read decode text

/-- The problem that the problem file of a directory declares. -/
def load (tree : FileTree) (directory : Path) : Except FileFault Declaration :=
  tree.readDocument decode (directory.join fileName)

end Declaration

end ContestJudge.Problem
