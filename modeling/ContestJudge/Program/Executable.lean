import ContestJudge.NameMap
import ContestJudge.Path.Basic

/-!
# Executables

A program that can be run, with the arguments that always come first. A program that was built here
owns the directory it was built in.
-/

namespace ContestJudge

/-- A program that can be run. -/
structure Executable where
  /-- The program. -/
  program : String
  /-- The arguments that always come first. -/
  arguments : List String
  /-- The directory that it was built in. -/
  buildDirectory : Option Path
  deriving DecidableEq, Repr, Inhabited

namespace Executable

/-- An executable that is already there. -/
def precompiled (program : String) (arguments : List String) : Executable :=
  ⟨program, arguments, none⟩

/-- The program and all arguments, some of them added. -/
def commandLine (e : Executable) (extra : List String) : String × List String :=
  (e.program, e.arguments ++ extra)

end Executable

/-!
### Executors

How the programs of a language are built and run, as templates for command lines.
-/

/-- How programs of one language are built and run. -/
structure Executor where
  /-- The command that builds a program, if it has to be built. -/
  compile : Option String
  /-- The command that runs it. -/
  command : String
  /-- The name of the file that is built. -/
  artifact : String := "main"
  deriving DecidableEq, Repr, Inhabited

/-- The executor of each language. -/
abbrev Executors := NameMap Executor

namespace Executors

/-- The executors that are always there. -/
def builtin : Executors := .ofList [
  ("SH", { compile := none, command := "/bin/sh #\x7bmain\x7d" }),
  ("PY3", { compile := none, command := "python3 #\x7bmain\x7d" }),
  ("C", {
    compile := some "gcc -O2 -std=c11 -o #\x7bexe\x7d #\x7bmain\x7d -lm"
    command := "#\x7bexe\x7d" }),
  ("CPP17", {
    compile := some "g++ -O2 -std=c++17 -o #\x7bexe\x7d #\x7bmain\x7d"
    command := "#\x7bexe\x7d" }),
  ("RUST", { compile := some "rustc -O -o #\x7bexe\x7d #\x7bmain\x7d", command := "#\x7bexe\x7d" })]

/-- The executors with some more of them; a new one of a language replaces the old one. -/
def override (e : Executors) (more : NameMap Executor) : Executors := e.insertMany more.toList

end Executors

end ContestJudge
