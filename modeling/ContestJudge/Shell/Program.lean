import ContestJudge.FileTree.Operations
import ContestJudge.Text.Utf8

/-!
# Programs

What is run when a file is run. A file that starts with a number sign and an exclamation mark names
its interpreter, which gets one more argument if there is more on that line, and then the path of
the file. A file that names none is read by the shell.
-/

namespace ContestJudge.Shell

open Text

/-- A utility that is about to run. -/
structure Program where
  /-- The utility. -/
  utility : String
  /-- What it is called. -/
  name : String
  /-- Its arguments. -/
  arguments : List String
  deriving DecidableEq, Repr

/-- The path of the shell. -/
def shellPath : String := "/bin/sh"

/-- The name of the shell among the utilities. -/
def shellName : String := "sh"

/-- The octets that count of the line that names an interpreter. -/
def interpreterLine : Nat := 255

/-- The interpreter that the first line of a file names, and the argument that it gets. -/
def interpreter? (content : String) : Option (String × Option String) :=
  match content.toList.take interpreterLine with
  | '#' :: '!' :: rest =>
    let isBlank := fun c => c = ' ' || c = '\t'
    let line := (rest.takeWhile (· ≠ '\n')).dropWhile isBlank
    let (path, rest) := line.span (!isBlank ·)
    let argument := ((rest.dropWhile isBlank).reverse.dropWhile isBlank).reverse
    if path = [] then none
    else
      some (String.ofList path, if argument = [] then none else some (String.ofList argument))
  | _ => none

/-- How many interpreters may be interpreted themselves. -/
def interpreterLimit : Nat := 5

namespace Program

/-- The program that a path leads to, called by some name with some arguments. -/
def find (tree : FileTree) (limit : Nat) (path name : String) (arguments : List String) :
    Except IoFault Program := do
  let (_, entry) ← tree.find ⟨Octets.toText path⟩
  match entry, limit with
  | .utility utility, _ => return { utility, name, arguments }
  | .file content true, limit =>
    match interpreter? (Octets.ofBytes content), limit with
    | none, _ => return { utility := shellName, name := shellPath, arguments := path :: arguments }
    | some _, 0 => throw .tooManyLinks
    | some (program, argument), limit + 1 =>
      find tree limit program program (argument.toList ++ path :: arguments)
  | _, _ => throw .permissionDenied

/-- The exit code of a shell that cannot run a program. -/
def faultStatus (fault : IoFault) : Nat :=
  if [.notFound, .notDirectory, .tooManyLinks, .nameTooLong].contains fault then 127 else 126

end Program

end ContestJudge.Shell
