import ContestJudge.FileTree.Operations

/-!
# The system's own files

A small machine: its utilities, two devices that swallow everything, a few files, and a directory
for temporary ones.
-/

namespace ContestJudge.FileTree

/-- The utilities that can be run. -/
def utilities : List String :=
  ["[", "basename", "cat", "chmod", "cmp", "comm", "cp", "cut", "diff", "dirname", "echo", "egrep",
    "env", "expr", "factor", "false", "fgrep", "fold", "grep", "head", "install", "ln",
    "ls", "mkdir", "mv", "nl", "paste", "printf", "pwd", "readlink", "realpath", "rev", "rm",
    "rmdir", "sed", "seq", "sh", "sleep", "sort", "tac", "tail", "tee", "test", "touch", "tr",
    "true", "uniq", "wc", "xargs", "yes"]

/-- The directory for temporary files. -/
def temporary : Place := ["tmp"]

/-- The files of the system. -/
def system : FileTree where
  current := []
  entries :=
    [(["bin"], .directory), (["dev"], .directory), (["etc"], .directory), (["home"], .directory),
      (["root"], .directory), (["tmp"], .directory), (["usr"], .directory),
      (["var"], .directory), (["usr", "bin"], .link "/bin"),
      (["dev", "null"], .sink), (["dev", "zero"], .zeros),
      (["etc", "hostname"], .file (Text.Utf8.encode "judge\n") false),
      (["etc", "passwd"], .file (Text.Utf8.encode "root:x:0:0:root:/root:/bin/sh\n") false)]
    ++ utilities.map fun name => (["bin", name], .utility name)

/-!
### Temporary directories

A temporary directory is new and empty. Its name is the first free one of a numbered series. It
cannot be made where there is no directory for temporary files.
-/

/-- The place of the `n`-th temporary directory of some name. -/
def temporaryPlace (name : String) (n : Nat) : Place := temporary ++ [name ++ toString n]

/-- The path of the next temporary directory of some name: the first one that leads nowhere. -/
def freePath (t : FileTree) (name : String) : Path :=
  let candidates := (List.range (t.entries.length + 1)).map fun n => pathOf (temporaryPlace name n)
  (candidates.find? fun path => !(t.findLink path).toBool).getD (pathOf (temporaryPlace name 0))

/-- Makes a temporary directory, and gives its path. A refusal tells the path. -/
def makeTemporary (t : FileTree) (name : String) : Except String (Path × FileTree) :=
  let path := t.freePath name
  match t.makeDirectory path with
  | .ok t => .ok (path, t)
  | .error fault => .error s!"{fault.message} at path {path.quoted}"

/-- Removes a temporary directory with all it holds. -/
def removeTemporary (t : FileTree) (path : Path) : FileTree :=
  match t.findLink path with
  | .ok (place, _) => t.remove place
  | .error _ => t

end ContestJudge.FileTree
