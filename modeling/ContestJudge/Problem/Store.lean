import ContestJudge.Glob.Walk
import ContestJudge.NameMap

/-!
# Finding problems

A directory that matches a pattern and holds a problem file is a problem, and its name is the
problem's id. Of several directories of one name the first counts, in the order of the patterns and
within one pattern in the order of the walk.
-/

namespace ContestJudge.Problem

/-- The name of a problem file. -/
def fileName : Path := ⟨"problem.toml"⟩

/-- The directory of each problem, free of links. -/
abbrev Store := NameMap Path

namespace Store

/-- The id and directory of a path that leads to a problem. -/
def qualify (tree : FileTree) (path : Path) : Option (String × Path) :=
  if !tree.isFile (path.join fileName) then none
  else match path.fileName?, tree.canonical path with
    | some id, .ok directory => some (id, directory)
    | _, _ => none

/-- The paths that match a pattern below a base directory; a wrong pattern matches none. -/
def candidates (tree : FileTree) (base : Path) (pattern : Glob.Pattern) : List Path :=
  match Glob.paths tree (base.join ⟨pattern.text⟩).text with
  | .ok paths => paths
  | .error _ => []

/-- The problems below a base directory. -/
def discover (tree : FileTree) (base : Path) (patterns : List Glob.Pattern) : Store :=
  ((patterns.flatMap (candidates tree base)).filterMap (qualify tree)).foldl
    (fun store found => store.insertIfNew found.1 found.2) .empty

end Store

end ContestJudge.Problem
