import ContestJudge.FileTree.Operations
import ContestJudge.Glob.Pattern

/-!
# Walking a file tree by a pattern

A pattern is split at its slashes. A component without wildcards is looked up as it is written; any
other one is compared with the names in a directory, in increasing order. The paths found are
written as the pattern writes them, so they may hold `.` and `..` and lead through links.
-/

namespace ContestJudge.Glob

/-- What a walk looks for. -/
structure Search where
  /-- Where it looks. -/
  tree : FileTree
  /-- Whether only directories count. -/
  directoriesOnly : Bool

/-- A name in a directory. Names in the starting directory stand for themselves. -/
def childPath (path : Path) (name : String) : Path :=
  if path.components = [.current] then ⟨name⟩ else path.join ⟨name⟩

namespace Search

/-- A path that matches the whole pattern counts unless it has to be a directory and is none. -/
def accept (s : Search) (path : Path) : List Path :=
  if s.directoriesOnly && !s.tree.isDirectory path then [] else [path]

/-- Compares a path's own name with the first of some components; the rest is left to `fill`. -/
def compareName (s : Search) (fill : List Pattern → Path → List Path) (path : Path) :
    List Pattern → List Path
  | [] => []
  | pattern :: rest =>
    match path.fileName? with
    | none => []
    | some name =>
      if !pattern.matchesText name then []
      else if rest.isEmpty then s.accept path
      else fill rest path

/-- Visits a name of a directory that was listed for the first of some components. A recursive
component keeps a directory itself and goes on below it. -/
def visit (s : Search) (fill : List Pattern → Path → List Path) (patterns : List Pattern)
    (path : Path) : List Path :=
  match patterns with
  | [] => []
  | pattern :: rest =>
    if !pattern.isRecursive then s.compareName fill path patterns
    else
      let rest := rest.dropWhile Pattern.isRecursive
      if s.tree.isDirectory path then
        (if rest.isEmpty then [path] else s.compareName fill path rest)
          ++ fill (pattern :: rest) path
      else s.compareName fill path rest

/-- What is there of a literal component below a path. -/
def literalChild (s : Search) (path : Path) (text : String) : Option Path :=
  let next := childPath path text
  let isThere :=
    if text = "." ∨ text = ".." then s.tree.isDirectory path
    else (s.tree.find next).toBool || (s.tree.findLink next).toBool
  if isThere then some next else none

/-- The entries `..` and `.` that a component matches; it has to begin with a dot for that. -/
def dotChildren (pattern : Pattern) : List String :=
  if pattern.tokens.head? = some (.literal '.') then ["..", "."].filter pattern.matchesText else []

/-- The names in the directory at a path. -/
def names (s : Search) (path : Path) : List String :=
  match s.tree.find path with
  | .ok (place, .directory) => s.tree.childNames place
  | _ => []

/-- The paths below a path that match some components. Every step makes the path longer or the list
of components shorter, and paths are bounded, so `fuel` never runs out. -/
def fill (s : Search) : (fuel : Nat) → List Pattern → Path → List Path
  | 0, _, _ => []
  | _ + 1, [], _ => []
  | fuel + 1, pattern :: rest, path =>
    let advance (next : Path) : List Path :=
      if rest.isEmpty then s.accept next else s.fill fuel rest next
    match pattern.literal? with
    | some text => ((s.literalChild path text).map advance).getD []
    | none =>
      if !s.tree.isDirectory path then []
      else
        (dotChildren pattern).flatMap (fun name => advance (path.join ⟨name⟩))
          ++ (s.names path).flatMap fun name =>
            s.visit (s.fill fuel) (pattern :: rest) (childPath path name)

end Search

/-- The components of a pattern below its root; a slash at the end adds none. -/
def componentTexts (text : String) : List String :=
  let cs := text.toList
  let parts := Path.splitParts (if cs.head? = some '/' then cs.drop 1 else cs)
  let parts := if parts.getLast? = some [] then parts.dropLast else parts
  if text = "" ∨ text = "/" then [""] else parts.map String.ofList

/-- The paths that match a pattern, in the order of the walk. -/
def paths (tree : FileTree) (text : String) : Except PatternFault (List Path) := do
  let _ ← Pattern.parse text
  let patterns ← (componentTexts text).mapM Pattern.parse
  let search : Search := ⟨tree, text.toList.getLast? = some '/'⟩
  let start : Path := if FileTree.startsAtRoot text then ⟨"/"⟩ else ⟨"."⟩
  return search.fill (patterns.length + FileTree.pathLimit) patterns start

end ContestJudge.Glob
