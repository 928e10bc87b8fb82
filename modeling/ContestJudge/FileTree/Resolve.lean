import ContestJudge.FileTree.Basic
import ContestJudge.FileTree.Fault

/-!
# Resolving paths

A path is walked step by step. Every step but the last has to lead to a directory; links on the way
are replaced by what they hold, at most forty of them; a link at the end is followed or not, as
asked. The walk ends at an entry, or next to a place where one may be created.
-/

namespace ContestJudge.FileTree

/-- One step of a walk. -/
inductive Step where
  /-- To the directory above; the root is above itself. -/
  | up
  /-- Nowhere. -/
  | stay
  /-- To the entry of a name. -/
  | into (name : String)
  /-- Nowhere, as the last step: what was reached has to be a directory. -/
  | slash
  deriving DecidableEq, Repr

/-- The step that a part of a path stands for. -/
def Step.ofPart (part : List Char) : Option Step :=
  if part = [] then none
  else if part = ['.'] then some .stay
  else if part = ['.', '.'] then some .up
  else some (.into (String.ofList part))

/-- The steps of a path. -/
def steps (path : String) : List Step :=
  let cs := path.toList
  (Path.splitParts cs).filterMap Step.ofPart ++ if cs.getLast? = some '/' then [.slash] else []

/-- Where a walk ends. -/
inductive Target where
  /-- At an entry. -/
  | existing (place : Place) (entry : Entry)
  /-- Where a directory has no entry of some name; `slash` tells whether the path ends in one. -/
  | missing (directory : Place) (name : String) (slash : Bool)
  deriving DecidableEq, Repr

/-- The most links that one walk follows. -/
def linkLimit : Nat := 40

/-- The most bytes of a name. -/
def nameLimit : Nat := 255

/-- The most bytes of a path. -/
def pathLimit : Nat := 4095

/-- Whether a path starts at the root. -/
def startsAtRoot (path : String) : Bool := path.toList.head? = some '/'

/-- Walks on from a directory; where a link leads elsewhere, `follow` walks on. -/
def walkOn (t : FileTree) (followLast : Bool) (follow : Place → List Step → Except IoFault Target)
    (place : Place) : List Step → Except IoFault Target
  | [] => .ok (.existing place .directory)
  | .stay :: rest => walkOn t followLast follow place rest
  | .slash :: rest => walkOn t followLast follow place rest
  | .up :: rest => walkOn t followLast follow place.dropLast rest
  | .into name :: rest =>
    let next := place ++ [name]
    if nameLimit < name.utf8ByteSize then .error .nameTooLong
    else match t.get? next with
      | none =>
        if rest = [] then .ok (.missing place name false)
        else if rest = [.slash] then .ok (.missing place name true)
        else .error .notFound
      | some .directory => walkOn t followLast follow next rest
      | some (.link target) =>
        if rest = [] ∧ !followLast then .ok (.existing next (.link target))
        else follow (if startsAtRoot target then [] else place) (steps target ++ rest)
      | some entry => if rest = [] then .ok (.existing next entry) else .error .notDirectory

/-- Walks on from a directory, with as many links as may still be followed. -/
def walk (t : FileTree) (followLast : Bool) : Nat → Place → List Step → Except IoFault Target
  | 0 => walkOn t followLast fun _ _ => .error .tooManyLinks
  | links + 1 => walkOn t followLast (walk t followLast links)

/-- Resolves a path. -/
def resolve (t : FileTree) (followLast : Bool) (path : Path) : Except IoFault Target :=
  if path.text.toList.contains '\x00' then .error .nulInPath
  else if path.text = "" then .error .notFound
  else if pathLimit < path.text.utf8ByteSize then .error .nameTooLong
  else
    walk t followLast linkLimit (if startsAtRoot path.text then [] else t.current) (steps path.text)

/-- The entry that a path leads to, links followed. -/
def find (t : FileTree) (path : Path) : Except IoFault (Place × Entry) := do
  match ← t.resolve true path with
  | .existing place entry => return (place, entry)
  | .missing .. => throw .notFound

/-- The entry that a path leads to, a link at the end not followed. -/
def findLink (t : FileTree) (path : Path) : Except IoFault (Place × Entry) := do
  match ← t.resolve false path with
  | .existing place entry => return (place, entry)
  | .missing .. => throw .notFound

/-- Whether a path leads to a directory. -/
def isDirectory (t : FileTree) (path : Path) : Bool :=
  match t.find path with
  | .ok (_, .directory) => true
  | _ => false

/-- Whether a path leads to a file. -/
def isFile (t : FileTree) (path : Path) : Bool :=
  match t.find path with
  | .ok (_, .file ..) => true
  | .ok (_, .utility _) => true
  | _ => false

/-- Whether a path leads to anything. -/
def pathExists (t : FileTree) (path : Path) : Bool := (t.find path).toBool

/-- Whether a path names a link. -/
def isLink (t : FileTree) (path : Path) : Bool :=
  match t.findLink path with
  | .ok (_, .link _) => true
  | _ => false

/-- The path of a place. -/
def pathOf (place : Place) : Path := ⟨"/" ++ "/".intercalate place⟩

/-- The place of an absolute path that is known to need no resolving. -/
def placeOf (path : String) : Place :=
  (steps path).filterMap fun
    | .into name => some name
    | _ => none

end ContestJudge.FileTree
