import ContestJudge.FileTree.Resolve
import ContestJudge.NameMap
import ContestJudge.Path.Basic

/-!
# Reading and changing files

Each operation resolves its paths, changes at most the place that it found, and answers with a fault
that says what was being done. An operation that fails changes nothing, except that making a
directory keeps the parents it made.
-/

namespace ContestJudge.FileTree

open Text (Bytes)

/-- The bytes of an endless device that are read at most. -/
def endlessSize : Nat := Nat.pow 2 22

/-- The bytes that reading an entry gives. -/
def Entry.contents : Entry → Except IoFault Bytes
  | .file content _ => .ok content
  | .directory => .error .isDirectory
  | .link _ => .error .notFound
  | .utility _ => .ok []
  | .sink => .ok []
  | .zeros => .ok (List.replicate endlessSize 0)

/-- Reads the file at a path. -/
def readRaw (t : FileTree) (path : Path) : Except IoFault Bytes := do
  Entry.contents (← t.find path).2

/-- Reads a file. -/
def read (t : FileTree) (path : Path) : Except FileFault Bytes :=
  (t.readRaw path).mapError (.action .readFile path)

/-- Reads a file that holds text. -/
def readText (t : FileTree) (path : Path) : Except FileFault String := do
  match Text.Utf8.decode? (← t.read path) with
  | some text => return text
  | none => throw (.action .readFile path .notText)

/-- Writes a file at a path, which is created if need be. -/
def writeRaw (t : FileTree) (path : Path) (content : Bytes) : Except IoFault FileTree := do
  match ← t.resolve true path with
  | .existing place (.file _ executable) => return t.set place (.file content executable)
  | .existing _ .sink => return t
  | .existing _ .zeros => return t
  | .existing _ .directory => throw .isDirectory
  | .existing _ _ => throw .permissionDenied
  | .missing directory name slash =>
    if slash then throw .isDirectory else return t.set (directory ++ [name]) (.file content false)

/-- Writes a file. -/
def write (t : FileTree) (path : Path) (content : Bytes) : Except FileFault FileTree :=
  (t.writeRaw path content).mapError (.action .writeFile path)

/-- Makes one directory. -/
def makeDirectory (t : FileTree) (path : Path) : Except IoFault FileTree := do
  match ← t.resolve false path with
  | .existing .. => throw .alreadyExists
  | .missing directory name _ => return t.set (directory ++ [name]) .directory

/-- Makes one directory, or finds it there. -/
def ensureDirectory (t : FileTree) (path : Path) : Except IoFault FileTree :=
  match t.makeDirectory path with
  | .ok t' => .ok t'
  | .error fault => if t.isDirectory path then .ok t else .error fault

/-- Makes the first of some paths, of which each lies in the next; an empty path is where we are. A
directory is made above only when it turns out to be missing. -/
def makeFirst (t : FileTree) : List Path → Except IoFault FileTree
  | [] => .error .noParent
  | path :: above =>
    if path.text = "" then .ok t
    else match t.makeDirectory path with
      | .ok t' => .ok t'
      | .error .notFound => do ensureDirectory (← makeFirst t above) path
      | .error fault => if t.isDirectory path then .ok t else .error fault

/-- Makes a directory and those above it. -/
def makeDirectories (t : FileTree) (path : Path) : Except FileFault FileTree :=
  (t.makeFirst path.ancestors).mapError (.action .createDirectory path)

/-- Makes the directories above a path. -/
def makeParents (t : FileTree) (path : Path) : Except FileFault FileTree :=
  match path.parent? with
  | some parent => t.makeDirectories parent
  | none => .ok t

/-- Writes a file and makes the directories above it. -/
def writeWithParents (t : FileTree) (path : Path) (content : Bytes) :
    Except FileFault FileTree := do
  (← t.makeParents path).write path content

/-- Opens a place for a copy: the file is there and empty afterwards. -/
def clear (t : FileTree) (path : Path) (executable : Bool) : Except IoFault (Place × FileTree) := do
  match ← t.resolve true path with
  | .existing place (.file ..) => return (place, t.set place (.file [] executable))
  | .existing place .sink => return (place, t)
  | .existing place .zeros => return (place, t)
  | .existing _ .directory => throw .isDirectory
  | .existing _ _ => throw .permissionDenied
  | .missing directory name slash =>
    if slash then throw .isDirectory
    else return (directory ++ [name], t.set (directory ++ [name]) (.file [] executable))

/-- Copies a file with its permission to run, and counts the bytes. The destination is emptied
before the source is read, so a file that is copied to itself is lost. -/
def copyRaw (t : FileTree) (source destination : Path) : Except IoFault (Nat × FileTree) := do
  let (place, entry) ← t.find source
  match entry with
  | .file _ executable =>
    let (target, t) ← t.clear destination executable
    let content := match t.get? place with
      | some (.file content _) => content
      | _ => []
    match t.get? target with
    | some (.file ..) => return (content.length, t.set target (.file content executable))
    | _ => return (content.length, t)
  | .utility _ => throw .permissionDenied
  | _ => throw .nothingToCopy

/-- Copies a file. -/
def copy (t : FileTree) (source destination : Path) : Except FileFault (Nat × FileTree) :=
  (t.copyRaw source destination).mapError (.copy source destination)

/-- Removes what a path names, unless it is a directory. -/
def removeFile (t : FileTree) (path : Path) : Except IoFault FileTree := do
  match ← t.findLink path with
  | (_, .directory) => throw .isDirectory
  | (place, _) => return t.remove place

/-- Creates a link where nothing is yet. -/
def createLink (t : FileTree) (target link : Path) : Except IoFault FileTree :=
  if target.text.contains '\x00' then .error .nulInPath
  else if target.text = "" then .error .notFound
  else if pathLimit < target.text.utf8ByteSize then .error .nameTooLong
  else match t.resolve false link with
    | .error fault => .error fault
    | .ok (.existing ..) => .error .alreadyExists
    | .ok (.missing directory name slash) =>
      if slash then .error .notFound
      else .ok (t.set (directory ++ [name]) (.link target.text))

/-- Creates a link, in place of a link that is already there. -/
def symlink (t : FileTree) (target link : Path) : Except FileFault FileTree := do
  let t ← if t.isLink link then (t.removeFile link).mapError (.action .replaceLink link) else pure t
  (t.createLink target link).mapError (.link target link)

/-- Creates a link and the directories above it. -/
def symlinkWithParents (t : FileTree) (target link : Path) : Except FileFault FileTree := do
  (← t.makeParents link).symlink target link

/-- The path of the place that a path leads to. -/
def canonical (t : FileTree) (path : Path) : Except FileFault Path :=
  match t.find path with
  | .ok (place, _) => .ok (pathOf place)
  | .error fault => .error (.canonical path fault)

/-- The path `child` inside `base`, if it stays there. -/
def joinWithin (base child : Path) : Except FileFault Path :=
  match base.within? child with
  | some path => .ok path
  | none => .error (.escaping child)

/-- Makes a file at a path executable, or takes that away. -/
def setExecutable (t : FileTree) (path : Path) (executable : Bool) : Except IoFault FileTree := do
  match ← t.find path with
  | (place, .file content _) => return t.set place (.file content executable)
  | _ => return t

/-!
### Placing links

The links of a launch are placed in its directory one after the other, in the order of their names.
Each name has to stay inside the directory as it is written; what earlier links lead to is not
looked at.
-/

/-- Places one link in a directory. -/
def placeLink (directory : Path) (t : FileTree) (link : String × Path) :
    Except FileFault FileTree := do
  t.symlinkWithParents link.2 (← joinWithin directory ⟨link.1⟩)

/-- Places links in a directory. -/
def placeLinks (directory : Path) (links : NameMap Path) (t : FileTree) :
    Except FileFault FileTree :=
  links.toList.foldlM (placeLink directory) t

end ContestJudge.FileTree
