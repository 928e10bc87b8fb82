import ContestJudge.FileTree.Operations
import ContestJudge.NameMap
import ContestJudge.Verdict.Basic

/-!
# Cases

A case is one input for a program, with what is expected of the program and what it may use. Its
data is held in memory or read from a file when it is first wanted. What was read once is kept, so
the data of a case never changes; a failure is not kept, so a file may still appear.
-/

namespace ContestJudge

open Text (Bytes)

/-- Data in memory or in a file. -/
inductive DataSource where
  /-- Data in memory. -/
  | memory (content : Bytes)
  /-- A file, with what was read from it. -/
  | file (path : Path) (kept : Option Bytes)
  deriving DecidableEq, Repr, Inhabited

namespace DataSource

/-- A file that was not read yet. -/
def ofPath (path : Path) : DataSource := file path none

/-- The path of a file. -/
def path? : DataSource → Option Path
  | memory _ => none
  | file path _ => some path

/-- The data, if it is at hand without reading anything. -/
def kept? : DataSource → Option Bytes
  | memory content => some content
  | file _ kept => kept

/-- The data, and the source as it is after the access. -/
def bytes (tree : FileTree) : DataSource → Except FileFault Bytes × DataSource
  | memory content => (.ok content, memory content)
  | file path (some kept) => (.ok kept, file path (some kept))
  | file path none =>
    match tree.read path with
    | .ok content => (.ok content, file path (some content))
    | .error fault => (.error fault, file path none)

end DataSource

/-! ### What is set for a case -/

/-- What is set for one case. -/
structure CaseSettings where
  /-- The most bytes that the program may write. -/
  outputLimit : Nat := 25165824
  /-- How often the CPU time limit fits into the wall time limit. -/
  wallTimeFactor : Float := 3
  /-- The files that the program finds in its directory, by name. -/
  links : NameMap Path := .empty
  deriving Inhabited

/-- What a case holds, before it has a place in a tree. -/
structure CaseData where
  /-- The input of the program. -/
  input : DataSource
  /-- The output that is expected of it, if it is known. -/
  expected : Option DataSource
  /-- The points that the case is worth. -/
  points : Float
  /-- What is set for the case. -/
  settings : CaseSettings
  deriving Inhabited

/-- A case at its place in a tree. -/
structure Case where
  /-- The number of its batch. -/
  batch : Option Nat
  /-- Counted from one within its batch, or within the top level. -/
  position : Nat
  /-- What it holds. -/
  data : CaseData
  deriving Inhabited

namespace Case

/-- The input, and the case as it is after the access. -/
def input (tree : FileTree) (c : Case) : Except FileFault Text.Bytes × Case :=
  let (result, source) := c.data.input.bytes tree
  (result, { c with data := { c.data with input := source } })

/-- The expected output, if the case has one, and the case as it is after the access. -/
def expected (tree : FileTree) (c : Case) : Option (Except FileFault Text.Bytes) × Case :=
  match c.data.expected with
  | none => (none, c)
  | some source =>
    let (result, source) := source.bytes tree
    (some result, { c with data := { c.data with expected := some source } })

end Case

end ContestJudge
