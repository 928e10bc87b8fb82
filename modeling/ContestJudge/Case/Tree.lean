import ContestJudge.Case.Basic

/-!
# Case trees

The cases of a problem, in the order in which they are declared. Some stand alone, others in
batches. A tree is built by adding to it. The builder counts the batches that it was given, and
numbers them from one as they come; the tree that it gives has the entries only.
-/

namespace ContestJudge

/-- One entry of a tree. -/
inductive CaseNode where
  /-- A case that stands alone. -/
  | single (case : Case)
  /-- A batch of cases, with its number and its position among the entries. -/
  | batch (number position : Nat) (points : Float) (cases : List Case)
  deriving Inhabited

/-- The cases of a problem. -/
structure CaseTree where
  /-- The entries, in order. -/
  nodes : List CaseNode
  deriving Inhabited

/-- A batch without cases, at some position. -/
structure EmptyBatch where
  position : Nat
  deriving DecidableEq, Repr

/-- The wording for a batch without cases. -/
def EmptyBatch.message (fault : EmptyBatch) : String :=
  s!"Batch at position {fault.position} has no cases"

/-- Whether an entry is a batch. -/
def CaseNode.isBatch : CaseNode → Bool
  | single _ => false
  | batch .. => true

/-- The cases of an entry, each with the number of its batch. -/
def CaseNode.flatten : CaseNode → List (Option Nat × Case)
  | single case => [(none, case)]
  | batch number _ _ cases => cases.map fun case => (some number, case)

/-- Places cases in a batch, at positions from `first` on. -/
def placeInBatch (number first : Nat) : List CaseData → List Case
  | [] => []
  | data :: rest => ⟨some number, first, data⟩ :: placeInBatch number (first + 1) rest

namespace CaseTree

/-- Whether a tree has no entries. -/
def isEmpty (t : CaseTree) : Bool := t.nodes.isEmpty

/-- All cases in order, each with the number of its batch. -/
def flatten (t : CaseTree) : List (Option Nat × Case) := t.nodes.flatMap CaseNode.flatten

end CaseTree

/-- A tree that is being built. -/
structure TreeBuilder extends CaseTree where
  /-- How many batches there are so far. -/
  batchCount : Nat

/-- Something to add to a tree. -/
inductive Addition where
  /-- A case that stands alone. -/
  | case (data : CaseData)
  /-- A batch. -/
  | batch (points : Float) (cases : List CaseData)

namespace TreeBuilder

/-- The start of a tree, without cases. -/
def empty : TreeBuilder := ⟨⟨[]⟩, 0⟩

/-- The position of the entry that is added next. -/
def nextPosition (b : TreeBuilder) : Nat := b.nodes.length + 1

/-- Adds a case that stands alone. -/
def addCase (b : TreeBuilder) (data : CaseData) : TreeBuilder :=
  { b with nodes := b.nodes ++ [.single ⟨none, b.nextPosition, data⟩] }

/-- Adds a batch, which has to have cases. -/
def addBatch (b : TreeBuilder) (points : Float) (cases : List CaseData) :
    Except EmptyBatch TreeBuilder :=
  let number := b.batchCount + 1
  let placed := placeInBatch number 1 cases
  if placed.isEmpty then .error ⟨b.nextPosition⟩
  else .ok ⟨⟨b.nodes ++ [.batch number b.nextPosition points placed]⟩, number⟩

/-- Adds to a tree. -/
def add (b : TreeBuilder) : Addition → Except EmptyBatch TreeBuilder
  | .case data => .ok (b.addCase data)
  | .batch points cases => b.addBatch points cases

/-- The tree, when everything was added. -/
def build (b : TreeBuilder) : CaseTree := b.toCaseTree

end TreeBuilder

/-- The tree of some additions. -/
def CaseTree.build (additions : List Addition) : Except EmptyBatch CaseTree :=
  (additions.foldlM TreeBuilder.add .empty).map TreeBuilder.build

/-!
### Runs of equal keys

A list is cut into runs wherever the key changes. Equal keys that are not neighbours are in
different runs.
-/

variable {α κ : Type _}

/-- The maximal runs of neighbours with equal keys, each with its key. -/
def runs [BEq κ] (key : α → κ) : List α → List (κ × List α)
  | [] => []
  | first :: rest =>
    let same (item : α) : Bool := key item == key first
    (key first, first :: rest.takeWhile same) :: runs key (rest.dropWhile same)
termination_by items => items.length
decreasing_by exact Nat.lt_succ_of_le (List.dropWhile_sublist _).length_le

end ContestJudge
