import ContestJudge.Case.Tree
import ContestJudge.Decimal.Positional
import ContestJudge.Problem.Declaration

/-!
# The cases of a problem

A setting holds for everything below the place where it is made: a member of a batch takes what it
does not set itself from its batch, and a batch from the problem. The first fault in the order of
the declaration counts.
-/

namespace ContestJudge.Problem

/-- Where a case is declared: its number, and its number within its batch. -/
structure CaseLabel where
  entry : Nat
  member : Option Nat
  deriving DecidableEq, Repr

/-- A label in a message. -/
def CaseLabel.text (l : CaseLabel) : String :=
  match l.member with
  | none => s!"{l.entry}"
  | some member => s!"{l.entry}.{member}"

/-- Why a declaration has no cases. -/
inductive CaseFault where
  /-- A case has no input. -/
  | missingInput (label : CaseLabel)
  /-- A member of a batch is a batch itself. -/
  | nestedBatch (label : CaseLabel)
  /-- A batch has no members. -/
  | emptyBatch (fault : EmptyBatch)
  /-- A factor that is not positive or not finite. -/
  | wallTimeFactor (factor : Float)

/-- The wording of a fault. -/
def CaseFault.message : CaseFault → String
  | missingInput label => s!"Test case {label.text} has no 'in' file"
  | nestedBatch label => s!"Test case {label.text}: batches cannot be nested"
  | emptyBatch fault => fault.message
  | wallTimeFactor factor => s!"wall_time_factor must be positive: {Decimal.plain factor}"

/-- Whether a factor may scale a time limit. -/
def isFactor (factor : Float) : Bool := factor > 0 && factor.isFinite

/-- A factor, which has to be one. -/
def checkFactor (factor : Float) : Except CaseFault Float :=
  if isFactor factor then .ok factor else .error (.wallTimeFactor factor)

/-- Links with their targets in a directory. -/
def placeLinks (directory : Path) (links : NameMap Path) : NameMap Path := links.map directory.join

namespace CaseDeclaration

/-- The settings of an entry, given those of the level above. -/
def settings (directory : Path) (above : CaseSettings) (d : CaseDeclaration) :
    Except CaseFault CaseSettings := do
  return {
    outputLimit := d.outputLimit.getD above.outputLimit
    wallTimeFactor := ← match d.wallTimeFactor with
      | none => .ok above.wallTimeFactor
      | some factor => checkFactor factor
    links := (d.links.map (placeLinks directory)).getD above.links }

/-- The case that an entry declares. -/
def data (directory : Path) (above : CaseSettings) (label : CaseLabel) (d : CaseDeclaration) :
    Except CaseFault CaseData :=
  match d.input with
  | none => .error (.missingInput label)
  | some input => do
    return {
      input := .ofPath (directory.join input)
      expected := d.expected.map fun path => .ofPath (directory.join path)
      points := d.points.getD 0
      settings := ← d.settings directory above }

/-- The case that a member of a batch declares. -/
def memberData (directory : Path) (above : CaseSettings) (label : CaseLabel) (d : CaseDeclaration) :
    Except CaseFault CaseData :=
  if d.members.isSome then .error (.nestedBatch label) else d.data directory above label

/-- The cases of the members of a batch, numbered from `first` on. -/
def membersData (directory : Path) (above : CaseSettings) (entry first : Nat) :
    List CaseDeclaration → Except CaseFault (List CaseData)
  | [] => .ok []
  | d :: rest => do
    let case ← d.memberData directory above ⟨entry, some first⟩
    return case :: (← membersData directory above entry (first + 1) rest)

/-- Adds the case or the batch that an entry declares to a tree. -/
def addTo (directory : Path) (above : CaseSettings) (number : Nat) (d : CaseDeclaration)
    (tree : TreeBuilder) : Except CaseFault TreeBuilder :=
  match d.members with
  | none => do return tree.addCase (← d.data directory above ⟨number, none⟩)
  | some members => do
    let settings ← d.settings directory above
    let cases ← membersData directory settings number 1 members
    (tree.addBatch (d.points.getD 0) cases).mapError .emptyBatch

end CaseDeclaration

/-- Adds the cases and batches that entries declare to a tree; the first has the given number. -/
def addEntries (directory : Path) (above : CaseSettings) (first : Nat) :
    List CaseDeclaration → TreeBuilder → Except CaseFault TreeBuilder
  | [], tree => .ok tree
  | d :: rest, tree => do
    addEntries directory above (first + 1) rest (← d.addTo directory above first tree)

/-- The cases of a problem in a directory. -/
def Declaration.tree (d : Declaration) (directory : Path) : Except CaseFault CaseTree := do
  let factor ← checkFactor d.wallTimeFactor
  let tree ← addEntries directory ⟨d.outputLimit, factor, placeLinks directory d.links⟩ 1 d.cases
    .empty
  return tree.build

end ContestJudge.Problem
