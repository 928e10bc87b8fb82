import ContestJudge.Text.Utf8

/-!
# File trees

A file tree is a finite map from places to entries. A place is a list of names, from the root down;
the root is always a directory. Links hold a path as text and mean nothing until a path is resolved.
-/

namespace ContestJudge

open Text (Bytes)

/-- Where an entry lies: the names from the root down to it. -/
abbrev Place := List String

/-- What lies at a place. -/
inductive Entry where
  /-- A file with its content. -/
  | file (content : Bytes) (executable : Bool)
  | directory
  /-- A symbolic link with the path that it holds. -/
  | link (target : String)
  /-- A program that belongs to the system; its content is of no interest. -/
  | utility (name : String)
  /-- A device that swallows what is written and is empty to read. -/
  | sink
  /-- A device that swallows what is written and gives zeros as long as it is read. -/
  | zeros
  deriving DecidableEq, Repr, Inhabited

/-- A tree of files. -/
structure FileTree where
  /-- The entries below the root. -/
  entries : List (Place × Entry)
  /-- The directory where relative paths start. -/
  current : Place
  deriving Repr, Inhabited

namespace FileTree

/-- The entry at a place. -/
def get? (t : FileTree) (place : Place) : Option Entry :=
  if place = [] then some .directory else t.entries.lookup place

/-- Puts an entry at a place, instead of the one that is there. -/
def setEntry (place : Place) (entry : Entry) : List (Place × Entry) → List (Place × Entry)
  | [] => [(place, entry)]
  | (p, e) :: rest =>
    if p = place then (place, entry) :: rest else (p, e) :: setEntry place entry rest

/-- Puts an entry at a place. -/
def set (t : FileTree) (place : Place) (entry : Entry) : FileTree :=
  { t with entries := setEntry place entry t.entries }

/-- Removes a place with everything below it. -/
def remove (t : FileTree) (place : Place) : FileTree :=
  { t with entries := t.entries.filter fun e => !place.isPrefixOf e.1 }

/-- Whether a directory lies at a place. -/
def hasDirectory (t : FileTree) (place : Place) : Bool := t.get? place = some .directory

/-- The names in a directory, in increasing order. -/
def childNames (t : FileTree) (place : Place) : List String :=
  let names := t.entries.filterMap fun e =>
    if e.1.dropLast = place then e.1.getLast? else none
  names.mergeSort fun a b => decide (a ≤ b)

theorem lookup_setEntry (place other : Place) (entry : Entry) (entries : List (Place × Entry)) :
    (setEntry place entry entries).lookup other =
      if other = place then some entry else entries.lookup other := by
  induction entries with
  | nil =>
    by_cases h : other = place
    · subst h; simp [setEntry]
    · simp [setEntry, List.lookup_cons, beq_false_of_ne h, h]
  | cons first rest ih =>
    obtain ⟨p, e⟩ := first
    rw [setEntry]
    by_cases hp : p = place
    · subst hp
      by_cases h : other = p
      · subst h; simp
      · simp [List.lookup_cons, beq_false_of_ne h, h]
    · rw [if_neg hp]
      by_cases ho : other = p
      · subst ho; simp [hp]
      · simp [List.lookup_cons, beq_false_of_ne ho, ih]

theorem get?_set (t : FileTree) {place : Place} (other : Place) (entry : Entry) (h : place ≠ []) :
    (t.set place entry).get? other = if other = place then some entry else t.get? other := by
  unfold get? set
  by_cases ho : other = []
  · subst ho; simp [h.symm]
  · simp only [ho, if_false, lookup_setEntry]

end FileTree

end ContestJudge
