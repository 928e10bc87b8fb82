import ContestJudge.Document.Value

/-!
# Tables under construction

A document builds its tables piece by piece: a header opens a table, a dotted name opens one inside,
and names on the way come into being by being mentioned. A table may be opened by one header only,
and not be extended in two different manners, so each table remembers how it came about.
-/

namespace ContestJudge.Document

/-- How a table came about. -/
inductive Origin where
  /-- A header names it. -/
  | header
  /-- A header names a table inside it. -/
  | implied
  /-- A dotted name leads through it. -/
  | dotted
  deriving DecidableEq, Repr

/-- An entry of a table under construction. -/
inductive Item where
  | value (value : Value)
  | table (origin : Origin) (entries : List (String × Item))
  /-- A sequence of tables, each with a header of its own. -/
  | tables (elements : List (List (String × Item)))

/-- The entries of a table under construction, in the order of their first mention. -/
abbrev Entries := List (String × Item)

mutual

/-- The finished value. -/
def Item.finish : Item → Value
  | .value v => v
  | .table _ entries => .table (finishEntries entries)
  | .tables elements => .sequence (finishElements elements)

/-- The finished entries. -/
def finishEntries : Entries → List (String × Value)
  | [] => []
  | (name, item) :: rest => (name, item.finish) :: finishEntries rest

/-- The finished elements. -/
def finishElements : List Entries → List Value
  | [] => []
  | entries :: rest => .table (finishEntries entries) :: finishElements rest

end

namespace Entries

/-- Changes the entry of a name, or adds one at the end. -/
def alter (name : String) (f : Option Item → Option Item) : Entries → Option Entries
  | [] => (f none).map fun item => [(name, item)]
  | (other, item) :: rest =>
    if name = other then (f (some item)).map fun item => (other, item) :: rest
    else (alter name f rest).map ((other, item) :: ·)

/-- Changes the table that a path leads to, given how it came about; tables that are missing on the
way come into being. A dotted name may not enter a table that has a header. -/
def within (dotted : Bool) (f : Origin → Entries → Option Entries) :
    List String → Origin → Entries → Option Entries
  | [], origin, entries => f origin entries
  | name :: path, _, entries =>
    entries.alter name fun
      | none =>
        let origin : Origin := if dotted then .dotted else .implied
        (within dotted f path origin []).map (.table origin)
      | some (.value _) => none
      | some (.table origin inner) =>
        if dotted ∧ origin = .header then none
        else (within dotted f path origin inner).map (.table origin)
      | some (.tables elements) =>
        (within dotted f path .header (elements.getLast?.getD [])).map fun last =>
          .tables (elements.dropLast ++ [last])

/-- Gives a name a value for the first time. -/
def addNew (name : String) (item : Item) : Entries → Option Entries :=
  alter name fun
    | none => some item
    | some _ => none

/-- Gives a dotted name a value. -/
def put (path : List String) (name : String) (value : Value) (entries : Entries) : Option Entries :=
  entries.within true (fun origin inner =>
    if (origin = .dotted) = path.isEmpty then none
    else addNew name (.value value) inner) path .header

end Entries

/-- What the entries being read belong to. -/
inductive Heading where
  /-- The document itself. -/
  | top
  /-- A table. -/
  | table (path : List String) (name : String)
  /-- A new element of a sequence of tables. -/
  | element (path : List String) (name : String)

/-- A document as far as it has been read. -/
structure Draft where
  /-- The tables that are complete. -/
  complete : Entries
  /-- What the entries below belong to. -/
  heading : Heading
  /-- The entries since the last header. -/
  current : Entries

namespace Draft

/-- The document before its first line. -/
def start : Draft := ⟨[], .top, []⟩

/-- Gives a name under the last header a value. -/
def put (path : List String) (name : String) (value : Value) (d : Draft) : Option Draft :=
  (d.current.put path name value).map ({ d with current := · })

/-- Moves the entries since the last header to their place. -/
def settle (d : Draft) : Option Entries :=
  match d.heading with
  | .top => some d.current
  | .table path name =>
    d.complete.within false (fun _ => Entries.addNew name (.table .header d.current)) path .header
  | .element path name =>
    d.complete.within false (fun _ => Entries.alter name fun
      | none => some (.tables [d.current])
      | some (.tables elements) => some (.tables (elements ++ [d.current]))
      | some _ => none) path .header

/-- Opens an element of a sequence of tables. -/
def openElement (path : List String) (name : String) (d : Draft) : Option Draft :=
  d.settle.map (⟨·, .element path name, []⟩)

/-- The entry that a path and a name lead to. -/
def lookup (name : String) : List String → Entries → Option Item
  | [], entries => entries.lookup name
  | step :: path, entries =>
    match entries.lookup step with
    | some (.table _ inner) => lookup name path inner
    | some (.tables elements) => lookup name path (elements.getLast?.getD [])
    | some (.value _) => none
    | none => none

/-- Takes an entry out. The last entry moves to its place. -/
def Entries.takeOut (name : String) (entries : Entries) : Entries :=
  match entries.getLast? with
  | none => []
  | some last =>
    if last.1 = name then entries.dropLast
    else if entries.any (·.1 = name) then
      entries.dropLast.map fun e => if e.1 = name then last else e
    else entries

/-- Opens a table. One that only came about through headers of tables inside it is continued. -/
def openTable (path : List String) (name : String) (d : Draft) : Option Draft := do
  let complete ← d.settle
  let known := lookup name path complete
  let complete ←
    complete.within false (fun _ inner => some (Entries.takeOut name inner)) path .header
  match known with
  | none => some ⟨complete, .table path name, []⟩
  | some (.table .implied inner) => some ⟨complete, .table path name, inner⟩
  | some _ => none

/-- The finished document. -/
def finish (d : Draft) : Option (List (String × Value)) := d.settle.map finishEntries

end Draft

end ContestJudge.Document
