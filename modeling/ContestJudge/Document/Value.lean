import ContestJudge.Decimal.Positional
import ContestJudge.Document.Fault
import ContestJudge.Document.Moment

/-!
# Values of a document

What a settings document holds: scalars, dates and times, sequences, and tables whose entries keep
the order in which they were first written.
-/

namespace ContestJudge.Document

/-- A value in a document. -/
inductive Value where
  | boolean (value : Bool)
  | integer (value : Int)
  | float (value : Float)
  | string (value : String)
  /-- A date, a time or both. -/
  | moment (value : Moment)
  | sequence (elements : List Value)
  /-- Entries in the order of their first mention; no name occurs twice. -/
  | table (entries : List (String × Value))
  deriving Inhabited

namespace Value

/-- How a value is named in a fault. A date counts as a table. -/
def found : Value → Found
  | boolean value => .boolean value
  | integer value => .integer value
  | float value => .float (Decimal.pointed value)
  | string value => .string value
  | moment _ => .map
  | sequence _ => .sequence
  | table _ => .map

/-- The name under which a date shows as an entry. -/
def momentName : String := "$__toml_private_datetime"

/-- The entries of a table. A date has one entry, its text. -/
def entries? : Value → Option (List (String × Value))
  | table entries => some entries
  | moment value => some [(momentName, .string value.text)]
  | boolean _ => none
  | integer _ => none
  | float _ => none
  | string _ => none
  | sequence _ => none

/-- The date that a text stands for. -/
def readMoment (text : String) : Except Fault Moment :=
  match Moment.ofText? text with
  | some value => .ok value
  | none => .error (.rejected "failed to parse datetime")

mutual

/-- The value for a reader that takes any. A table whose first entry has the name of a date stands
for that date and must hold one; each date must be a real day. -/
def generic : Value → Except Fault Value
  | moment value => (readMoment value.text).map .moment
  | table ((name, v) :: entries) =>
    if name = momentName then
      match v with
      | .string text => (readMoment text).map .moment
      | v => .error (.wrongType v.found "string containing a datetime")
    else do
      let v ← v.generic
      return .table ((name, v) :: (← genericEntries entries))
  | sequence elements => (genericElements elements).map .sequence
  | v => .ok v

/-- The entries of a table for a reader that takes any value. -/
def genericEntries : List (String × Value) → Except Fault (List (String × Value))
  | [] => .ok []
  | (name, v) :: entries => do
    let v ← v.generic
    return (name, v) :: (← genericEntries entries)

/-- The elements of a sequence for a reader that takes any value. -/
def genericElements : List Value → Except Fault (List Value)
  | [] => .ok []
  | v :: elements => do
    let v ← v.generic
    return v :: (← genericElements elements)

end

/-- Gives a dotted name a value for the first time, and creates the tables on the way to it. -/
def insertAt (name : String) (value : Value) :
    List String → List (String × Value) → Option (List (String × Value))
  | [], entries => if entries.any (·.1 = name) then none else some (entries ++ [(name, value)])
  | step :: path, entries =>
    match entries.lookup step with
    | none =>
      (insertAt name value path []).map fun inner => entries ++ [(step, .table inner)]
    | some (.table inner) =>
      (insertAt name value path inner).map fun inner =>
        entries.map fun e => if e.1 = step then (step, .table inner) else e
    | some _ => none

/-- The text of a string. -/
def text? : Value → Option String
  | string value => some value
  | _ => none

end Value

end ContestJudge.Document
