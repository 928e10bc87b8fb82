import ContestJudge.Document.Reader
import ContestJudge.Document.Seconds
import ContestJudge.FileTree.Operations
import ContestJudge.Glob.Pattern
import ContestJudge.NameMap
import ContestJudge.Path.Basic

/-!
# Reading records out of documents

A decoder turns a value into what it stands for, or says why it does not fit. The entries of a table
are decoded in the order of the document, and the first fault counts; a field that is missing is
noticed last. A record may also be written as a sequence of its fields.
-/

namespace ContestJudge.Document

/-- Why a document cannot be used. -/
inductive Failure where
  /-- It is not well formed. -/
  | malformed
  /-- It does not hold what it should. -/
  | unfit (fault : Fault)
  deriving DecidableEq, Repr

/-- Decodes a whole document. One that does not fit counts as malformed if not even a reader that
takes any value can read its entries. -/
def read {α : Type} (decode : Value → Except Fault α) (text : String) : Except Failure α :=
  match parse? text with
  | none => .error .malformed
  | some entries =>
    match decode (.table entries), Value.genericEntries entries with
    | .ok result, _ => .ok result
    | .error fault, .ok _ => .error (.unfit fault)
    | .error _, .error _ => .error .malformed

namespace Value

variable {α : Type}

/-- A fault that names a value as not of the expected kind. -/
def refuse (v : Value) (expected : String) : Except Fault α := .error (.wrongType v.found expected)

/-- A number that is not negative, in the words of `expected`. -/
def natural (expected : String) : Value → Except Fault Nat
  | integer n => if 0 ≤ n then .ok n.toNat else .error (.wrongValue (.integer n) expected)
  | v => v.refuse expected

/-- A number that is not negative. -/
def count : Value → Except Fault Nat := natural "u64"

/-- A number of bytes. -/
def size : Value → Except Fault Nat := natural "usize"

/-- Any number. -/
def number : Value → Except Fault Float
  | integer n => .ok (Float.ofInt n)
  | float x => .ok x
  | v => v.refuse "f64"

/-- A text. -/
def stringFor (expected : String) : Value → Except Fault String
  | string s => .ok s
  | v => v.refuse expected

/-- A text of any meaning. -/
def words : Value → Except Fault String := stringFor "a string"

/-- A path. -/
def path (v : Value) : Except Fault Path := (v.stringFor "path string").map (⟨·⟩)

/-- A duration in seconds. -/
def seconds : Value → Except Fault Duration
  | integer n => secondsOfInt n
  | float x => secondsOfFloat x (Decimal.pointed x)
  | v => v.refuse secondsExpected

/-- A glob pattern. -/
def pattern (v : Value) : Except Fault Glob.Pattern := do
  let text ← v.stringFor "a glob pattern string"
  (Glob.Pattern.parse text).mapError fun fault => .rejected fault.message

/-- A value that is nested in another one. -/
abbrev Part (v : Value) : Type := { w : Value // sizeOf w < sizeOf v }

theorem sizeOf_lt_table {entries : List (String × Value)} {e : String × Value} (h : e ∈ entries) :
    sizeOf e.2 < sizeOf (table entries) := by
  have := List.sizeOf_lt_of_mem h
  obtain ⟨name, w⟩ := e
  simp only [table.sizeOf_spec, Prod.mk.sizeOf_spec] at this ⊢
  omega

/-- The elements of a sequence. -/
def elements : (v : Value) → Except Fault (List v.Part)
  | sequence ws => .ok (ws.attach.map fun w => ⟨w.1, by
      have := List.sizeOf_lt_of_mem w.2
      simp only [sequence.sizeOf_spec]
      omega⟩)
  | v => v.refuse "a sequence"

/-- A sequence of values of one kind. -/
def list (decode : Value → Except Fault α) (v : Value) : Except Fault (List α) := do
  (← v.elements).mapM fun w => decode w.1

/-- A table of values of one kind. -/
def map (decode : Value → Except Fault α) (v : Value) : Except Fault (NameMap α) :=
  match v.entries? with
  | some entries => (entries.mapM fun e => (decode e.2).map (e.1, ·)).map .ofList
  | none => v.refuse "a map"

end Value

/-- Whether a field of a record may be missing. -/
inductive Presence where
  /-- It has to be there. -/
  | required
  /-- A table may do without it. -/
  | optional
  /-- It has a value of its own when it is missing. -/
  | defaulted
  deriving DecidableEq, Repr

/-- The fields of a record. -/
structure RecordShape where
  /-- How the record is named in a fault. -/
  name : String
  /-- The fields in the order in which a sequence gives them. -/
  fields : List (String × Presence)

namespace RecordShape

/-- What was expected of a value that is no record. -/
def expected (s : RecordShape) : String := s!"struct {s.name}"

/-- What was expected of a sequence that is too short. -/
def expectedLength (s : RecordShape) : String :=
  s!"struct {s.name} with {s.fields.length} elements"

/-- The fault of a table in which a required field is missing. -/
def missing? (s : RecordShape) (names : List String) : Option Fault :=
  (s.fields.find? fun f => f.2 = .required && !names.contains f.1).map fun f => .missingField f.1

/-- The fault of a sequence that is too short. -/
def tooShort? (s : RecordShape) (length : Nat) : Option Fault :=
  (s.fields.drop length).findIdx? (·.2 ≠ .defaulted) |>.map fun i =>
    .wrongLength (length + i) s.expectedLength

/-- The values of the fields in the order in which they are decoded, and the fault that comes after.
-/
def parts (s : RecordShape) : (v : Value) → Except Fault (List (String × v.Part) × Option Fault)
  | .table entries =>
    .ok (entries.attach.map fun e => (e.1.1, ⟨e.1.2, Value.sizeOf_lt_table e.2⟩),
      s.missing? (entries.map (·.1)))
  | .moment _ => .ok ([], s.missing? [])
  | .sequence ws => do
    let parts ← (Value.sequence ws).elements
    return ((s.fields.map (·.1)).zip parts, s.tooShort? parts.length)
  | v => v.refuse s.expected

/-- Decodes a record field by field; unknown fields are passed over by `set`. -/
def decode {σ : Type} (s : RecordShape) (v : Value) (start : σ)
    (set : σ → String → v.Part → Except Fault σ) : Except Fault σ := do
  let (parts, fault?) ← s.parts v
  let record ← parts.foldlM (fun record part => set record part.1 part.2) start
  match fault? with
  | some fault => .error fault
  | none => .ok record

end RecordShape

/-- The names in a document of any values. -/
def names (v : Value) : Except Fault (List String) :=
  match v.entries? with
  | some entries => (Value.genericEntries entries).map fun entries => entries.map (·.1)
  | none => v.refuse "a map"

end ContestJudge.Document

namespace ContestJudge

/-- Decodes the document that a file holds. -/
def FileTree.readDocument {α : Type} (tree : FileTree)
    (decode : Document.Value → Except Document.Fault α) (path : Path) : Except FileFault α := do
  let text ← tree.readText path
  (Document.read decode text).mapError fun _ => .document path

end ContestJudge
