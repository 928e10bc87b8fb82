import ContestJudge.Text.Quoted

/-!
# Why a value does not fit

A document can be well formed and still not hold what its reader wants. A `Fault` says what was
wanted and what was found instead.
-/

namespace ContestJudge.Document

/-- What was found in place of what was wanted. -/
inductive Found where
  | boolean (value : Bool)
  | integer (value : Int)
  /-- A float, as it is shown. -/
  | float (text : String)
  | string (value : String)
  | sequence
  | map
  | null
  deriving DecidableEq, Repr

/-- How it is named. -/
def Found.text : Found → String
  | boolean value => s!"boolean \x60{value}\x60"
  | integer value => s!"integer \x60{value}\x60"
  | float text => s!"floating point \x60{text}\x60"
  | string value => "string " ++ Text.quoted value
  | sequence => "sequence"
  | map => "map"
  | null => "null"

/-- Why a value does not fit. -/
inductive Fault where
  /-- A value of the wrong kind. -/
  | wrongType (found : Found) (expected : String)
  /-- A value of the right kind that is not allowed. -/
  | wrongValue (found : Found) (expected : String)
  /-- A sequence of the wrong length. -/
  | wrongLength (length : Nat) (expected : String)
  /-- A field that has to be there and is not. -/
  | missingField (name : String)
  /-- A rule of the wanted type itself. -/
  | rejected (message : String)
  deriving DecidableEq, Repr

/-- The wording of a fault. -/
def Fault.message : Fault → String
  | wrongType found expected => s!"invalid type: {found.text}, expected {expected}"
  | wrongValue found expected => s!"invalid value: {found.text}, expected {expected}"
  | wrongLength length expected => s!"invalid length {length}, expected {expected}"
  | missingField name => s!"missing field \x60{name}\x60"
  | rejected message => message

end ContestJudge.Document
