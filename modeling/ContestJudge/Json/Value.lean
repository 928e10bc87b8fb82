/-!
# JSON values

A number keeps whether it was written as an integer: `2` and `2.0` are different values.
-/

namespace ContestJudge

/-- A JSON value. Objects keep the order of their members. -/
inductive Json where
  | null
  | bool (value : Bool)
  | int (value : Int)
  | float (value : Float)
  | str (value : String)
  | arr (elements : List Json)
  | obj (members : List (String × Json))
  deriving Inhabited

namespace Json

/-- The member of an object with a given name; `null` if there is none. -/
def get (j : Json) (name : String) : Json :=
  match j with
  | .obj members => (members.lookup name).getD .null
  | _ => .null

/-- Whether the value is `null`. -/
def isNull : Json → Bool
  | .null => true
  | _ => false

end Json

end ContestJudge
