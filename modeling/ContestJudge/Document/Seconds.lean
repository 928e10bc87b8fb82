import ContestJudge.Decimal.Positional
import ContestJudge.Document.Fault
import ContestJudge.Duration
import ContestJudge.Json.Value

/-!
# Durations written as numbers of seconds
-/

namespace ContestJudge.Document

/-- What a duration should be written as. -/
def secondsExpected : String := "a non-negative number of seconds"

/-- The duration of a whole number of seconds. -/
def secondsOfInt (n : Int) : Except Fault Duration :=
  if 0 ≤ n then .ok (.ofSeconds n.toNat) else .error (.wrongValue (.integer n) secondsExpected)

/-- The duration of a fractional number of seconds, which a fault shows as `text`. -/
def secondsOfFloat (x : Float) (text : String) : Except Fault Duration :=
  match Duration.ofFloat? x with
  | some duration => .ok duration
  | none => .error (.wrongValue (.float text) secondsExpected)

/-- The duration that a JSON value stands for. -/
def secondsOfJson : Json → Except Fault Duration
  | .int n => secondsOfInt n
  | .float x => secondsOfFloat x (Decimal.scientific x)
  | .null => .error (.wrongType .null secondsExpected)
  | .bool b => .error (.wrongType (.boolean b) secondsExpected)
  | .str s => .error (.wrongType (.string s) secondsExpected)
  | .arr _ => .error (.wrongType .sequence secondsExpected)
  | .obj _ => .error (.wrongType .map secondsExpected)

end ContestJudge.Document
