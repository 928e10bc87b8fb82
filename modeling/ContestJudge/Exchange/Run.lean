import ContestJudge.Exchange.Pump

/-!
# One exchange with a process

An exchange pumps, kills the process if the pump did not end well, and waits for it. Waiting is
bounded by the same deadline. If it is still pending then, the process is killed, and waited for
again without a bound. So an exchange ends unless the kill fails or the clock has no such deadline.
-/

namespace ContestJudge.Exchange

open Text (Bytes)

/-- How long past its wall time limit a process may live. -/
def grace : Duration := .ofMillis 500

/-- The cap on captured bytes of standard error, unless another one is given. -/
def standardErrorCap : Nat := Nat.pow 2 20

/-- The seconds at which the clock ends. -/
def clockEnd : Nat := Nat.pow 2 63

/-- The longest that a launch, or an exchange, may take. -/
def budget (wallTime : Duration) : Duration := wallTime.addCapped grace

/-- The deadline of a span that begins now, on the clock's whole milliseconds; spans that reach
beyond the clock have none. -/
def deadlineOf (span : Duration) : Option Nat :=
  if span.seconds < clockEnd then some span.ceilMillis else none

/-- Why an exchange fails. -/
inductive Fault where
  /-- A read or write failed. -/
  | communication (message : String)
  /-- Waiting for the process failed. -/
  | reaping (message : String)
  deriving DecidableEq, Repr

/-- The wording of a fault. -/
def Fault.message : Fault → String
  | communication message => s!"Failed to communicate with subprocess: {message}"
  | reaping message => s!"Failed to reap subprocess: {message}"

/-- How waiting for a process ended. -/
structure Reaped where
  /-- When. -/
  time : Nat
  /-- When killing the process was attempted on the way, if it was. -/
  killed : Option Nat
  /-- What is known of the process. -/
  result : Except String Usage

/-- Waits for a process from some time on, after some attempts at killing it; `none` if that never
ends. -/
def reap (b : Behaviour) (deadline : Option Nat) (now : Nat) (attempts : List Nat) :
    Option Reaped :=
  let first := (b.waited 0 attempts).map fun e => (max now e.1, e.2)
  match deadline, first with
  | none, _ => first.map fun e => ⟨e.1, none, e.2⟩
  | some d, some e => if e.1 ≤ max now d then some ⟨e.1, none, e.2⟩ else killAt d
  | some d, none => killAt d
where
  /-- Kills the process at the deadline and waits again. -/
  killAt (d : Nat) : Option Reaped :=
    let time := max now d
    (b.waited 1 (attempts ++ [time])).map fun e => ⟨max time e.1, some time, e.2⟩

/-- The stream that overran its cap, if the pump stopped for that. -/
def Stop.overrun? : Stop → Option OutputStream
  | overrun stream => some stream
  | _ => none

/-- The outcome of an exchange whose process was reaped. -/
def Pumped.outcome (p : Pumped) (usage : Usage) : Outcome where
  stdout := p.capture.kept .stdout
  stderr := p.capture.kept .stderr
  overflow := p.stop.overrun?
  usage := usage

/-- The result of an exchange: a failed wait wins over a failed read or write. -/
def Pumped.result (p : Pumped) : Except String Usage → Except Fault Outcome
  | .error message => .error (.reaping message)
  | .ok usage =>
    match p.stop with
    | .failed message => .error (.communication message)
    | _ => .ok (p.outcome usage)

/-- When the process is to be killed on account of how the pump ended, if it is. -/
def Pumped.kill (p : Pumped) : Option Nat := if p.stop = .finished then none else some p.time

/-- A whole exchange. -/
structure Run where
  /-- How the pump ended. -/
  pumped : Pumped
  /-- What the process took of its input, if that was a pipe. -/
  fed : Option Bytes
  /-- When killing the process was attempted because the pump did not end well, if it was. -/
  killed : Option Nat
  /-- How waiting for the process ended. -/
  reaped : Reaped

namespace Run

/-- When the exchange ended. -/
def time (r : Run) : Nat := r.reaped.time

/-- When killing the process was attempted. -/
def killTimes (r : Run) : List Nat := r.killed.toList ++ r.reaped.killed.toList

/-- How often killing the process was attempted. -/
def kills (r : Run) : Nat := r.killTimes.length

/-- What came of the exchange. -/
def result (r : Run) : Except Fault Outcome := r.pumped.result r.reaped.result

end Run

/-- The attempts at killing a process before its reaping: one before the exchange, if it was killed
then, and one on account of how the pump ended. -/
def attemptsBefore (killedBefore : Bool) (killed : Option Nat) : List Nat :=
  (if killedBefore then [0] else []) ++ killed.toList

/-- An exchange along an order of what happens, with a process that was killed before or not; `none`
if it never ends. -/
def runAlong (b : Behaviour) (wallTime : Duration) (caps : OutputStream → Nat)
    (killedBefore : Bool) (happenings : List (Nat × Happening)) : Option Run := do
  let deadline := deadlineOf (budget wallTime)
  let pumped ← pump caps deadline 0 (.start b) happenings
  let killed := pumped.kill
  let reaped ← reap b deadline pumped.time (attemptsBefore killedBefore killed)
  return { pumped, fed := b.input.map fun _ => pumped.capture.received, killed, reaped }

/-- An exchange with a process that was killed before or not; `none` if it never ends. Of what
happens at the same time the input comes first, then standard output. -/
def run (b : Behaviour) (wallTime : Duration) (caps : OutputStream → Nat) (killedBefore : Bool)
    (input : Bytes) : Option Run :=
  runAlong b wallTime caps killedBefore (timeline b input)

end ContestJudge.Exchange
