import ContestJudge.Exchange.Behaviour

/-!
# Feeding a process and draining its streams

The pump gives a process its input and collects both output streams at the same time. It goes
through everything that happens in order of time and stops when the input is dealt with and both
streams have ended, when a stream overruns its cap, when a read or write fails, or at the deadline.
-/

namespace ContestJudge.Exchange

open Text (Bytes)

/-- How the feeding of a process ended. -/
inductive InputEnd where
  /-- There was no pipe to feed. -/
  | noPipe
  /-- Everything was written and the pipe was closed. -/
  | complete
  /-- The process closed its end first. -/
  | brokenPipe
  deriving DecidableEq, Repr

/-- Something that happens while the pump runs. -/
inductive Happening where
  /-- The process took bytes of its input. -/
  | fed (bytes : Bytes)
  /-- The feeding ended. -/
  | inputEnded (how : InputEnd)
  /-- The feeding failed. -/
  | inputFailed (message : String)
  /-- A read from a stream. -/
  | output (stream : OutputStream) (event : StreamEvent)
  deriving DecidableEq, Repr

/-- What closing the input leads to. -/
def closeInput (now : Nat) (closing : Option (Nat × CloseAnswer)) : List (Nat × Happening) :=
  match closing with
  | none => []
  | some (time, .closed) => [(max now time, .inputEnded .complete)]
  | some (time, .brokenPipe) => [(max now time, .inputEnded .brokenPipe)]
  | some (time, .failed message) => [(max now time, .inputFailed message)]

/-- The message of a write that takes nothing. -/
def noProgress : String := "failed to write whole buffer"

/-- Writes the rest of the input; each write begins when the one before it has been answered. -/
def feedFrom (now : Nat) (closing : Option (Nat × CloseAnswer)) (rest : Bytes) :
    List (Nat × WriteAnswer) → List (Nat × Happening)
  | [] => if rest.isEmpty then closeInput now closing else []
  | (time, answer) :: answers =>
    if rest.isEmpty then closeInput now closing
    else
      let now := max now time
      match answer with
      | .taken 0 => [(now, .inputFailed noProgress)]
      | .taken count =>
        (now, .fed (rest.take count)) :: feedFrom now closing (rest.drop count) answers
      | .brokenPipe => [(now, .inputEnded .brokenPipe)]
      | .failed message => [(now, .inputFailed message)]

/-- Everything about the input that happens. -/
def feed (pipe : Option InputPipe) (input : Bytes) : List (Nat × Happening) :=
  match pipe with
  | none => [(0, .inputEnded .noPipe)]
  | some pipe => feedFrom 0 pipe.closing input pipe.writes

/-- Everything about a stream that happens. -/
def outputEvents (b : Behaviour) (stream : OutputStream) : List (Nat × Happening) :=
  ((b.output stream).getD []).map fun e => (e.1, .output stream e.2)

/-- The order of time. -/
def notLater (a b : Nat × Happening) : Bool := a.1 ≤ b.1

/-- Everything that happens, in order of time. -/
def timeline (b : Behaviour) (input : Bytes) : List (Nat × Happening) :=
  ((feed b.input input).merge (outputEvents b .stdout) notLater).merge (outputEvents b .stderr)
    notLater

/-- What the pump has collected. -/
structure Capture where
  /-- The input that the process took. -/
  received : Bytes
  /-- How the feeding ended, if it did. -/
  inputEnd : Option InputEnd
  /-- The bytes of each stream. -/
  kept : OutputStream → Bytes
  /-- The streams that may still yield something. -/
  isOpen : OutputStream → Bool

/-- Replaces the value of one stream. -/
def setStream {α : Type} (f : OutputStream → α) (stream : OutputStream) (value : α) :
    OutputStream → α :=
  fun s => if s = stream then value else f s

namespace Capture

/-- Nothing collected yet. -/
def start (b : Behaviour) : Capture where
  received := []
  inputEnd := none
  kept := fun _ => []
  isOpen := fun s => (b.output s).isSome

/-- Whether nothing is left to wait for. -/
def isDone (c : Capture) : Bool := c.inputEnd.isSome && !c.isOpen .stdout && !c.isOpen .stderr

end Capture

/-- Why the pump stops. -/
inductive Stop where
  /-- Nothing is left to wait for. -/
  | finished
  /-- A stream has more bytes than its cap. -/
  | overrun (stream : OutputStream)
  /-- A read or write failed. -/
  | failed (message : String)
  /-- The deadline passed. -/
  | deadline
  deriving DecidableEq, Repr

/-- Takes in something that happened, and says whether the pump stops for it. A stream that ended is
not read again. A stream that overruns its cap is kept up to the cap. -/
def Capture.take (caps : OutputStream → Nat) (c : Capture) : Happening → Option Stop × Capture
  | .fed bytes => (none, { c with received := c.received ++ bytes })
  | .inputEnded how => (none, { c with inputEnd := some how })
  | .inputFailed message => (some (.failed message), c)
  | .output stream event =>
    if !c.isOpen stream then (none, c)
    else match event with
      | .data bytes =>
        let room := caps stream - (c.kept stream).length
        let kept := setStream c.kept stream (c.kept stream ++ bytes.take room)
        (if room < bytes.length then some (.overrun stream) else none, { c with kept })
      | .ended => (none, { c with isOpen := setStream c.isOpen stream false })
      | .failed message => (some (.failed message), c)

/-- The end of a pump. -/
structure Pumped where
  /-- When it stopped. -/
  time : Nat
  /-- Why. -/
  stop : Stop
  /-- What it collected. -/
  capture : Capture

/-- Runs the pump through what still happens; `none` if it never stops. What happens at the very
time of the deadline still counts. -/
def pump (caps : OutputStream → Nat) (deadline : Option Nat) (now : Nat) (c : Capture) :
    List (Nat × Happening) → Option Pumped
  | [] =>
    if c.isDone then some ⟨now, .finished, c⟩ else deadline.map fun d => ⟨d, .deadline, c⟩
  | (time, happening) :: rest =>
    if c.isDone then some ⟨now, .finished, c⟩
    else if deadline.any (· < time) then deadline.map fun d => ⟨d, .deadline, c⟩
    else match c.take caps happening with
      | (some stop, c) => some ⟨time, stop, c⟩
      | (none, c) => pump caps deadline time c rest

end ContestJudge.Exchange
