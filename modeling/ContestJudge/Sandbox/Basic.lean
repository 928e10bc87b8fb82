import ContestJudge.Exchange.Run
import ContestJudge.Sandbox.Launch
import ContestJudge.Sandbox.World

/-!
# Sandboxes

A sandbox launches programs and says how they behave once they are given an input. It may change the
files with every step, and whatever else it keeps. Nothing is assumed of it.
-/

namespace ContestJudge

open Text (Bytes)

/-- How a launch answers. -/
structure Arrival (π : Type) where
  /-- The milliseconds that it takes, unless it takes forever. -/
  delay : Option Nat
  /-- The process, or why there is none. -/
  result : Except LaunchFault π

/-- A place to run programs; `π` stands for processes. -/
structure Sandbox (ε π : Type) where
  /-- Launches a program. -/
  launch : LaunchSpec → World ε → Arrival π × World ε
  /-- How a process behaves that is given an input. -/
  engage : π → Bytes → World ε → Exchange.Behaviour × World ε
  /-- Gives up a process, whether it ran or not. -/
  release : π → World ε → World ε

/-- A launch that has ended. -/
structure Started (π : Type) where
  /-- The milliseconds that it took. -/
  time : Nat
  /-- The process, or why there is none. -/
  result : Except LaunchFault π

/-- Cuts a launch off at a deadline, which is the end of some span; `none` if it never ends. -/
def Arrival.cut {π : Type} (a : Arrival π) (span : Duration) :
    (deadline : Option Nat) → Option (Started π)
  | some d =>
    match a.delay with
    | some t => some (if t ≤ d then ⟨t, a.result⟩ else ⟨d, .error (.timedOut span)⟩)
    | none => some ⟨d, .error (.timedOut span)⟩
  | none => a.delay.map fun t => ⟨t, a.result⟩

/-- Bounds a launch: one that takes longer than an exchange may take fails. `none` if it never ends.
-/
def Arrival.bound {π : Type} (a : Arrival π) (wallTime : Duration) : Option (Started π) :=
  a.cut (Exchange.budget wallTime) (Exchange.deadlineOf (Exchange.budget wallTime))

end ContestJudge
