import ContestJudge.Sandbox.Basic

/-!
# Playing back launches

A sandbox that runs nothing: its launches go as they were prepared, one after the other. Once they
are used up, every launch goes like a given one.
-/

namespace ContestJudge

/-- How one launch goes. -/
structure Take where
  /-- The milliseconds that it takes, unless it takes forever. -/
  delay : Option Nat
  /-- Why it fails, if it does, for a program of some name. -/
  fault : Option (String → LaunchFault)
  /-- How the process behaves. -/
  behaviour : Exchange.Behaviour

/-- The sandbox that plays back the takes it keeps, and `rest` once there are none. -/
def Sandbox.playback (rest : Take) : Sandbox (List Take) Exchange.Behaviour where
  launch spec w :=
    let take := w.extra.headD rest
    (⟨take.delay, match take.fault with
      | some fault => .error (fault spec.program)
      | none => .ok take.behaviour⟩, { w with extra := w.extra.tail })
  engage behaviour _ w := (behaviour, w)
  release _ w := w

end ContestJudge
