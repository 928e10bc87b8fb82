import ContestJudge.Process.Outcome

/-!
# Handles on processes

Whoever launched a process keeps a handle on it: takes its pipes, looks whether it has exited, kills
it and reaps it. The system answers each request as it likes. A handle remembers when the process
was first seen to have exited and, once it has been reaped, its report; from then on it asks nothing
of the system any more, since the number of the process may belong to another one.
-/

namespace ContestJudge

/-- What the system is asked. -/
inductive Request where
  /-- Whether the process has exited, leaving it as it is. -/
  | look
  /-- To reap the process if it has exited. -/
  | reap
  /-- To kill the process with all its descendants. -/
  | kill
  deriving DecidableEq, Repr

/-- What the system answers when it looks, or reaps. -/
inductive Reply where
  | running
  /-- The request was interrupted. -/
  | interrupted
  /-- The process has exited: how, the CPU time it used, and its peak memory. -/
  | exited (status : ExitStatus) (cpuTime : Duration) (peakMemory : Nat)
  | failed (message : String)
  deriving DecidableEq, Repr

/-- What the system answers when it kills. -/
inductive KillReply where
  | done
  /-- There is no such process. -/
  | gone
  | failed (message : String)
  deriving DecidableEq, Repr

/-- The pipes of a process. -/
inductive Pipe where
  | input
  | output (stream : OutputStream)
  deriving DecidableEq, Repr

/-- A handle on a process. -/
structure Handle where
  /-- When the process was launched. -/
  launched : Duration
  /-- When it was first seen to have exited. -/
  seenExited : Option Duration
  /-- What is known of it, once it has been reaped. -/
  report : Option Usage
  /-- The pipes that have not been taken. -/
  pipes : List Pipe
  deriving DecidableEq, Repr

/-- What an operation on a handle leads to. -/
structure Move (α : Type) where
  /-- The handle afterwards. -/
  handle : Handle
  /-- What the system was asked. -/
  requests : List Request
  /-- The answer. -/
  answer : α

namespace Handle

/-- The handle on a process that was just launched. -/
def launch (now : Duration) (pipes : List Pipe) : Handle := ⟨now, none, none, pipes⟩

/-- Takes a pipe, if it is still there. -/
def take (h : Handle) (pipe : Pipe) : Move Bool :=
  ⟨{ h with pipes := h.pipes.filter (· ≠ pipe) }, [], h.pipes.contains pipe⟩

/-- Looks whether the process has exited. What was seen once is not asked again. -/
def checkExited (h : Handle) (now : Duration) (reply : Reply) : Move (Except String Bool) :=
  if h.report.isSome ∨ h.seenExited.isSome then ⟨h, [], .ok true⟩
  else match reply with
    | .running => ⟨h, [.look], .ok false⟩
    | .interrupted => ⟨h, [.look], .ok false⟩
    | .exited .. => ⟨{ h with seenExited := some now }, [.look], .ok true⟩
    | .failed message => ⟨h, [.look], .error message⟩

/-- Tries to reap the process. Its wall time ends when it was first seen to have exited. -/
def tryReap (h : Handle) (now : Duration) (reply : Reply) : Move (Except String (Option Usage)) :=
  match h.report with
  | some report => ⟨h, [], .ok (some report)⟩
  | none =>
    match reply with
    | .running => ⟨h, [.reap], .ok none⟩
    | .interrupted => ⟨h, [.reap], .ok none⟩
    | .failed message => ⟨h, [.reap], .error message⟩
    | .exited status cpuTime peakMemory =>
      let wallTime := ⟨(h.seenExited.getD now).nanoseconds - h.launched.nanoseconds⟩
      let report := ⟨status, cpuTime, wallTime, peakMemory⟩
      ⟨{ h with report := some report }, [.reap], .ok (some report)⟩

/-- Kills the process, unless it has been reaped. That it is gone is no fault. -/
def kill (h : Handle) (reply : KillReply) : Move (Except String Unit) :=
  if h.report.isSome then ⟨h, [], .ok ()⟩
  else match reply with
    | .failed message => ⟨h, [.kill], .error message⟩
    | _ => ⟨h, [.kill], .ok ()⟩

/-- Reaps the process, as often as it takes; a fault ends that. The answer tells whether it ended
before the replies did. -/
def reapAll (h : Handle) : List (Duration × Reply) → Move Bool
  | [] => ⟨h, [], h.report.isSome⟩
  | (now, reply) :: rest =>
    match h.tryReap now reply with
    | ⟨h, requests, .ok none⟩ =>
      let ⟨h, more, ended⟩ := h.reapAll rest
      ⟨h, requests ++ more, ended⟩
    | ⟨h, requests, _⟩ => ⟨h, requests, true⟩

/-- Gives up the handle: kills the process and reaps it, unless that has been done. -/
def drop (h : Handle) (killReply : KillReply) (replies : List (Duration × Reply)) : Move Bool :=
  if h.report.isSome then ⟨h, [], true⟩
  else
    let killed := h.kill killReply
    let ⟨h, requests, ended⟩ := killed.handle.reapAll replies
    ⟨h, killed.requests ++ requests, ended⟩

end Handle

end ContestJudge
