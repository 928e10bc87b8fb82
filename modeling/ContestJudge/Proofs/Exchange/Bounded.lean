import ContestJudge.Proofs.Exchange.Deadline
import ContestJudge.Proofs.Exchange.Pump
import ContestJudge.Proofs.Exchange.Reaping

/-!
# Exchanges keep their deadline

If killing a process and waiting for it work, an exchange with it ends, no later than the deadline,
and leaves no process behind: by then the process has exited or been killed, and was waited for.
Nothing is assumed of what else the process does, and the happenings need not even be in order.

The two halves are independent. The pump keeps the deadline by itself (`pump_time_le`). The reaping
keeps it because a process that lingers is killed at the deadline (`reap_time_le`), and a process
that was killed is not waited for any longer than that. `runAlong_time_le` joins the halves.

Ending at all is a matter of its own. An exchange ends if killing works, even if waiting does not: a
wait that fails ends as well, whenever that is (`exists_runAlong`). Only how long it takes then is
left open.

What an exchange leaves behind does not rest on any of this (`runAlong_ending`): whatever attempts
at killing the process were made, a wait that does not fail reports the end that they left it. It is
the last wait that counts, and its number is told by whether the process was killed on the way
(`Run.lastWait`).
-/

namespace ContestJudge.Exchange

variable {b : Behaviour} {wallTime : Duration} {caps : OutputStream → Nat} {killedBefore : Bool}
  {events : List (Nat × Happening)} {r : Run}

/-- A killed process has ended by the time of its kill. -/
theorem ending_time_le {kill time : Nat} {status : ExitStatus}
    (h : b.ending (some kill) = some (time, status)) : time ≤ kill := by
  rcases ending_eq_some_iff.1 h with ⟨-, -, hle⟩ | ⟨heq, -, -⟩
  · exact hle kill rfl
  · exact Nat.le_of_eq (Option.some.inj heq).symm

/-- A wait for a process that has been killed completes by the time of the first attempt. -/
theorem waited_time_le (hkill : b.killFault = none) (hwait : b.waitFault = none) {wait first : Nat}
    {attempts : List Nat} {e : Nat × Except String Usage} (hfirst : attempts.head? = some first)
    (h : b.waited wait attempts = some e) : e.1 ≤ first := by
  rcases waited_eq_some_iff.1 h with ⟨message, hfault, -⟩ | ⟨-, status, hends, -⟩
  · rw [faultOf_of_waitFault hwait] at hfault
    cases hfault
  · rw [killing_of_killFault hkill, hfirst] at hends
    exact ending_time_le hends

/-- A reaping that begins by the deadline ends by the deadline. -/
theorem reap_time_le (hkill : b.killFault = none) (hwait : b.waitFault = none) {d now : Nat}
    {attempts : List Nat} {z : Reaped} (hnow : now ≤ d) (hattempts : ∀ t ∈ attempts, t ≤ d)
    (h : reap b (some d) now attempts = some z) : z.time ≤ d := by
  have hmax : max now d = d := Nat.max_eq_right hnow
  cases reap_eq_some_iff.1 h with
  | @prompt time result waits inTime =>
    have hprompt := inTime d rfl
    show max now time ≤ d
    omega
  | @late d' time result bound pending waits =>
    obtain rfl := Option.some.inj bound
    obtain ⟨first, hfirst⟩ : ∃ first, (attempts ++ [max now d]).head? = some first :=
      Option.isSome_iff_exists.1 (by simp)
    have hle : first ≤ d := by
      rcases List.mem_append.1 (List.mem_of_mem_head? hfirst) with hmem | hmem
      · exact hattempts first hmem
      · exact Nat.le_of_eq ((List.mem_singleton.1 hmem).trans hmax)
    have hend : time ≤ first := waited_time_le hkill hwait hfirst waits
    show max (max now d) time ≤ d
    omega

/-- **An exchange keeps its deadline**, in whatever order things happen. -/
theorem runAlong_time_le (hkill : b.killFault = none) (hwait : b.waitFault = none) {d : Nat}
    (hdeadline : deadlineOf (budget wallTime) = some d)
    (h : runAlong b wallTime caps killedBefore events = some r) : r.time ≤ d := by
  obtain ⟨hpump, hkilled, -, hreap⟩ := runAlong_eq_some_iff.1 h
  rw [hdeadline] at hpump hreap
  have hpumped : r.pumped.time ≤ d := pump_time_le (Nat.zero_le d) hpump
  refine reap_time_le hkill hwait hpumped (fun t ht ↦ ?_) hreap
  rw [attemptsBefore, hkilled, Pumped.kill] at ht
  -- the process was killed before the exchange, or when the pump ended
  rcases List.mem_append.1 ht with ht | ht
  · split at ht
    · obtain rfl := List.mem_singleton.1 ht
      exact Nat.zero_le d
    · cases ht
  · split at ht
    · cases ht
    · obtain rfl := List.mem_singleton.1 ht
      exact hpumped

/-- The pump ends in any case, so an exchange ends if its reaping does. -/
theorem exists_runAlong_of_reap (hclock : WithinClock wallTime)
    (h : ∀ now attempts, ∃ z, reap b (some (budget wallTime).ceilMillis) now attempts = some z)
    (caps : OutputStream → Nat) (killedBefore : Bool) (events : List (Nat × Happening)) :
    ∃ r, runAlong b wallTime caps killedBefore events = some r := by
  have hdeadline := deadlineOf_of_withinClock hclock
  obtain ⟨p, hpump⟩ := exists_pump caps (budget wallTime).ceilMillis 0 (.start b) events
  obtain ⟨z, hreap⟩ := h p.time
    (attemptsBefore killedBefore p.kill)
  rw [← hdeadline] at hpump hreap
  exact ⟨_, Option.bind_eq_some_iff.2 ⟨p, hpump, Option.bind_eq_some_iff.2 ⟨z, hreap, rfl⟩⟩⟩

/-- **An exchange ends.** -/
theorem exists_runAlong (hkill : b.killFault = none) (hclock : WithinClock wallTime)
    (caps : OutputStream → Nat) (killedBefore : Bool) (events : List (Nat × Happening)) :
    ∃ r, runAlong b wallTime caps killedBefore events = some r :=
  exists_runAlong_of_reap hclock (exists_reap hkill _) caps killedBefore events

/-! ### What is left behind -/

namespace Run

/-- When killing a process was attempted, counting an attempt before the exchange. -/
def attempts (r : Run) (killedBefore : Bool) : List Nat :=
  (if killedBefore then [0] else []) ++ r.killTimes

/-- When that was first attempted. -/
def firstKill (r : Run) (killedBefore : Bool) : Option Nat :=
  if killedBefore then some 0 else r.killTimes.head?

theorem head?_attempts (r : Run) (killedBefore : Bool) :
    (r.attempts killedBefore).head? = r.firstKill killedBefore := by
  cases killedBefore <;> rfl

theorem attemptsBefore_append (r : Run) (killedBefore : Bool) :
    attemptsBefore killedBefore r.killed ++ r.reaped.killed.toList = r.attempts killedBefore :=
  List.append_assoc _ _ _

/-- Which wait of an exchange was its last. -/
def lastWait (r : Run) : Nat := r.reaped.lastWait

end Run

/-- An exchange reports what its last wait does, after all attempts at killing the process. -/
theorem runAlong_waited (h : runAlong b wallTime caps killedBefore events = some r) :
    ∃ time, b.waited r.lastWait (r.attempts killedBefore) = some (time, r.reaped.result) ∧
      time ≤ r.time := by
  obtain ⟨-, -, -, hreap⟩ := runAlong_eq_some_iff.1 h
  rw [← r.attemptsBefore_append]
  exact exists_waited hreap

/-- **What an exchange leaves behind**: unless its last wait fails, the process has ended, by itself
or by the first attempt at killing it that worked, and its end is reported. -/
theorem runAlong_ending (h : runAlong b wallTime caps killedBefore events = some r)
    (hwait : b.faultOf r.lastWait = none) :
    ∃ time status, b.ending (b.killing (r.attempts killedBefore)) = some (time, status) ∧
      time ≤ r.time ∧ r.reaped.result = .ok (b.usage time status) := by
  obtain ⟨time, hwaited, hle⟩ := runAlong_waited h
  rcases waited_eq_some_iff.1 hwaited with ⟨message, hfault, -⟩ | ⟨-, status, hends, hresult⟩
  · rw [hwait] at hfault
    cases hfault
  · exact ⟨time, status, hends, hle, hresult⟩

end ContestJudge.Exchange
