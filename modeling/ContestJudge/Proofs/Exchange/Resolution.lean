import ContestJudge.Proofs.Exchange.Attribution
import ContestJudge.Proofs.Exchange.Reasons

/-!
# How an exchange is resolved

A wait that fails, a read or write that fails, a cap that is overrun and the deadline may all occur
in one exchange. `runAlong_resolution` says which of them its result is about, and whether the
process is killed. A failed wait wins over everything else; among the others the first one wins, and
the deadline is no result of its own.

## Kills

The kills have two sites. The pump kills unless it finished, and reaping kills if its first wait is
pending at the deadline (`reap_killed_isSome_iff`), be it that the process is still there or that
the wait fails only later. Then there is a second wait, and this is the one whose failure counts
(`Run.lastWait_eq_one_iff`). Whether any of the kills works plays no part in this, so nothing is
assumed about that.

## Results

What the pump stops for is taken from `Pumps`, the three ways in which it can go, and what was
reaped from `runAlong_ending`. The result is made of these two alone: a wait that fails is the
result (`result_of_faultOf`), and otherwise the pump decides (`exists_result`). The equivalences
with the kinds of results read this backwards, so that each kind of result has its one cause.

No order among simultaneous happenings is assumed. The arrival order has settled that already, and
the theorem is about each of them.
-/

namespace ContestJudge.Exchange

open Text (Bytes)

variable {b : Behaviour} {wallTime : Duration} {caps : OutputStream → Nat} {killedBefore : Bool}
  {input : Bytes} {events : List (Nat × Happening)} {r : Run}

/-! ### Kills -/

theorem Run.kills_pos_iff (hrun : runAlong b wallTime caps killedBefore events = some r) :
    0 < r.kills ↔ r.pumped.stop ≠ .finished ∨ r.reaped.killed.isSome = true := by
  obtain ⟨-, hkilled, -, -⟩ := runAlong_eq_some_iff.1 hrun
  rw [kills, killTimes, hkilled, Pumped.kill]
  by_cases hstop : r.pumped.stop = .finished <;> rcases r.reaped.killed with - | kill <;>
    simp [hstop]

/-- **Reaping kills** exactly if its first wait is pending at the deadline. -/
theorem reap_killed_isSome_iff {deadline : Option Nat} {now : Nat} {attempts : List Nat}
    {z : Reaped} (hnow : ∀ d ∈ deadline, now ≤ d) (h : reap b deadline now attempts = some z) :
    z.killed.isSome = true ↔ ∃ d, deadline = some d ∧ ∀ e ∈ b.waited 0 attempts, d < e.1 := by
  cases reap_eq_some_iff.1 h with
  | @prompt time result waits inTime =>
    refine iff_of_false (fun hkilled ↦ by cases hkilled) fun ⟨d, hd, hlate⟩ ↦ ?_
    have hprompt := inTime d hd
    have hlate := hlate (time, result) waits
    have hnow := hnow d hd
    omega
  | @late d time result bound pending waits =>
    rw [Nat.max_eq_right (hnow d bound)] at pending
    exact ⟨fun _ ↦ ⟨d, bound, pending⟩, fun _ ↦ rfl⟩

/-- The pump of an exchange ends by the deadline. -/
theorem runAlong_pumped_le (hrun : runAlong b wallTime caps killedBefore events = some r) :
    ∀ d ∈ deadlineOf (budget wallTime), r.pumped.time ≤ d := by
  obtain ⟨hpump, -⟩ := runAlong_eq_some_iff.1 hrun
  intro d hd
  rw [show deadlineOf (budget wallTime) = some d from hd] at hpump
  exact pump_time_le (Nat.zero_le d) hpump

/-- **The second wait is the last one** exactly if the first one is pending at the deadline. -/
theorem Run.lastWait_eq_one_iff (hrun : runAlong b wallTime caps killedBefore events = some r) :
    r.lastWait = 1 ↔ ∃ d, deadlineOf (budget wallTime) = some d ∧
      ∀ e ∈ b.waited 0 (attemptsBefore killedBefore r.killed), d < e.1 := by
  obtain ⟨-, -, -, hreap⟩ := runAlong_eq_some_iff.1 hrun
  rw [← reap_killed_isSome_iff (runAlong_pumped_le hrun) hreap, lastWait, Reaped.lastWait]
  cases r.reaped.killed <;> simp

/-- The first wait of an exchange that has not killed its process is pending at some time. -/
def PendingAt (b : Behaviour) (killedBefore : Bool) (time : Nat) : Prop :=
  ∀ e ∈ b.waited 0 (attemptsBefore killedBefore none), time < e.1

/-- A process is killed unless the pump finishes and the wait for it completes by the deadline. -/
theorem kills_pos_iff_of_pumps {counted : List (Nat × Happening)}
    (hrun : runAlong b wallTime caps killedBefore events = some r)
    (hpumps : Pumps b caps (deadlineOf (budget wallTime)) counted r.pumped) :
    0 < r.kills ↔ (∃ before e why, FirstReason caps counted before e why) ∨
      (deadlineOf (budget wallTime)).isSome = true ∧ ¬Settled b counted ∨
      ∃ d, deadlineOf (budget wallTime) = some d ∧ PendingAt b killedBefore d := by
  rw [Run.kills_pos_iff hrun]
  obtain ⟨-, hkilled, -, hreap⟩ := runAlong_eq_some_iff.1 hrun
  cases hpumps with
  | stopped first time kept =>
    exact iff_of_true (.inl first.reason.ne_finished) (.inl ⟨_, _, _, first⟩)
  | expired quiet pending stop bound kept =>
    exact iff_of_true (.inl (by rw [stop]; decide)) (.inr (.inl ⟨by rw [bound]; rfl, pending⟩))
  | settled quiet ended stop kept =>
    rw [hkilled, Pumped.kill_of_finished stop] at hreap
    rw [reap_killed_isSome_iff (runAlong_pumped_le hrun) hreap]
    constructor
    · rintro (hstop | hwaits)
      · exact absurd stop hstop
      · exact .inr (.inr hwaits)
    · rintro (⟨before, e, why, first⟩ | ⟨-, pending⟩ | hwaits)
      · exact absurd quiet first.not_quiet
      · exact absurd ended pending
      · exact .inr hwaits

/-! ### Results -/

/-- A failed wait is what a result is about. -/
theorem result_of_faultOf {time : Nat} {message : String}
    (hrun : runAlong b wallTime caps killedBefore events = some r)
    (hwait : b.faultOf r.lastWait = some (time, message)) :
    r.result = .error (.reaping message) := by
  obtain ⟨_, hwaited, -⟩ := runAlong_waited hrun
  rcases waited_eq_some_iff.1 hwaited with ⟨message', hfault, hresult⟩ | ⟨hworks, -⟩
  · cases hfault.symm.trans hwait
    rw [Run.result, hresult]
    rfl
  · cases hworks.symm.trans hwait

/-- Otherwise it is what the pump makes of the report. -/
theorem exists_result (hrun : runAlong b wallTime caps killedBefore events = some r)
    (hwait : b.faultOf r.lastWait = none) : ∃ usage, r.result = r.pumped.result (.ok usage) := by
  obtain ⟨time, status, -, -, hresult⟩ := runAlong_ending hrun hwait
  exact ⟨_, congrArg r.pumped.result hresult⟩

namespace Pumped

variable {p : Pumped} {usage : Usage}

theorem result_eq_communication_iff {message : String} :
    p.result (.ok usage) = .error (.communication message) ↔ p.stop = .failed message := by
  rw [result]
  cases p.stop <;> simp

theorem result_overflow_iff {stream : OutputStream} :
    (∃ o, p.result (.ok usage) = .ok o ∧ o.overflow = some stream) ↔ p.stop = .overrun stream := by
  rw [result]
  cases hstop : p.stop <;> simp [outcome, hstop, Stop.overrun?]

theorem result_whole_iff :
    (∃ o, p.result (.ok usage) = .ok o ∧ o.overflow = none) ↔
      p.stop = .finished ∨ p.stop = .deadline := by
  rw [result]
  cases hstop : p.stop <;> simp [outcome, hstop, Stop.overrun?]

end Pumped

/-- **How an exchange is resolved**, along any arrival order. What counts is what comes no later
than the deadline, which is the first millisecond at which the wall time limit and the grace time
are over. An exchange by `run` goes along one of these orders (`arrivalOrder_timeline`).

If the last wait fails, that wins; it is the second wait if the first one is pending at the deadline,
and the first one otherwise. Else the first reason to stop is what the result is about, and without
one there is an outcome with no overrun. The process is killed if there is such a reason, if the
deadline passes before everything has ended, or if it passes while the wait is pending. -/
theorem runAlong_resolution (horder : ArrivalOrder b input events)
    (hrun : runAlong b wallTime caps killedBefore events = some r) :
    let deadline := deadlineOf (budget wallTime)
    let counted := events.filter fun e ↦ inTime deadline e.1
    (∀ d, deadline = some d → ∀ t,
      d ≤ t ↔ wallTime.nanoseconds + grace.nanoseconds ≤ t * 1000000) ∧
    (r.lastWait = 1 ↔ ∃ d, deadline = some d ∧
      ∀ e ∈ b.waited 0 (attemptsBefore killedBefore r.killed), d < e.1) ∧
    (∀ message, r.result = .error (.reaping message) ↔
      ∃ time, b.faultOf r.lastWait = some (time, message)) ∧
    (b.faultOf r.lastWait = none →
      (∀ message, r.result = .error (.communication message) ↔
        ∃ before e, FirstReason caps counted before e (.failed message)) ∧
      (∀ stream, (∃ o, r.result = .ok o ∧ o.overflow = some stream) ↔
        ∃ before e, FirstReason caps counted before e (.overrun stream)) ∧
      ((∃ o, r.result = .ok o ∧ o.overflow = none) ↔ Quiet caps counted)) ∧
    (0 < r.kills ↔ (∃ before e why, FirstReason caps counted before e why) ∨
      deadline.isSome = true ∧ ¬Settled b counted ∨
      ∃ d, deadline = some d ∧ PendingAt b killedBefore d) ∧
    ∀ o, r.result = .ok o → r.reaped.result = .ok o.usage ∧
      ∃ time status, b.ending (b.killing (r.attempts killedBefore)) = some (time, status) ∧
        time ≤ r.time ∧ o.usage = b.usage time status := by
  intro deadline counted
  obtain ⟨hpump, -⟩ := runAlong_eq_some_iff.1 hrun
  have hpumps : Pumps b caps deadline counted r.pumped := horder.pumps hpump
  refine ⟨fun d hd t ↦ deadlineOf_budget_le_iff hd, Run.lastWait_eq_one_iff hrun,
    fun message ↦ ?_, fun hwait ↦ ?_, kills_pos_iff_of_pumps hrun hpumps, fun o hresult ↦ ?_⟩
  · refine ⟨fun hresult ↦ ?_, fun ⟨time, hwait⟩ ↦ result_of_faultOf hrun hwait⟩
    rcases hwait : b.faultOf r.lastWait with - | ⟨time, message'⟩
    · obtain ⟨usage, hresult'⟩ := exists_result hrun hwait
      rw [hresult', Pumped.result] at hresult
      split at hresult <;> cases hresult
    · rw [result_of_faultOf hrun hwait] at hresult
      cases hresult
      exact ⟨time, rfl⟩
  · obtain ⟨usage, hresult⟩ := exists_result hrun hwait
    rw [hresult]
    refine ⟨fun message ↦ ?_, fun stream ↦ ?_, ?_⟩
    · rw [Pumped.result_eq_communication_iff]
      exact hpumps.stop_eq_iff (by simp) (by simp)
    · rw [Pumped.result_overflow_iff]
      exact hpumps.stop_eq_iff (by simp) (by simp)
    · rw [Pumped.result_whole_iff]
      exact hpumps.quiet_iff.symm
  · obtain ⟨-, usage, husage, rfl⟩ := result_eq_ok_iff.1 hresult
    refine ⟨husage, ?_⟩
    rcases hwait : b.faultOf r.lastWait with - | ⟨time, message⟩
    · obtain ⟨time, status, hends, hle, hreport⟩ := runAlong_ending hrun hwait
      rw [husage] at hreport
      exact ⟨time, status, hends, hle, Except.ok.inj hreport⟩
    · rw [result_of_faultOf hrun hwait] at hresult
      cases hresult

/-- A wait that fails long after the deadline: the process is killed at the deadline, and the second
wait fails. -/
example : ∃ r, runAlong { lingering with waitFault := some "gone", waitFails := fun _ ↦ some 9000 }
      (.ofMillis 1000) (fun _ ↦ 10) false lingeringOrder = some r ∧
    r.result = .error (.reaping "gone") ∧ r.killTimes = [1500] ∧ r.time = 9000 :=
  ⟨_, rfl, rfl, by decide, by decide⟩

/-! ### Two processes that fail -/

/-- A process whose output cannot be read any more after a while. Later it writes too much to its
standard error, and it never exits. -/
def broken : Behaviour where
  input := some ⟨[(2, .brokenPipe)], none⟩
  output
    | .stdout => some [(1, .data [97]), (3, .failed "reset")]
    | .stderr => some [(4, .data [33, 33])]
  exit := none
  status := .exited 0
  cpuTime := ⟨0⟩
  peakMemory := 0
  reportedWall := none
  killFault := none
  waitFault := none

/-- Everything that it does. -/
def brokenOrder : List (Nat × Happening) :=
  [(1, .output .stdout (.data [97])), (2, .inputEnded .brokenPipe),
    (3, .output .stdout (.failed "reset")), (4, .output .stderr (.data [33, 33]))]

/-- The failed read is the first reason to stop, and the process is killed for it. -/
theorem runAlong_resolution_broken : ∃ r,
    run broken (.ofMillis 1000) (fun _ ↦ 1) false [120] = some r ∧
      r.result = .error (.communication "reset") ∧ 0 < r.kills := by
  have htimeline : timeline broken [120] = brokenOrder := by
    simp [timeline, broken, feed, feedFrom, outputEvents, notLater, brokenOrder]
  have horder : ArrivalOrder broken [120] brokenOrder := by
    rw [← htimeline]
    refine arrivalOrder_timeline (fun stream ↦ ?_) _
    cases stream <;> decide
  obtain ⟨r, hrun⟩ : ∃ r,
      runAlong broken (.ofMillis 1000) (fun _ ↦ 1) false brokenOrder = some r := ⟨_, rfl⟩
  have hsplit : ArrivalOrder broken [120] (brokenOrder.take 2 ++ brokenOrder.drop 2) := horder
  have hfirst : FirstReason (fun _ ↦ 1)
      (brokenOrder.filter fun e ↦ inTime (deadlineOf (budget (.ofMillis 1000))) e.1)
      (brokenOrder.take 2) (3, .output .stdout (.failed "reset")) (.failed "reset") :=
    ⟨hsplit.quiet_of_takeAll rfl, by decide, .read (by decide)⟩
  obtain ⟨-, -, -, hresult, hkills, -⟩ := runAlong_resolution horder hrun
  obtain ⟨hfailed, -⟩ := hresult (faultOf_of_waitFault rfl _)
  refine ⟨r, ?_, (hfailed _).2 ⟨_, _, hfirst⟩, hkills.2 (.inl ⟨_, _, _, hfirst⟩)⟩
  rw [run, htimeline, hrun]

/-- A process whose output cannot be read half a millisecond after a wall time limit of half a
millisecond and the grace time have passed. -/
def belatedlyBroken : Behaviour where
  input := some ⟨[], some (0, .closed)⟩
  output
    | .stdout => some [(501, .failed "boom")]
    | .stderr => some []
  exit := none
  status := .exited 0
  cpuTime := ⟨0⟩
  peakMemory := 0
  reportedWall := none
  killFault := none
  waitFault := none

/-- **A failure may come after the limit and the grace time** and still be what the result is about,
because the clock ticks in whole milliseconds. -/
theorem belatedlyBroken_fails : ∃ r,
    run belatedlyBroken ⟨500000⟩ (fun _ ↦ 10) false [] = some r ∧
      r.result = .error (.communication "boom") ∧
      ∀ e ∈ timeline belatedlyBroken [], e.2.fault? ≠ none →
        ¬Duration.ofMillis e.1 ≤ budget ⟨500000⟩ := by
  have htimeline : timeline belatedlyBroken [] =
      [(0, .inputEnded .complete), (501, .output .stdout (.failed "boom"))] := by
    simp [timeline, belatedlyBroken, feed, feedFrom, closeInput, outputEvents, notLater]
  rw [run, htimeline]
  exact ⟨_, rfl, rfl, by decide⟩

end ContestJudge.Exchange
