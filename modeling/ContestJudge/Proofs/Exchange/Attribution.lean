import ContestJudge.Proofs.Exchange.Bounded
import ContestJudge.Proofs.Verdict.Flags

/-!
# What a killed process is blamed for

An exchange may kill its process at three places: when a stream overruns its cap, when the deadline
passes while the pump still runs, and when the process lingers after its streams have ended. In
either case the process ends by a signal, as a crash would end it. Here the flags are shown to tell
the two apart: who is killed for an overrun gets `outputLimit` and nothing else, and whoever lives
until the deadline has used up the wall time limit.

* `kill_cases` — where a running process is killed: at the end of the pump, or at the deadline. It
  reads the decomposition of an exchange into a pump and a reaping, and nothing else does here.
* `RunningAt.ending` — who is killed while running ends there, by a signal. So the status says
  nothing that would tell the two cases apart, and the flags must come from elsewhere.
* `judgeExit_of_killed` — they come from the overrun, or from the wall time: the deadline lies past
  the wall time limit (`le_ofMillis_of_deadline`), so a report no less than the time of the end is
  over the limit.

All that is assumed of the report is that its wall time is no less than the time of the end. A
report that is less would have the process blamed for a crash, and nothing is claimed then.
-/

namespace ContestJudge.Exchange

variable {b : Behaviour} {wallTime : Duration} {caps : OutputStream → Nat} {killedBefore : Bool}
  {events : List (Nat × Happening)} {r : Run} {t : Nat}

/-- A process is still running at some time of an exchange that has not killed it. -/
def RunningAt (b : Behaviour) (killedBefore : Bool) (time : Nat) : Prop :=
  ∀ e ∈ b.ending (b.killing (attemptsBefore killedBefore none)), time < e.1

/-- A process that runs was not killed before. -/
theorem RunningAt.not_killedBefore (hkill : b.killFault = none) (h : RunningAt b killedBefore t) :
    killedBefore = false := by
  cases killedBefore with
  | false => rfl
  | true =>
    obtain ⟨time, status, hends, hle⟩ := exists_ending_of_killed b 0
    rw [RunningAt, killing_of_killFault hkill] at h
    have hlt : t < time := h (time, status) hends
    omega

/-- Who is killed while running ends there, by a signal. -/
theorem RunningAt.ending (h : RunningAt b false t) :
    b.ending (some t) = some (t, .signaled killSignal) := by
  refine ending_eq_some_iff.2 (.inr ⟨rfl, rfl, fun exit hexit ↦ ?_⟩)
  exact h (exit, b.status) (ending_eq_some_iff.2 (.inl ⟨hexit, rfl, nofun⟩))

/-- A reaping kills at the deadline, unless it begins later. -/
theorem reap_killed_eq_some {deadline : Option Nat} {now : Nat} {attempts : List Nat} {z : Reaped}
    (h : reap b deadline now attempts = some z) (ht : z.killed = some t) :
    ∃ d, deadline = some d ∧ t = max now d := by
  cases reap_eq_some_iff.1 h with
  | prompt waits inTime => cases ht
  | @late d time result bound pending waits => exact ⟨d, bound, (Option.some.inj ht).symm⟩

/-- A kill on the way of a reaping is at the deadline. -/
theorem runAlong_reaped_killed (hrun : runAlong b wallTime caps killedBefore events = some r)
    (ht : r.reaped.killed = some t) : deadlineOf (budget wallTime) = some t := by
  obtain ⟨hpump, -, -, hreap⟩ := runAlong_eq_some_iff.1 hrun
  obtain ⟨d, hd, rfl⟩ := reap_killed_eq_some hreap ht
  rw [hd] at hpump ⊢
  rw [Nat.max_eq_right (pump_time_le (Nat.zero_le d) hpump)]

/-- **Where a process is killed**: when the pump stops for an overrun, a failure or the deadline, or
at the deadline after the pump finished. A kill at the deadline is the first one, unless the pump
stopped for an overrun or a failure. -/
theorem kill_cases (hrun : runAlong b wallTime caps false events = some r) (ht : t ∈ r.killTimes) :
    (∃ s, r.pumped.stop = .overrun s) ∨ (∃ message, r.pumped.stop = .failed message) ∨
      r.pumped.stop.overrun? = none ∧ deadlineOf (budget wallTime) = some t ∧
        r.firstKill false = some t := by
  obtain ⟨hpump, hkilled, -, -⟩ := runAlong_eq_some_iff.1 hrun
  have hfirst : r.firstKill false = r.killTimes.head? := rfl
  rw [Run.killTimes] at ht hfirst
  rcases hwhy : r.pumped.stop with - | s | message | -
  · rw [hkilled, Pumped.kill_of_finished hwhy, Option.toList_none, List.nil_append] at ht hfirst
    have hreaped : r.reaped.killed = some t := Option.mem_toList.1 ht
    refine .inr (.inr ⟨rfl, runAlong_reaped_killed hrun hreaped, ?_⟩)
    rw [hfirst, hreaped]
    rfl
  · exact .inl ⟨s, rfl⟩
  · exact .inr (.inl ⟨message, rfl⟩)
  · have hdeadline := pump_time_of_deadline hpump hwhy
    have hkill : r.killed = some r.pumped.time :=
      hkilled.trans (Pumped.kill_of_ne_finished (by rw [hwhy]; decide))
    -- both kills that there may be are at the deadline
    have htime : t = r.pumped.time := by
      rcases List.mem_append.1 ht with ht | ht
      · rw [hkill] at ht
        exact List.mem_singleton.1 ht
      · have hlate := runAlong_reaped_killed hrun (Option.mem_toList.1 ht)
        exact Option.some.inj (hlate.symm.trans hdeadline)
    refine .inr (.inr ⟨rfl, htime ▸ hdeadline, ?_⟩)
    rw [hfirst, hkill, htime]
    rfl

/-- **Killing is not crashing.** If an exchange kills a process that is still running, and the wall
time in its report is no less than the time of its end, then an overrun of a cap is its only flag,
or else it is killed at the deadline and its flags say that it took too long. In no case do they say
that it crashed. -/
theorem judgeExit_of_killed {limits : Limits} {o : Outcome} (hkill : b.killFault = none)
    (hrun : runAlong b limits.wallTime caps killedBefore events = some r)
    (hresult : r.result = .ok o) (ht : t ∈ r.killTimes) (hrunning : RunningAt b killedBefore t)
    (hreport : ∀ time status, b.ending (r.firstKill killedBefore) = some (time, status) →
      .ofMillis time ≤ o.usage.wallTime) :
    let flags := judgeExit o.usage limits o.overflow.isSome
    (o.overflow.isSome = true ∧ flags.toList = [.outputLimit] ∨
      o.overflow = none ∧ deadlineOf (budget limits.wallTime) = some t ∧
        flags.contains .wallTimeLimit = true) ∧
    flags.contains .runtimeError = false := by
  intro flags
  obtain rfl := hrunning.not_killedBefore hkill
  obtain ⟨hnofault, usage, husage, rfl⟩ := result_eq_ok_iff.1 hresult
  obtain ⟨s, hoverrun⟩ | ⟨message, hfailed⟩ | ⟨hnone, hdeadline, hfirst⟩ := kill_cases hrun ht
  · have hflags : flags = Flags.empty.insert .outputLimit := by
      simp [flags, Pumped.outcome, hoverrun, Stop.overrun?, judgeExit]
    refine ⟨.inl ⟨by simp [Pumped.outcome, hoverrun, Stop.overrun?], ?_⟩, ?_⟩
    · rw [hflags]
      rfl
    · rw [hflags]
      rfl
  · exact absurd hfailed (hnofault message)
  · -- whoever is killed at the deadline has used up the wall time limit
    have hlong : limits.wallTime ≤ usage.wallTime := by
      refine Nat.le_trans (le_ofMillis_of_deadline hdeadline) (hreport t (.signaled killSignal) ?_)
      rw [hfirst]
      exact hrunning.ending
    have hflags : flags = judgeExit usage limits false := by
      simp [flags, Pumped.outcome, hnone]
    rw [hflags]
    refine ⟨.inr ⟨hnone, hdeadline, contains_judgeExit.2 hlong⟩, ?_⟩
    refine Bool.eq_false_iff.2 fun hcrash ↦ ?_
    obtain ⟨-, hunreached⟩ := contains_judgeExit.1 hcrash
    exact hunreached (.inl hlong)

/-- A process that closes its streams and then never exits. -/
def lingering : Behaviour where
  input := none
  output _ := some [(1, .ended)]
  exit := none
  status := .exited 0
  cpuTime := ⟨0⟩
  peakMemory := 0
  reportedWall := none
  killFault := none
  waitFault := none

/-- Everything that it does. -/
def lingeringOrder : List (Nat × Happening) :=
  [(0, .inputEnded .noPipe), (1, .output .stdout .ended), (1, .output .stderr .ended)]

theorem timeline_lingering : timeline lingering [] = lingeringOrder := by
  simp [timeline, lingering, feed, outputEvents, notLater, lingeringOrder]

/-- Limits of a second. -/
def oneSecond : Limits := .ofTime (.ofMillis 1000) 1000

/-- It is killed while it is reaped, half a second after its limit of a second. -/
theorem judgeExit_of_killed_lingering : ∃ r o,
    run lingering oneSecond.wallTime (fun _ ↦ 10) false [] = some r ∧
    r.result = .ok o ∧ r.killTimes = [1500] ∧
    (judgeExit o.usage oneSecond o.overflow.isSome).contains .wallTimeLimit = true ∧
    (judgeExit o.usage oneSecond o.overflow.isSome).contains .runtimeError = false := by
  obtain ⟨r, hrun, o, hresult, hnone, hend, hkills, hfirst⟩ : ∃ r,
      runAlong lingering oneSecond.wallTime (fun _ ↦ 10) false lingeringOrder = some r ∧
      ∃ o, r.result = .ok o ∧ o.overflow = none ∧ o.usage.wallTime = .ofMillis 1500 ∧
        r.killTimes = [1500] ∧ r.firstKill false = some 1500 :=
    ⟨_, rfl, _, rfl, rfl, rfl, by decide, by decide⟩
  have hrunning : RunningAt lingering false 1500 := fun e he ↦ by cases he
  have hreport : ∀ time status, lingering.ending (r.firstKill false) = some (time, status) →
      .ofMillis time ≤ o.usage.wallTime := by
    intro time status hends
    rw [hfirst, hrunning.ending] at hends
    cases hends
    rw [hend]
    exact Nat.le_refl _
  obtain ⟨⟨hsome, -⟩ | ⟨-, -, hlong⟩, hcrash⟩ :=
    judgeExit_of_killed rfl hrun hresult (by simp [hkills]) hrunning hreport
  · rw [hnone] at hsome
    cases hsome
  · refine ⟨r, o, ?_, hresult, hkills, hlong, hcrash⟩
    rw [run, timeline_lingering, hrun]

end ContestJudge.Exchange
