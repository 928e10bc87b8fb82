import ContestJudge.Grading.Grader
import ContestJudge.Proofs.Exchange.Bounded

/-!
# How long it takes to judge a case

Judging a case is a launch and then an exchange, each with a budget of its own: the wall time limit
and the grace time. A launch is cut off when its budget is used up (`Arrival.exists_bound`); an
exchange ends by then (`Exchange.runAlong_time_le`), if its process can be killed and waited for. So
the judge never hangs on a case, whatever its grader makes of it (`Grader.exists_grade`).

The two conditions are told apart. A launch that never returns is given up, so nothing is asked of
it. But an exchange waits for a process that it has killed without a bound, so that killing and
waiting work is asked of every process that the sandbox launches (`Sandbox.Steady`).

Budgets are kept on a clock of whole milliseconds, which rounds their end up (`lastMilli`). So what
a case takes may be more than its two budgets by less than a millisecond each, and not only in
theory (`bound_after_budget`).
-/

namespace ContestJudge

open Text (Bytes)
open Exchange

variable {ε π : Type} {wallTime : Duration}

/-- The millisecond at which the budget of a launch or an exchange ends. -/
def lastMilli (wallTime : Duration) : Nat := (budget wallTime).ceilMillis

/-- Limits of whole milliseconds are not rounded. -/
theorem lastMilli_ofMillis {limit : Nat} (hclock : WithinClock (.ofMillis limit)) :
    lastMilli (.ofMillis limit) = limit + 500 := by
  have hbudget : budget (.ofMillis limit) = .ofMillis (limit + 500) := by
    rw [Duration.mk.injEq, nanoseconds_budget hclock, grace]
    simp only [Duration.nanoseconds_ofMillis]
    omega
  rw [lastMilli, hbudget, Duration.ceilMillis_ofMillis]

/-- A launch that is cut off ends by its deadline. -/
theorem Arrival.exists_cut (a : Arrival π) (span : Duration) (d : Nat) :
    ∃ started, a.cut span (some d) = some started ∧ started.time ≤ d := by
  rw [cut]
  rcases a.delay with - | delay
  · exact ⟨_, rfl, Nat.le_refl d⟩
  · refine ⟨_, rfl, ?_⟩
    split
    · assumption
    · exact Nat.le_refl d

/-- **A launch ends** within its budget, by itself or because it is given up. -/
theorem Arrival.exists_bound (a : Arrival π) (hclock : WithinClock wallTime) :
    ∃ started, a.bound wallTime = some started ∧ started.time ≤ lastMilli wallTime := by
  rw [bound, deadlineOf_of_withinClock hclock]
  exact a.exists_cut _ _

/-- A process that comes of a launch is the one that was launched. -/
theorem Arrival.result_of_bound {a : Arrival π} {started : Started π} {process : π}
    (h : a.bound wallTime = some started) (hok : started.result = .ok process) :
    a.result = .ok process := by
  rw [bound] at h
  generalize deadlineOf (budget wallTime) = deadline at h
  rcases hdelay : a.delay with - | delay <;> rcases deadline with - | d <;>
    simp only [cut, hdelay, Option.map_none, Option.map_some, Option.some.injEq, reduceCtorEq] at h
  · subst h
    cases hok
  · subst h
    exact hok
  · -- a launch that is given up yields no process
    split at h <;> subst h
    · exact hok
    · cases hok

/-- Each process that a sandbox launches from a world can be killed and waited for. -/
def Sandbox.Steady (s : Sandbox ε π) (w : World ε) : Prop :=
  ∀ spec process input, (s.launch spec w).1.result = .ok process →
    (s.engage process input (s.launch spec w).2).1.killFault = none ∧
      (s.engage process input (s.launch spec w).2).1.waitFault = none

namespace Grader

variable {g : Grader} {s : Sandbox ε π} {c : Case} {w : World ε}

/-- The exchange of a case takes no more than its budget. -/
theorem exists_interact {spec : LaunchSpec} {process : π} (time : Nat)
    (hclock : WithinClock spec.limits.wallTime)
    (hkill : ∀ input, (s.engage process input w).1.killFault = none)
    (hwait : ∀ input, (s.engage process input w).1.waitFault = none) :
    ∃ graded w', g.interact s spec process time c w = some (graded, w') ∧
      graded.elapsed ≤ time + lastMilli spec.limits.wallTime := by
  rw [interact]
  rcases g.load w.files c with ⟨fault | input, c'⟩
  · exact ⟨_, _, rfl, Nat.le_add_right _ _⟩
  obtain ⟨r, hrun⟩ := exists_runAlong (hkill input) hclock (g.caps c') false
    (timeline (s.engage process input w).1 input)
  have htime : r.time ≤ lastMilli spec.limits.wallTime :=
    runAlong_time_le (hkill input) (hwait input) (deadlineOf_of_withinClock hclock) hrun
  have hsum : time + r.time ≤ time + lastMilli spec.limits.wallTime := Nat.add_le_add_left htime _
  simp only [run, hrun, Option.bind_eq_bind, Option.bind_some]
  rcases r.result with fault | outcome
  · exact ⟨_, _, rfl, hsum⟩
  · exact ⟨_, _, rfl, hsum⟩

/-- **A case is judged** within two budgets. -/
theorem exists_grade (hclock : WithinClock wallTime) (hsteady : s.Steady w)
    (hlimit : ∀ spec c', g.prepare w.files c = (.ok spec, c') → spec.limits.wallTime = wallTime) :
    ∃ graded w', g.grade s c w = some (graded, w') ∧ graded.elapsed ≤ 2 * lastMilli wallTime := by
  rw [grade]
  rcases hprepare : g.prepare w.files c with ⟨fault | spec, c'⟩
  · exact ⟨_, _, rfl, Nat.zero_le _⟩
  obtain rfl := hlimit spec c' hprepare
  obtain ⟨started, hstarted, htime⟩ := (s.launch spec w).1.exists_bound hclock
  simp only [hstarted, Option.bind_eq_bind, Option.bind_some]
  rcases hresult : started.result with fault | process
  · exact ⟨_, _, rfl, Nat.le_trans htime (Nat.le_mul_of_pos_left _ (by decide))⟩
  · have hprocess := Arrival.result_of_bound hstarted hresult
    obtain ⟨graded, w', hgraded, helapsed⟩ := exists_interact started.time hclock
      (fun input ↦ (hsteady spec process input hprocess).1)
      (fun input ↦ (hsteady spec process input hprocess).2)
    refine ⟨graded, w', hgraded, Nat.le_trans helapsed ?_⟩
    omega

end Grader

/-- **The judge never hangs.** Under a wall time limit that the clock can hold, launches, exchanges
and whole cases take no longer than the limit and the grace time together, rounded up to the clock's
next millisecond, or twice that for a case; and an exchange leaves no process behind. -/
theorem keeps_deadline (hclock : WithinClock wallTime) :
    (∀ t, lastMilli wallTime ≤ t ↔ wallTime.nanoseconds + grace.nanoseconds ≤ t * 1000000) ∧
    (∀ {π : Type} (a : Arrival π),
      ∃ started, a.bound wallTime = some started ∧ started.time ≤ lastMilli wallTime) ∧
    (∀ b : Behaviour, b.killFault = none → b.waitFault = none → ∀ caps killedBefore events,
      ∃ r, runAlong b wallTime caps killedBefore events = some r ∧ r.time ≤ lastMilli wallTime ∧
        ∃ time status, time ≤ r.time ∧ r.reaped.result = .ok (b.usage time status) ∧
          (b.exit = some time ∧ status = b.status ∨
            r.firstKill killedBefore = some time ∧ status = .signaled killSignal)) ∧
    ∀ {ε π : Type} (g : Grader) (s : Sandbox ε π) (c : Case) (w : World ε), s.Steady w →
      (∀ spec c', g.prepare w.files c = (.ok spec, c') → spec.limits.wallTime = wallTime) →
      ∃ graded w', g.grade s c w = some (graded, w') ∧ graded.elapsed ≤ 2 * lastMilli wallTime := by
  refine ⟨fun t ↦ ?_, fun a ↦ a.exists_bound hclock,
    fun b hkill hwait caps killedBefore events ↦ ?_,
    fun g s c w hsteady hlimit ↦ Grader.exists_grade hclock hsteady hlimit⟩
  · rw [lastMilli, Duration.ceilMillis_le_iff, Duration.le_iff, nanoseconds_budget hclock,
      Duration.nanoseconds_ofMillis]
  · obtain ⟨r, hrun⟩ := exists_runAlong hkill hclock caps killedBefore events
    obtain ⟨time, status, hends, hle, hresult⟩ :=
      runAlong_ending hrun (faultOf_of_waitFault hwait r.lastWait)
    rw [killing_of_killFault hkill, r.head?_attempts] at hends
    refine ⟨r, hrun, runAlong_time_le hkill hwait (deadlineOf_of_withinClock hclock) hrun,
      time, status, hle, hresult, ?_⟩
    rcases ending_eq_some_iff.1 hends with ⟨hexit, hstatus, -⟩ | ⟨hkilled, hstatus, -⟩
    · exact .inl ⟨hexit, hstatus⟩
    · exact .inr ⟨hkilled, hstatus⟩

/-- A launch that takes forever is given up after a second and a half, if the limit is a second. -/
theorem keeps_deadline_oneSecond : ∃ started,
    (⟨none, .ok ()⟩ : Arrival Unit).bound (.ofMillis 1000) = some started ∧
      started.time ≤ 1500 := by
  have hclock : WithinClock (.ofMillis 1000) := by decide
  obtain ⟨-, hlaunch, -, -⟩ := keeps_deadline hclock
  rw [lastMilli_ofMillis hclock] at hlaunch
  exact hlaunch ⟨none, .ok ()⟩

/-- **A launch may outlast the limit and the grace time**, within the last millisecond. -/
theorem bound_after_budget : WithinClock ⟨500000⟩ ∧ ∃ started,
    (⟨some 501, .ok ()⟩ : Arrival Unit).bound ⟨500000⟩ = some started ∧
      ¬Duration.ofMillis started.time ≤ budget ⟨500000⟩ := by
  have hdeadline : deadlineOf (budget ⟨500000⟩) = some 501 := by decide
  refine ⟨by decide, ⟨501, .ok ()⟩, ?_, by decide⟩
  rw [Arrival.bound, hdeadline]
  rfl

end ContestJudge
