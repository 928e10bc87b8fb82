import ContestJudge.Proofs.Exchange.Bounded

/-!
# Exchanges that never end

The pump and the first wait for a process are bounded by the deadline, but the wait after the kill
at the deadline is not. So an exchange with a process that cannot be killed goes on for as long as
the process does.

* `exists_reap_iff_of_le` — which reapings end at all: the first wait fails in time, the second one
  fails at some time, the process exits, or one of the attempts at killing it works;
* `runAlong_completion` — so which exchanges end, and when they do, if no attempt at killing the
  process works;
* `refusing_never_completes` — a process with which no exchange ends.

Nothing but `exists_reap_iff` is needed about reaping, and about the pump nothing but that it ends
by the deadline.

An exchange that does not end has no run, so that it does not is an equation with `none`. The run is
computed from a whole timetable at once: there is no fuel that could end it, and what is missing is
the second wait, which completes at no time.
-/

namespace ContestJudge.Exchange

variable {b : Behaviour} {wallTime : Duration} {caps : OutputStream → Nat} {killedBefore : Bool}
  {events : List (Nat × Happening)} {attempts : List Nat} {d now : Nat}

/-- **Which reapings end** that have a deadline and begin by then. -/
theorem exists_reap_iff_of_le (hnow : now ≤ d) : (∃ z, reap b (some d) now attempts = some z) ↔
    (∃ fault, b.faultOf 0 = some fault ∧ fault.1 ≤ d) ∨ b.faultOf 1 ≠ none ∨ b.exit ≠ none ∨
      ∃ n ≤ attempts.length, b.resists n = false := by
  rw [exists_reap_iff, exists_waited_iff, killing_ne_none_iff, Nat.max_eq_right hnow]
  simp only [List.length_append, List.length_singleton, Nat.lt_succ_iff]
  constructor
  · rintro (⟨⟨time, result⟩, hwaits, hle⟩ | hagain)
    · rcases waited_eq_some_iff.1 hwaits with ⟨message, hfault, -⟩ | ⟨-, status, hends, -⟩
      · exact .inl ⟨_, hfault, hle⟩
      · rcases exists_ending_iff.1 ⟨_, hends⟩ with hexit | hkilled
        · exact .inr (.inr (.inl hexit))
        · obtain ⟨n, hn, hworks⟩ := killing_ne_none_iff.1 hkilled
          exact .inr (.inr (.inr ⟨n, Nat.le_of_lt hn, hworks⟩))
    · exact .inr hagain
  · rintro (⟨⟨time, message⟩, hfault, hle⟩ | hagain)
    · exact .inl ⟨_, waited_eq_some_iff.2 (.inl ⟨message, hfault, rfl⟩), hle⟩
    · exact .inr hagain

/-- A process that resists each attempt at killing it is waited for until it exits. -/
theorem reap_time_of_resists (hkill : ∀ n, b.resists n = true) (hwait : b.waitFault = none)
    {exit : Nat} (hexit : b.exit = some exit) {deadline : Option Nat} {z : Reaped}
    (h : reap b deadline now attempts = some z) : z.time = max now exit := by
  have hwaited : ∀ wait attempts time result, b.waited wait attempts = some (time, result) →
      time = exit := by
    intro wait attempts time result hwaits
    rcases waited_eq_some_iff.1 hwaits with ⟨message, hfault, -⟩ | ⟨-, status, hends, -⟩
    · rw [faultOf_of_waitFault hwait] at hfault
      cases hfault
    · rw [killing_eq_none_iff.2 fun n _ ↦ hkill n] at hends
      rcases ending_eq_some_iff.1 hends with ⟨hexit', -, -⟩ | ⟨hkilled, -, -⟩
      · exact Option.some.inj (hexit'.symm.trans hexit)
      · cases hkilled
  cases reap_eq_some_iff.1 h with
  | @prompt time result waits inTime => rw [hwaited _ _ _ _ waits]
  | @late d time result bound pending waits =>
    -- the kill at the deadline changes nothing about the end that was waited for
    obtain rfl := hwaited _ _ _ _ waits
    obtain ⟨⟨first, result'⟩, hfirst⟩ : ∃ e, b.waited 0 attempts = some e :=
      exists_waited_iff.2 (.inr (.inl (by simp [hexit])))
    have hlate : max now d < first := pending _ hfirst
    rw [hwaited _ _ _ _ hfirst] at hlate
    show max (max now d) time = max now time
    omega

/-- **When an exchange ends.** Its pump keeps the deadline. After that it ends if the first wait
fails by the deadline or the second one at some time, if the process exits, or if one of the attempts
at killing it works, the one at the deadline included. So a process that can be waited for and
resists each attempt is waited for until it exits: the exchange ends only then, and never if the
process does not exit. -/
theorem runAlong_completion (hclock : WithinClock wallTime) (b : Behaviour)
    (caps : OutputStream → Nat) (killedBefore : Bool) (events : List (Nat × Happening)) :
    let deadline := (budget wallTime).ceilMillis
    ∃ p, pump caps (some deadline) 0 (.start b) events = some p ∧ p.time ≤ deadline ∧
      ((∃ r, runAlong b wallTime caps killedBefore events = some r) ↔
        (∃ fault, b.faultOf 0 = some fault ∧ fault.1 ≤ deadline) ∨ b.faultOf 1 ≠ none ∨
          b.exit ≠ none ∨
          ∃ n ≤ (attemptsBefore killedBefore p.kill).length, b.resists n = false) ∧
      ∀ r, runAlong b wallTime caps killedBefore events = some r → r.pumped = p ∧
        ∀ exit, b.waitFault = none → (∀ n, b.resists n = true) → b.exit = some exit →
          r.time = max p.time exit := by
  intro deadline
  obtain ⟨p, hpump⟩ := exists_pump caps deadline 0 (.start b) events
  have hpumped : p.time ≤ deadline := pump_time_le (Nat.zero_le _) hpump
  have hruns : ∀ r, runAlong b wallTime caps killedBefore events = some r → r.pumped = p := by
    intro r hrun
    obtain ⟨hpump', -⟩ := runAlong_eq_some_iff.1 hrun
    rw [deadlineOf_of_withinClock hclock] at hpump'
    exact Option.some.inj (hpump'.symm.trans hpump)
  refine ⟨p, hpump, hpumped, ?_, fun r hrun ↦ ⟨hruns r hrun, fun exit hwait hkill hexit ↦ ?_⟩⟩
  · rw [← exists_reap_iff_of_le hpumped]
    constructor
    · rintro ⟨r, hrun⟩
      obtain ⟨-, hkilled, -, hreap⟩ := runAlong_eq_some_iff.1 hrun
      rw [deadlineOf_of_withinClock hclock, hkilled, hruns r hrun] at hreap
      exact ⟨_, hreap⟩
    · rintro ⟨z, hreap⟩
      rw [← deadlineOf_of_withinClock hclock] at hpump hreap
      exact ⟨_, Option.bind_eq_some_iff.2 ⟨p, hpump, Option.bind_eq_some_iff.2 ⟨z, hreap, rfl⟩⟩⟩
  · obtain ⟨-, -, -, hreap⟩ := runAlong_eq_some_iff.1 hrun
    rw [← hruns r hrun]
    exact reap_time_of_resists hkill hwait hexit hreap

/-- A process that cannot be killed and never does anything. -/
def refusing (exit : Option Nat) : Behaviour where
  input := none
  output _ := some []
  exit := exit
  status := .exited 0
  cpuTime := ⟨0⟩
  peakMemory := 0
  reportedWall := none
  killFault := some "Operation not permitted"
  waitFault := none

theorem resists_refusing (exit : Option Nat) (attempt : Nat) :
    (refusing exit).resists attempt = true := rfl

/-- Under a limit of a second, an exchange with a process that exits after an hour lasts an hour. -/
theorem runAlong_completion_refusing : ∃ r,
    runAlong (refusing (some 3600000)) (.ofMillis 1000) (fun _ ↦ 0) false [] = some r ∧
      r.time = 3600000 := by
  have hclock : WithinClock (.ofMillis 1000) := by decide
  obtain ⟨p, -, hpumped, hends, hruns⟩ :=
    runAlong_completion hclock (refusing (some 3600000)) (fun _ ↦ 0) false []
  obtain ⟨r, hrun⟩ := hends.2 (.inr (.inr (.inl (by decide))))
  obtain ⟨-, htime⟩ := hruns r hrun
  have hdeadline : (budget (.ofMillis 1000)).ceilMillis = 1500 := by decide
  rw [hdeadline] at hpumped
  refine ⟨r, hrun, (htime 3600000 rfl (resists_refusing _) rfl).trans ?_⟩
  omega

/-- **An exchange may never end**, whatever its input and its caps: it waits without a bound for a
process that refuses to be killed. -/
theorem refusing_never_completes : WithinClock (.ofMillis 1000) ∧
    ∀ caps killedBefore input,
      run (refusing none) (.ofMillis 1000) caps killedBefore input = none := by
  have hclock : WithinClock (.ofMillis 1000) := by decide
  refine ⟨hclock, fun caps killedBefore input ↦ Option.eq_none_iff_forall_ne_some.2 fun r hrun ↦ ?_⟩
  obtain ⟨hpump, -, -, hreap⟩ := runAlong_eq_some_iff.1 hrun
  rw [deadlineOf_of_withinClock hclock] at hpump hreap
  have hpumped := pump_time_le (Nat.zero_le _) hpump
  rcases (exists_reap_iff_of_le hpumped).1 ⟨_, hreap⟩ with ⟨fault, hfault, -⟩ | hfault | hexit | hkill
  · rw [faultOf_of_waitFault rfl] at hfault
    cases hfault
  · exact hfault (faultOf_of_waitFault rfl 1)
  · exact hexit rfl
  · obtain ⟨n, -, hworks⟩ := hkill
    rw [resists_refusing] at hworks
    cases hworks

end ContestJudge.Exchange
