import ContestJudge.Exchange.Run

/-!
# How a process is reaped

Waiting for a process can go in two ways, listed by `ReapEnd`: the first wait completes in time, or
it is pending up to the deadline, where the process is killed and waited for again.
`reap_eq_some_iff` says that these are all of them. A whole exchange is a pump and then a reaping;
`runAlong_eq_some_iff` takes it apart.

What becomes of the process itself is said apart from that. Of several attempts at killing it the
first that works counts (`killing_concat`), and its end is decided by whichever of its exit and that
kill comes first (`ending_eq_some_iff`). A wait that works reports just this end, and a wait that
fails reports nothing (`waited_eq_some_iff`). So `exists_waited` is all that has to be known of a
reaping: its result is that of its last wait, after all attempts that were made by then.

## Faults have a time

A wait that is going to fail is pending until it does, like one for a process that has not ended. So
it may be pending at the deadline, where the process is killed all the same, and then the second
wait counts, with a fault of its own or none. An attempt at killing may fail and a later one work;
attempts are counted over the pump and the reaping together. Where a result needs that neither
fails, it says so by `killFault` and `waitFault`, and all that it needs then is
`killing_of_killFault` and `faultOf_of_waitFault`.
-/

namespace ContestJudge.Exchange

variable {b : Behaviour} {deadline : Option Nat} {now : Nat} {killed : Option Nat}
  {attempts : List Nat} {wait : Nat}

/-! ### Attempts at killing a process -/

theorem resists_of_killFault (hkill : b.killFault = none) (attempt : Nat) :
    b.resists attempt = false := by
  rw [Behaviour.resists, hkill]
  rfl

/-- **The first attempt that works counts**, so another one matters only if none did before. -/
theorem killing_concat (attempts : List Nat) (time : Nat) :
    b.killing (attempts ++ [time]) =
      (b.killing attempts).or (if b.resists attempts.length then none else some time) := by
  rw [Behaviour.killing, List.zipIdx_append, List.find?_append, Option.map_or, ← Behaviour.killing]
  cases hresists : b.resists attempts.length <;> simp [hresists]

/-- If killing works, the first attempt counts. -/
theorem killing_of_killFault (hkill : b.killFault = none) (attempts : List Nat) :
    b.killing attempts = attempts.head? := by
  rcases attempts with - | ⟨time, later⟩
  · rfl
  · simp [Behaviour.killing, List.zipIdx_cons, resists_of_killFault hkill]

/-- A process is left alive by attempts none of which works. -/
theorem killing_eq_none_iff :
    b.killing attempts = none ↔ ∀ n < attempts.length, b.resists n = true := by
  rw [Behaviour.killing, Option.map_eq_none_iff, List.find?_eq_none]
  constructor
  · intro h n hn
    have hmem : (attempts[n], n) ∈ attempts.zipIdx :=
      List.mem_zipIdx_iff_getElem?.2 (List.getElem?_eq_getElem hn)
    simpa using h _ hmem
  · rintro h ⟨time, n⟩ hmem
    obtain ⟨hn, -⟩ := List.getElem?_eq_some_iff.1 (List.mem_zipIdx_iff_getElem?.1 hmem)
    simpa using h n hn

theorem killing_ne_none_iff :
    b.killing attempts ≠ none ↔ ∃ n < attempts.length, b.resists n = false := by
  simp [killing_eq_none_iff]

/-! ### The end of a process -/

/-- **Exit or kill, whichever comes first**; who exits at the time of a kill has exited. -/
theorem ending_eq_some_iff {time : Nat} {status : ExitStatus} :
    b.ending killed = some (time, status) ↔
      (b.exit = some time ∧ status = b.status ∧ ∀ k ∈ killed, time ≤ k) ∨
      (killed = some time ∧ status = .signaled killSignal ∧ ∀ e ∈ b.exit, time < e) := by
  unfold Behaviour.ending
  rcases hexit : b.exit with - | exit <;> rcases killed with - | kill
  · simp
  · simp [eq_comm]
  · simp [eq_comm]
  · rcases Nat.lt_or_ge kill exit with hlt | hle
    · simp [Nat.not_le.2 hlt, eq_comm]
      grind
    · simp [hle, eq_comm]
      grind

/-- A process that is killed ends, and no later than that. -/
theorem exists_ending_of_killed (b : Behaviour) (kill : Nat) :
    ∃ time status, b.ending (some kill) = some (time, status) ∧ time ≤ kill := by
  rcases hexit : b.exit with - | exit
  · exact ⟨kill, _, ending_eq_some_iff.2 (.inr ⟨rfl, rfl, by simp [hexit]⟩), Nat.le_refl _⟩
  rcases Nat.lt_or_ge kill exit with hlt | hle
  · exact ⟨kill, _, ending_eq_some_iff.2 (.inr ⟨rfl, rfl, by simpa [hexit]⟩), Nat.le_refl _⟩
  · exact ⟨exit, _, ending_eq_some_iff.2 (.inl ⟨hexit, rfl, by simpa⟩), hle⟩

/-! ### One wait -/

theorem faultOf_of_waitFault (hwait : b.waitFault = none) (wait : Nat) : b.faultOf wait = none := by
  rw [Behaviour.faultOf, hwait]
  cases b.waitFails wait <;> rfl

/-- **How a wait completes**: it fails, or reports how the process ended. -/
theorem waited_eq_some_iff {time : Nat} {result : Except String Usage} :
    b.waited wait attempts = some (time, result) ↔
      (∃ message, b.faultOf wait = some (time, message) ∧ result = .error message) ∨
      b.faultOf wait = none ∧ ∃ status, b.ending (b.killing attempts) = some (time, status) ∧
        result = .ok (b.usage time status) := by
  unfold Behaviour.waited
  rcases b.faultOf wait with - | ⟨fails, message⟩
  · simp only [reduceCtorEq, false_and, exists_false, true_and, false_or, Option.map_eq_some_iff,
      Prod.mk.injEq]
    constructor
    · rintro ⟨⟨time, status⟩, hends, rfl, rfl⟩
      exact ⟨status, hends, rfl⟩
    · rintro ⟨status, hends, rfl⟩
      exact ⟨(time, status), hends, rfl, rfl⟩
  · simp only [Option.some.injEq, Prod.mk.injEq, reduceCtorEq, false_and, or_false]
    constructor
    · rintro ⟨rfl, rfl⟩
      exact ⟨message, ⟨rfl, rfl⟩, rfl⟩
    · rintro ⟨message, ⟨rfl, rfl⟩, rfl⟩
      exact ⟨rfl, rfl⟩

/-- A process ends that exits or is killed. -/
theorem exists_ending_iff : (∃ e, b.ending killed = some e) ↔ b.exit ≠ none ∨ killed ≠ none := by
  unfold Behaviour.ending
  rcases b.exit with - | exit <;> rcases killed with - | kill
  · simp
  · simp
  · simp
  · refine iff_of_true ?_ (.inl nofun)
    dsimp only
    split <;> exact ⟨_, rfl⟩

/-- A wait completes that fails, or is for a process that ends. -/
theorem exists_waited_iff : (∃ e, b.waited wait attempts = some e) ↔
    b.faultOf wait ≠ none ∨ b.exit ≠ none ∨ b.killing attempts ≠ none := by
  rw [← exists_ending_iff, Behaviour.waited]
  rcases b.faultOf wait with - | fault
  · simp only [ne_eq, not_true_eq_false, false_or, Option.map_eq_some_iff]
    constructor
    · rintro ⟨-, e, hends, -⟩
      exact ⟨e, hends⟩
    · rintro ⟨e, hends⟩
      exact ⟨_, e, hends, rfl⟩
  · exact iff_of_true ⟨_, rfl⟩ (.inl nofun)

/-! ### Waiting up to the deadline -/

/-- **How a reaping ends** that begins at the time `now`, after some attempts at killing the process.
-/
inductive ReapEnd (b : Behaviour) (deadline : Option Nat) (now : Nat) (attempts : List Nat) :
    Reaped → Prop
  /-- The first wait completes before the deadline. -/
  | prompt {time result} (waits : b.waited 0 attempts = some (time, result))
      (inTime : ∀ d ∈ deadline, time ≤ max now d) :
      ReapEnd b deadline now attempts ⟨max now time, none, result⟩
  /-- It is pending at the deadline. The process is killed there and waited for again. -/
  | late {d time result} (bound : deadline = some d)
      (pending : ∀ e ∈ b.waited 0 attempts, max now d < e.1)
      (waits : b.waited 1 (attempts ++ [max now d]) = some (time, result)) :
      ReapEnd b deadline now attempts ⟨max (max now d) time, some (max now d), result⟩

theorem reap_eq_some_iff {z : Reaped} :
    reap b deadline now attempts = some z ↔ ReapEnd b deadline now attempts z := by
  constructor
  · intro h
    unfold reap at h
    rcases hwaits : b.waited 0 attempts with - | ⟨time, result⟩ <;> rcases deadline with - | d
    · simp [hwaits] at h
    · simp only [hwaits, Option.map_none, reap.killAt, Option.map_eq_some_iff] at h
      obtain ⟨⟨time, result⟩, hagain, rfl⟩ := h
      exact .late rfl (by simp [hwaits]) hagain
    · simp only [hwaits, Option.map_some, Option.some.injEq] at h
      subst h
      exact .prompt hwaits (by simp)
    · simp only [hwaits, Option.map_some] at h
      split at h
      · next hprompt =>
        obtain rfl := Option.some.inj h
        refine .prompt hwaits fun d' hd' ↦ ?_
        obtain rfl := Option.some.inj hd'
        omega
      · next hlate =>
        simp only [reap.killAt, Option.map_eq_some_iff] at h
        obtain ⟨⟨time', result'⟩, hagain, rfl⟩ := h
        refine .late rfl (fun e he ↦ ?_) hagain
        obtain rfl : (time, result) = e := Option.some.inj (hwaits.symm.trans he)
        show max now d < time
        omega
  · intro h
    cases h with
    | @prompt time result waits inTime =>
      rcases deadline with - | d
      · simp [reap, waits]
      · have hle : time ≤ max now d := inTime d rfl
        have hprompt : max now time ≤ max now d := by omega
        simp [reap, waits, hprompt]
    | @late d time result bound pending waits =>
      subst bound
      rcases hfirst : b.waited 0 attempts with - | ⟨time', result'⟩
      · simp [reap, hfirst, reap.killAt, waits]
      · have hlate : max now d < time' := pending (time', result') hfirst
        have hnot : ¬max now time' ≤ max now d := by omega
        simp [reap, hfirst, hnot, reap.killAt, waits]

/-- A reaping that is bounded ends if its first wait completes by the deadline, or its second one
does at all. -/
theorem exists_reap_iff {d : Nat} : (∃ z, reap b (some d) now attempts = some z) ↔
    (∃ e, b.waited 0 attempts = some e ∧ e.1 ≤ max now d) ∨
      ∃ e, b.waited 1 (attempts ++ [max now d]) = some e := by
  constructor
  · rintro ⟨z, h⟩
    cases reap_eq_some_iff.1 h with
    | @prompt time result waits inTime => exact .inl ⟨(time, result), waits, inTime d rfl⟩
    | @late d' time result bound pending waits =>
      cases bound
      exact .inr ⟨_, waits⟩
  · intro h
    by_cases hprompt : ∃ e, b.waited 0 attempts = some e ∧ e.1 ≤ max now d
    · obtain ⟨⟨time, result⟩, hwaits, hle⟩ := hprompt
      refine ⟨_, reap_eq_some_iff.2 (.prompt hwaits fun d' hd' ↦ ?_)⟩
      cases hd'
      exact hle
    · obtain ⟨⟨time, result⟩, hwaits⟩ := h.resolve_left hprompt
      refine ⟨_, reap_eq_some_iff.2 (.late rfl (fun e he ↦ ?_) hwaits)⟩
      exact Nat.lt_of_not_le fun hle ↦ hprompt ⟨e, he, hle⟩

/-- Where killing and waiting work, a reaping with a deadline ends. -/
theorem exists_reap (hkill : b.killFault = none) (d now : Nat) (attempts : List Nat) :
    ∃ z, reap b (some d) now attempts = some z := by
  refine exists_reap_iff.2 (.inr (exists_waited_iff.2 (.inr (.inr ?_))))
  rw [killing_of_killFault hkill]
  simp

/-- Which wait of a reaping was its last: the second one, if the process was killed on the way. -/
def Reaped.lastWait (z : Reaped) : Nat := if z.killed.isSome then 1 else 0

/-- **What a reaping results in**: what its last wait does, after all attempts at killing the process.
-/
theorem exists_waited {z : Reaped} (h : reap b deadline now attempts = some z) :
    ∃ time, b.waited z.lastWait (attempts ++ z.killed.toList) = some (time, z.result) ∧
      time ≤ z.time := by
  cases reap_eq_some_iff.1 h with
  | @prompt time result waits inTime =>
    refine ⟨time, ?_, Nat.le_max_right _ _⟩
    rw [Option.toList_none, List.append_nil]
    exact waits
  | @late d time result bound pending waits => exact ⟨time, waits, Nat.le_max_right _ _⟩

/-! ### A whole exchange -/

theorem Pumped.kill_of_finished {p : Pumped} (h : p.stop = .finished) : p.kill = none := if_pos h

theorem Pumped.kill_of_ne_finished {p : Pumped} (h : p.stop ≠ .finished) : p.kill = some p.time :=
  if_neg h

/-- **An exchange is a pump and then a reaping**, with a kill between them unless the pump finished.
-/
theorem runAlong_eq_some_iff {wallTime : Duration} {caps : OutputStream → Nat} {killedBefore : Bool}
    {events : List (Nat × Happening)} {r : Run} :
    runAlong b wallTime caps killedBefore events = some r ↔
      pump caps (deadlineOf (budget wallTime)) 0 (.start b) events = some r.pumped ∧
      r.killed = r.pumped.kill ∧
      r.fed = b.input.map (fun _ ↦ r.pumped.capture.received) ∧
      reap b (deadlineOf (budget wallTime)) r.pumped.time (attemptsBefore killedBefore r.killed) =
        some r.reaped := by
  constructor
  · intro h
    obtain ⟨pumped, hpump, h⟩ := Option.bind_eq_some_iff.1 h
    obtain ⟨reaped, hreap, h⟩ := Option.bind_eq_some_iff.1 h
    obtain rfl := Option.some.inj h
    exact ⟨hpump, rfl, rfl, hreap⟩
  · rintro ⟨hpump, hkilled, hfed, hreap⟩
    rw [hkilled] at hreap
    refine Option.bind_eq_some_iff.2 ⟨_, hpump, Option.bind_eq_some_iff.2 ⟨_, hreap, ?_⟩⟩
    rw [← hfed, ← hkilled]
    rfl

/-- An exchange has an outcome if its process was reaped and nothing failed on the way. -/
theorem result_eq_ok_iff {r : Run} {o : Outcome} :
    r.result = .ok o ↔
      (∀ message, r.pumped.stop ≠ .failed message) ∧
        ∃ usage, r.reaped.result = .ok usage ∧ r.pumped.outcome usage = o := by
  unfold Run.result Pumped.result
  rcases r.reaped.result with message | usage
  · simp
  · rcases hstop : r.pumped.stop with - | stream | message | - <;> simp

end ContestJudge.Exchange
