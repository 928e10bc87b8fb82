import ContestJudge.Exchange.Run

/-!
# How far the pump gets

What happens up to the end of a pump falls into two parts: the happenings that it took in, each in
time and none of them a reason to stop, and those that it did not get to. `PumpEnd` lists the ways
in which it can end between the two, and `exists_pumpEnd` says that each pump that ends does so in
one of them; the reasons to stop are listed by `Capture.StopsFor`. Everything about a pump is read
off this one decomposition, so that no later proof opens `pump` again.

With a deadline the pump always ends (`exists_pump`), and no later than that (`pump_time_le`),
whatever happens and in whatever order. Without one it ends only if what happens makes it end: a
list of happenings that runs out while a stream is still waited for has no end of the pump.

Single happenings are inverted once, kind by kind (`Capture.stopsFor_of_take`). The cases follow the
kinds of happenings, and for chunks whether they fit, which is where the cap comes in.
-/

namespace ContestJudge.Exchange

open Text (Bytes)

variable {caps : OutputStream → Nat} {deadline : Option Nat}

/-- Whether the pump still takes in what happens at some time. -/
def inTime (deadline : Option Nat) (time : Nat) : Bool := deadline.all (time ≤ ·)

@[simp] theorem inTime_none (time : Nat) : inTime none time = true := rfl

@[simp] theorem inTime_some {d time : Nat} : inTime (some d) time = true ↔ time ≤ d := by
  simp [inTime]

/-! ### One happening -/

namespace Capture

variable {c : Capture} {stream : OutputStream}

theorem take_of_closed (h : c.isOpen stream = false) (event : StreamEvent) :
    c.take caps (.output stream event) = (none, c) := by
  simp [take, h]

theorem take_ended (h : c.isOpen stream = true) :
    c.take caps (.output stream .ended) =
      (none, { c with isOpen := setStream c.isOpen stream false }) := by
  simp [take, h]

theorem take_failed (h : c.isOpen stream = true) (message : String) :
    c.take caps (.output stream (.failed message)) = (some (.failed message), c) := by
  simp [take, h]

/-- A chunk that fits is kept whole. -/
theorem take_data_of_le {bytes : Bytes} (h : c.isOpen stream = true)
    (hroom : bytes.length ≤ caps stream - (c.kept stream).length) :
    c.take caps (.output stream (.data bytes)) =
      (none, { c with kept := setStream c.kept stream (c.kept stream ++ bytes) }) := by
  simp [take, h, List.take_of_length_le hroom, Nat.not_lt.2 hroom]

/-- A chunk that does not fit is cut, and is a reason to stop. -/
theorem take_data_of_lt {bytes : Bytes} (h : c.isOpen stream = true)
    (hroom : caps stream - (c.kept stream).length < bytes.length) :
    c.take caps (.output stream (.data bytes)) =
      (some (.overrun stream), { c with
        kept := setStream c.kept stream
          (c.kept stream ++ bytes.take (caps stream - (c.kept stream).length)) }) := by
  simp [take, h, hroom]

/-- Reading a stream leaves the feeding alone. -/
theorem take_output_feeding (caps : OutputStream → Nat) (c : Capture) (stream : OutputStream)
    (event : StreamEvent) :
    (c.take caps (.output stream event)).2.received = c.received ∧
      (c.take caps (.output stream event)).2.inputEnd = c.inputEnd := by
  simp only [take]
  split
  · exact ⟨rfl, rfl⟩
  · cases event <;> exact ⟨rfl, rfl⟩

/-- **The reasons to stop**, with what is left of the capture. -/
inductive StopsFor (caps : OutputStream → Nat) (c : Capture) : Happening → Stop → Capture → Prop
  /-- The input cannot be written. -/
  | input {message} : StopsFor caps c (.inputFailed message) (.failed message) c
  /-- A stream cannot be read. -/
  | read {stream message} (opened : c.isOpen stream = true) :
      StopsFor caps c (.output stream (.failed message)) (.failed message) c
  /-- A chunk does not fit. -/
  | overrun {stream bytes} (opened : c.isOpen stream = true)
      (full : caps stream - (c.kept stream).length < bytes.length) :
      StopsFor caps c (.output stream (.data bytes)) (.overrun stream) { c with
        kept := setStream c.kept stream
          (c.kept stream ++ bytes.take (caps stream - (c.kept stream).length)) }

theorem stopsFor_of_take {happening : Happening} {why : Stop} {last : Capture}
    (h : c.take caps happening = (some why, last)) : StopsFor caps c happening why last := by
  cases happening with
  | fed bytes => cases congrArg Prod.fst h
  | inputEnded how => cases congrArg Prod.fst h
  | inputFailed message =>
    cases h
    exact .input
  | output stream event =>
    rcases hopen : c.isOpen stream with - | -
    · rw [take_of_closed hopen] at h
      cases h
    cases event with
    | data bytes =>
      rcases Nat.lt_or_ge (caps stream - (c.kept stream).length) bytes.length with hlt | hle
      · rw [take_data_of_lt hopen hlt] at h
        cases h
        exact .overrun hopen hlt
      · rw [take_data_of_le hopen hle] at h
        cases h
    | ended =>
      rw [take_ended hopen] at h
      cases h
    | failed message =>
      rw [take_failed hopen] at h
      cases h
      exact .read hopen

end Capture

/-! ### Many happenings -/

/-- Takes in one happening after the other; `none` once one of them is a reason to stop. -/
def Capture.takeAll (caps : OutputStream → Nat) :
    Capture → List (Nat × Happening) → Option Capture
  | c, [] => some c
  | c, (_, happening) :: rest =>
    match c.take caps happening with
    | (none, c) => takeAll caps c rest
    | (some _, _) => none

theorem Capture.takeAll_cons_of_none {c c' : Capture} {time : Nat} {happening : Happening}
    (h : c.take caps happening = (none, c')) (rest : List (Nat × Happening)) :
    c.takeAll caps ((time, happening) :: rest) = c'.takeAll caps rest := by
  rw [takeAll, h]

/-- When the last of some happenings took place, or else `now`. -/
def lastTime (now : Nat) : List (Nat × Happening) → Nat
  | [] => now
  | (time, _) :: rest => lastTime time rest

theorem lastTime_le {d now : Nat} {events : List (Nat × Happening)} (hnow : now ≤ d)
    (h : ∀ e ∈ events, e.1 ≤ d) : lastTime now events ≤ d := by
  induction events generalizing now with
  | nil => exact hnow
  | cons e rest ih =>
    obtain ⟨he, hrest⟩ := List.forall_mem_cons.1 h
    exact ih he hrest

/-- **How a pump ends** that has collected `c` by the time `now`, with happenings still to come. -/
inductive PumpEnd (caps : OutputStream → Nat) (deadline : Option Nat) (now : Nat) (c : Capture) :
    List (Nat × Happening) → Pumped → Prop
  /-- Nothing is left to wait for. -/
  | finished {after} (done : c.isDone = true) :
      PumpEnd caps deadline now c after ⟨now, .finished, c⟩
  /-- The deadline passes before anything else happens. -/
  | deadline {after d} (waiting : c.isDone = false) (bound : deadline = some d)
      (late : ∀ e ∈ after.head?, d < e.1) : PumpEnd caps deadline now c after ⟨d, .deadline, c⟩
  /-- The next happening is a reason to stop. -/
  | stopped {time happening after why last} (waiting : c.isDone = false)
      (prompt : inTime deadline time = true) (stop : c.take caps happening = (some why, last)) :
      PumpEnd caps deadline now c ((time, happening) :: after) ⟨time, why, last⟩

/-- **The decomposition of a pump**: what it took in, and how it ended then. -/
theorem exists_pumpEnd {now : Nat} {c : Capture} {events : List (Nat × Happening)} {p : Pumped}
    (h : pump caps deadline now c events = some p) :
    ∃ before after c', events = before ++ after ∧ (∀ e ∈ before, inTime deadline e.1 = true) ∧
      c.takeAll caps before = some c' ∧ PumpEnd caps deadline (lastTime now before) c' after p := by
  induction events generalizing now c with
  | nil =>
    refine ⟨[], [], c, rfl, by simp, rfl, ?_⟩
    rw [pump] at h
    split at h
    · next hdone =>
      obtain rfl := Option.some.inj h
      exact .finished hdone
    · next hdone =>
      obtain ⟨d, hd, rfl⟩ := Option.map_eq_some_iff.1 h
      exact .deadline (Bool.eq_false_iff.2 hdone) hd (by simp)
  | cons e rest ih =>
    obtain ⟨time, happening⟩ := e
    rw [pump] at h
    split at h
    · next hdone =>
      obtain rfl := Option.some.inj h
      exact ⟨[], _, c, rfl, by simp, rfl, .finished hdone⟩
    next hdone =>
    have hwaiting : c.isDone = false := Bool.eq_false_iff.2 hdone
    split at h
    · next hlate =>
      obtain ⟨d, hd, rfl⟩ := Option.map_eq_some_iff.1 h
      subst hd
      exact ⟨[], _, c, rfl, by simp, rfl, .deadline hwaiting rfl (by simpa using hlate)⟩
    next hlate =>
    have hprompt : inTime deadline time = true := by
      cases deadline <;> simp_all
    split at h
    · next why last hstop =>
      obtain rfl := Option.some.inj h
      exact ⟨[], _, c, rfl, by simp, rfl, .stopped hwaiting hprompt hstop⟩
    · next c₁ htake =>
      -- the happening is taken in, and the rest of the pump starts from it
      obtain ⟨before, after, c', rfl, hbefore, htakeAll, hend⟩ := ih h
      refine ⟨(time, happening) :: before, after, c', rfl, ?_, ?_, hend⟩
      · exact List.forall_mem_cons.2 ⟨hprompt, hbefore⟩
      · rw [Capture.takeAll_cons_of_none htake, htakeAll]

/-- With a deadline the pump ends. -/
theorem exists_pump (caps : OutputStream → Nat) (d now : Nat) (c : Capture)
    (events : List (Nat × Happening)) : ∃ p, pump caps (some d) now c events = some p := by
  induction events generalizing now c with
  | nil => rw [pump]; split <;> exact ⟨_, rfl⟩
  | cons e rest ih =>
    obtain ⟨time, happening⟩ := e
    rw [pump]
    split
    · exact ⟨_, rfl⟩
    split
    · exact ⟨_, rfl⟩
    split
    · exact ⟨_, rfl⟩
    · exact ih _ _

/-- No pump outlasts its deadline. -/
theorem pump_time_le {d now : Nat} {c : Capture} {events : List (Nat × Happening)} {p : Pumped}
    (hnow : now ≤ d) (h : pump caps (some d) now c events = some p) : p.time ≤ d := by
  obtain ⟨before, after, c', -, hbefore, -, hend⟩ := exists_pumpEnd h
  cases hend with
  | finished done => exact lastTime_le hnow fun e he ↦ inTime_some.1 (hbefore e he)
  | deadline waiting bound late =>
    obtain rfl := Option.some.inj bound
    exact Nat.le_refl _
  | stopped waiting prompt stop => exact inTime_some.1 prompt

/-- A pump that is stopped by the deadline stops at the deadline. -/
theorem pump_time_of_deadline {now : Nat} {c : Capture} {events : List (Nat × Happening)}
    {p : Pumped} (h : pump caps deadline now c events = some p) (hstop : p.stop = .deadline) :
    deadline = some p.time := by
  obtain ⟨before, after, c', -, -, -, hend⟩ := exists_pumpEnd h
  cases hend with
  | finished done => cases hstop
  | deadline waiting bound late => exact bound
  | stopped waiting prompt stop =>
    -- nothing that happens is itself a deadline
    cases Capture.stopsFor_of_take stop <;> cases hstop

end ContestJudge.Exchange
