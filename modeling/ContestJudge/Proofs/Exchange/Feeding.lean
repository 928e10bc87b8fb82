import ContestJudge.Proofs.Exchange.Reaping
import ContestJudge.Proofs.Exchange.Reasons

/-!
# What a process gets of its input

The input of a process is written while both of its streams are read. Whatever is read in between, a
process never gets anything but the input from its beginning on, and an exchange that is not cut
short leaves none of it out on its own account: only the process can refuse the rest.

* `takenIn` — what the process took in some happenings; along an arrival order it is a prefix of the
  input at every moment (`ArrivalOrder.takenIn_prefix`);
* `Served` — the ways in which feeding comes to a good end, said of the answers of the process
  alone, and `feed_served`, which finds one of them at the end of each feeding;
* `ArrivalOrder.serves_input` — what an exchange says of its input.

The streams do not come into this: reading them takes nothing (`takenIn_filter`), so along any
arrival order the process takes what it takes of the feeding by itself (`ArrivalOrder.takenIn_eq`).
What feeding does is shown along the ways in which it can go (`FeedsFrom`), by induction over the
writes.

That the pump waits for the feeding is what makes an exchange without an overrun serve its input. A
pump is done only when the feeding has ended (`Capture.isDone_iff`), and an end that it has seen
came after all that was taken (`ArrivalOrder.takenIn_eq_nil`).
-/

namespace ContestJudge.Exchange

open Text (Bytes)

variable {b : Behaviour} {caps : OutputStream → Nat} {input : Bytes}
  {events before after : List (Nat × Happening)} {how : InputEnd}

/-! ### What is taken -/

/-- The bytes that a process takes in a happening. -/
def Happening.taken : Happening → Bytes
  | .fed bytes => bytes
  | _ => []

/-- **The bytes that a process takes** in some happenings. -/
def takenIn (events : List (Nat × Happening)) : Bytes := events.flatMap fun e ↦ e.2.taken

theorem takenIn_append (before after : List (Nat × Happening)) :
    takenIn (before ++ after) = takenIn before ++ takenIn after :=
  List.flatMap_append

/-- Reads from a stream take nothing. -/
theorem takenIn_filter (events : List (Nat × Happening)) :
    takenIn (events.filter fun e ↦ e.2.stream? = none) = takenIn events := by
  induction events with
  | nil => rfl
  | cons e rest ih =>
    obtain ⟨time, happening⟩ := e
    rw [List.filter_cons]
    cases happening with
    | output stream event => exact ih
    | fed bytes => exact congrArg (bytes ++ ·) ih
    | inputEnded how => exact ih
    | inputFailed message => exact ih

namespace Capture

variable {c c' : Capture}

/-- A happening adds what is taken in it, whether the pump stops for it or not. -/
theorem take_received {happening : Happening} {stop : Option Stop}
    (h : c.take caps happening = (stop, c')) : c'.received = c.received ++ happening.taken := by
  cases happening with
  | fed bytes =>
    cases h
    rfl
  | inputEnded how =>
    cases h
    exact (List.append_nil _).symm
  | inputFailed message =>
    cases h
    exact (List.append_nil _).symm
  | output stream event =>
    have hsame := (c.take_output_feeding caps stream event).1
    rw [h] at hsame
    exact hsame.trans (List.append_nil _).symm

/-- **What the pump has written** is what was taken. -/
theorem takeAll_received (h : c.takeAll caps events = some c') :
    c'.received = c.received ++ takenIn events := by
  induction events generalizing c with
  | nil =>
    obtain rfl := Option.some.inj h
    exact (List.append_nil _).symm
  | cons e rest ih =>
    obtain ⟨time, happening⟩ := e
    rw [takeAll] at h
    split at h
    · next c₁ htake =>
      rw [ih h, take_received htake, List.append_assoc]
      rfl
    · cases h

/-- An end of the feeding is known because it has happened. -/
theorem inputEnded_mem_of_takeAll (h : (Capture.start b).takeAll caps events = some c)
    (hend : c.inputEnd = some how) : ∃ e ∈ events, e.2 = .inputEnded how := by
  rw [takeAll_inputEnd h, start, Option.or_none] at hend
  obtain ⟨e, he, hhow⟩ := List.exists_of_findSome?_eq_some hend
  exact ⟨e, List.mem_reverse.1 he, Happening.inputEnd?_eq_some_iff.1 hhow⟩

end Capture

/-! ### How feeding ends -/

/-- How many bytes some answers to writes take together. -/
def takenBy : List (Nat × WriteAnswer) → Nat
  | (_, .taken count) :: rest => count + takenBy rest
  | _ :: rest => takenBy rest
  | [] => 0

/-- **How feeding comes to a good end** with a pipe or without one, and with what the process took
of the input. -/
inductive Served (input : Bytes) : Option InputPipe → Option Bytes → InputEnd → Prop
  /-- The process has no pipe. -/
  | noPipe : Served input none none .noPipe
  /-- The process took the whole input, and its pipe was closed. -/
  | complete {writes time} :
      Served input (some ⟨writes, some (time, .closed)⟩) (some input) .complete
  /-- The process took the whole input, but closed its end before its pipe was closed. -/
  | closeBroken {writes time} :
      Served input (some ⟨writes, some (time, .brokenPipe)⟩) (some input) .brokenPipe
  /-- The process closed its end after some writes that did not get through the whole input. -/
  | writeBroken {earlier time later closing} (took : ∀ e ∈ earlier, ∃ count, e.2 = .taken count)
      (short : takenBy earlier < input.length) :
      Served input (some ⟨earlier ++ (time, .brokenPipe) :: later, closing⟩)
        (some (input.take (takenBy earlier))) .brokenPipe

/-- Nothing is taken when the input is closed. -/
theorem takenIn_closeInput (now : Nat) (closing : Option (Nat × CloseAnswer)) :
    takenIn (closeInput now closing) = [] := by
  rcases closing with - | ⟨time, - | - | message⟩ <;> rfl

/-- Nothing but the input is taken, from its beginning on. -/
theorem FeedsFrom.takenIn_prefix {closing : Option (Nat × CloseAnswer)} {now : Nat} {rest : Bytes}
    {writes : List (Nat × WriteAnswer)} (h : FeedsFrom closing now rest writes events) :
    takenIn events <+: rest := by
  induction h with
  | closes => simp [takenIn_closeInput]
  | stalls more => exact List.nil_prefix
  | sticks more => exact List.nil_prefix
  | fails more => exact List.nil_prefix
  | breaks more => exact List.nil_prefix
  | @takes now time count rest writes events more progress next ih =>
    -- the bytes of this write, and a prefix of those that it leaves
    have hsplit := (List.prefix_append_right_inj (rest.take count)).2 ih
    rw [List.take_append_drop] at hsplit
    exact hsplit

/-- What was taken comes before what is taken later. -/
theorem Served.cons {now count : Nat} {rest more : Bytes} {writes : List (Nat × WriteAnswer)}
    {closing : Option (Nat × CloseAnswer)}
    (h : Served (rest.drop count) (some ⟨writes, closing⟩) (some more) how) :
    Served rest (some ⟨(now, .taken count) :: writes, closing⟩) (some (rest.take count ++ more))
      how := by
  cases h with
  | complete =>
    rw [List.take_append_drop]
    exact .complete
  | closeBroken =>
    rw [List.take_append_drop]
    exact .closeBroken
  | @writeBroken earlier time later closing took short =>
    rw [List.length_drop] at short
    rw [← List.take_add]
    have hshort : takenBy ((now, .taken count) :: earlier) < rest.length :=
      show count + takenBy earlier < rest.length by omega
    exact .writeBroken (List.forall_mem_cons.2 ⟨⟨count, rfl⟩, took⟩) hshort

/-- **A feeding that ends comes to a good end.** -/
theorem FeedsFrom.served {closing : Option (Nat × CloseAnswer)} {now : Nat} {rest : Bytes}
    {writes : List (Nat × WriteAnswer)} {e : Nat × Happening}
    (h : FeedsFrom closing now rest writes events) (he : e ∈ events)
    (hhow : e.2 = .inputEnded how) :
    Served rest (some ⟨writes, closing⟩) (some (takenIn events)) how := by
  induction h with
  | closes =>
    rw [takenIn_closeInput]
    rcases closing with - | ⟨time, - | - | message⟩
    · cases he
    · obtain rfl := List.mem_singleton.1 he
      cases hhow
      exact .complete
    · obtain rfl := List.mem_singleton.1 he
      cases hhow
      exact .closeBroken
    · obtain rfl := List.mem_singleton.1 he
      cases hhow
  | stalls more => cases he
  | sticks more =>
    obtain rfl := List.mem_singleton.1 he
    cases hhow
  | fails more =>
    obtain rfl := List.mem_singleton.1 he
    cases hhow
  | @breaks now time rest writes more =>
    obtain rfl := List.mem_singleton.1 he
    cases hhow
    have hshort : takenBy [] < rest.length := List.length_pos_iff.2 more
    exact .writeBroken (by simp) hshort
  | takes more progress next ih =>
    rcases List.mem_cons.1 he with rfl | he
    · cases hhow
    · exact (ih he).cons

theorem feed_served {pipe : Option InputPipe} {e : Nat × Happening} (he : e ∈ feed pipe input)
    (hhow : e.2 = .inputEnded how) :
    Served input pipe (pipe.map fun _ ↦ takenIn (feed pipe input)) how := by
  rcases pipe with - | pipe
  · obtain rfl := List.mem_singleton.1 he
    cases hhow
    exact .noPipe
  · exact (feedsFrom pipe.closing 0 input pipe.writes).served he hhow

theorem takenIn_feed_prefix (pipe : Option InputPipe) (input : Bytes) :
    takenIn (feed pipe input) <+: input := by
  rcases pipe with - | pipe
  · exact List.nil_prefix
  · exact FeedsFrom.takenIn_prefix (feedsFrom pipe.closing 0 input pipe.writes)

/-! ### Between the reads from the streams -/

namespace ArrivalOrder

theorem takenIn_eq (h : ArrivalOrder b input events) :
    takenIn events = takenIn (feed b.input input) := by
  rw [← h.fed, takenIn_filter]

/-- **At every moment** a process has taken a prefix of its input. -/
theorem takenIn_prefix (h : ArrivalOrder b input events) (hbefore : before <+: events) :
    takenIn before <+: input := by
  obtain ⟨after, rfl⟩ := hbefore
  have hall : takenIn (before ++ after) <+: input := by
    rw [h.takenIn_eq]
    exact takenIn_feed_prefix _ _
  rw [takenIn_append] at hall
  exact (List.prefix_append _ _).trans hall

/-- Nothing is taken once the feeding has ended. -/
theorem takenIn_eq_nil (h : ArrivalOrder b input (before ++ after)) {e : Nat × Happening}
    (he : e ∈ before) (hhow : e.2 = .inputEnded how) : takenIn after = [] := by
  rw [takenIn, List.flatMap_eq_nil_iff]
  intro e' he'
  rcases hstream : e'.2.stream? with - | stream
  · -- it would come after the end, before which there is only what is taken
    obtain ⟨between, later, rfl⟩ := List.append_of_mem he'
    rw [← List.append_assoc] at h
    obtain ⟨bytes, hfed⟩ :=
      h.fed_of_mem hstream (List.mem_append_left between he) (by rw [hhow]; rfl)
    rw [hhow] at hfed
    cases hfed
  · obtain ⟨time, happening⟩ := e'
    cases happening with
    | output => rfl
    | fed bytes => cases hstream
    | inputEnded how => cases hstream
    | inputFailed message => cases hstream

/-- **A feeding whose end the pump has seen** came to a good end. -/
theorem served_of_takeAll {c : Capture} (h : ArrivalOrder b input (before ++ after))
    (htake : (Capture.start b).takeAll caps before = some c) (hend : c.inputEnd = some how) :
    Served input b.input (b.input.map fun _ ↦ c.received) how := by
  obtain ⟨e, he, hhow⟩ := Capture.inputEnded_mem_of_takeAll htake hend
  have hfeed : e ∈ feed b.input input := by
    rw [← h.fed]
    exact List.mem_filter.2 ⟨List.mem_append_left after he, by rw [hhow]; rfl⟩
  -- the feeding is over by then, so what was taken is all that ever is
  have hreceived : c.received = takenIn (feed b.input input) := by
    rw [Capture.takeAll_received htake, ← h.takenIn_eq, takenIn_append, h.takenIn_eq_nil he hhow,
      List.append_nil]
    rfl
  rw [hreceived]
  exact feed_served hfeed hhow

variable {wallTime : Duration} {killedBefore : Bool} {r : Run}

/-- What is received by the end of an exchange is a prefix of the input. -/
theorem received_prefix (h : ArrivalOrder b input events)
    (hrun : runAlong b wallTime caps killedBefore events = some r) :
    r.pumped.capture.received <+: input := by
  obtain ⟨hpump, -⟩ := runAlong_eq_some_iff.1 hrun
  obtain ⟨before, after, c, rfl, -, htake, hend⟩ := exists_pumpEnd hpump
  have hbefore : c.received <+: input := by
    rw [Capture.takeAll_received htake]
    exact h.takenIn_prefix (List.prefix_append _ _)
  generalize r.pumped = p at hend
  cases hend with
  | finished done => exact hbefore
  | deadline waiting bound late => exact hbefore
  | @stopped time happening after why last waiting prompt stop =>
    -- whatever the pump stops for, nothing is taken in it
    cases Capture.stopsFor_of_take stop <;> exact hbefore

/-- **What an exchange says of its input.** At every moment the process has taken a prefix of it,
and an exchange without overrun that the deadline did not cut short has served it. -/
theorem serves_input (h : ArrivalOrder b input events) :
    (∀ caps before c, before <+: events → (Capture.start b).takeAll caps before = some c →
      c.received <+: input) ∧
    ∀ wallTime caps killedBefore r, runAlong b wallTime caps killedBefore events = some r →
      (∀ fed, r.fed = some fed → fed <+: input) ∧
      ∀ o, r.result = .ok o → o.overflow = none → r.pumped.stop ≠ .deadline →
        ∃ how, r.pumped.capture.inputEnd = some how ∧ Served input b.input r.fed how := by
  refine ⟨fun caps before c hbefore htake ↦ ?_, fun wallTime caps killedBefore r hrun ↦ ⟨?_, ?_⟩⟩
  · rw [Capture.takeAll_received htake]
    exact h.takenIn_prefix hbefore
  · intro fed hfed
    obtain ⟨-, -, hreceived, -⟩ := runAlong_eq_some_iff.1 hrun
    rw [hreceived] at hfed
    obtain ⟨pipe, -, rfl⟩ := Option.map_eq_some_iff.1 hfed
    exact h.received_prefix hrun
  · intro o hresult hwhole hdeadline
    obtain ⟨hpump, -, hreceived, -⟩ := runAlong_eq_some_iff.1 hrun
    obtain ⟨hfailed, usage, -, rfl⟩ := result_eq_ok_iff.1 hresult
    obtain ⟨before, after, c, rfl, -, htake, hend⟩ := exists_pumpEnd hpump
    rw [hreceived]
    generalize r.pumped = p at *
    cases hend with
    | finished done =>
      -- the pump finishes only when it knows of the end of the feeding
      simp only [Capture.isDone, Bool.and_eq_true, and_assoc] at done
      obtain ⟨how, hhow⟩ := Option.isSome_iff_exists.1 done.1
      exact ⟨how, hhow, h.served_of_takeAll htake hhow⟩
    | deadline waiting bound late => exact absurd rfl hdeadline
    | @stopped time happening after why last waiting prompt stop =>
      cases Capture.stopsFor_of_take stop with
      | input => exact absurd rfl (hfailed _)
      | read opened => exact absurd rfl (hfailed _)
      | overrun opened full => cases hwhole

end ArrivalOrder

/-- A process that takes its input in two parts and writes something in between. -/
def sipping : Behaviour where
  input := some ⟨[(1, .taken 2), (3, .taken 9)], some (4, .closed)⟩
  output
    | .stdout => some [(2, .data [33]), (5, .ended)]
    | .stderr => some [(5, .ended)]
  exit := some 5
  status := .exited 0
  cpuTime := .ofMillis 1
  peakMemory := 0
  reportedWall := none
  killFault := none
  waitFault := none

/-- Everything that it does with an input of three bytes. -/
def sippingOrder : List (Nat × Happening) :=
  [(1, .fed [97, 98]), (2, .output .stdout (.data [33])), (3, .fed [99]),
    (4, .inputEnded .complete), (5, .output .stdout .ended), (5, .output .stderr .ended)]

theorem arrivalOrder_sipping : ArrivalOrder sipping [97, 98, 99] sippingOrder := by
  have htimeline : timeline sipping [97, 98, 99] = sippingOrder := by
    simp [timeline, sipping, feed, feedFrom, closeInput, outputEvents, notLater, sippingOrder]
  rw [← htimeline]
  refine arrivalOrder_timeline (fun stream ↦ ?_) _
  cases stream <;> decide

theorem serves_input_sipping : ∃ r o how,
    runAlong sipping (.ofMillis 1000) (fun _ ↦ 1) false sippingOrder = some r ∧
      r.result = .ok o ∧ r.pumped.stop = .finished ∧ r.fed = some [97, 98, 99] ∧
      Served [97, 98, 99] sipping.input r.fed how := by
  obtain ⟨-, hserves⟩ := arrivalOrder_sipping.serves_input
  obtain ⟨-, hserved⟩ := hserves (.ofMillis 1000) (fun _ ↦ 1) false _ rfl
  obtain ⟨how, -, hserved⟩ := hserved _ rfl rfl (by decide)
  exact ⟨_, _, how, rfl, rfl, rfl, rfl, hserved⟩

end ContestJudge.Exchange
