import ContestJudge.Proofs.Exchange.Bounded
import ContestJudge.Proofs.Exchange.Timeline

/-!
# What an exchange captures

An exchange with a process that makes no read or write fail captures exactly what the process
delivers in time, unless that is too much for a cap. Which stream overruns its cap, and what is left
of the other one, depends on the arrival order alone: `FirstOverrun` names the place in it.

## What each result rests on

* `FirstOverrun.unique` — there is one such place at most. Of two places the one that comes first
  would have to fit in the other one, and does not (`FirstOverrun.length_le`).
* `pump_captures` — the pump holds what was delivered in time, or stops at the first overrun. The
  proof compares its end with the place in the arrival order where it stands. Before that place the
  pump holds what it received (`ArrivalOrder.takeAll_start`); what comes after it is either late, or
  from a stream that has ended, or begins with the chunk that does not fit.
* `runAlong_captures` — the outcome has what the pump kept, so all of this can be said of it.

That no read or write fails is assumed here. Which of a failure and an overrun wins is a question of
its own, and `Reason` treats both alike.

## The clock

What counts is what comes no later than the deadline, on a clock of whole milliseconds. The limit
and the grace time need not be such a number, and a chunk that comes after them may then still count
(`belated_overruns`).
-/

namespace ContestJudge.Exchange

open Text (Bytes)

variable {b : Behaviour} {caps : OutputStream → Nat} {deadline : Option Nat} {input : Bytes}
  {events : List (Nat × Happening)}

/-! ### The first overrun -/

/-- **The first overrun** of a cap in some happenings: everything `before` fits, and the next thing
to happen is a chunk with which `stream` has more bytes than its cap. -/
structure FirstOverrun (caps : OutputStream → Nat) (events : List (Nat × Happening))
    (stream : OutputStream) (before : List (Nat × Happening)) : Prop where
  /-- Both streams are within their caps. -/
  fits : ∀ s, (bytesFrom s before).length ≤ caps s
  /-- The next chunk is too much. -/
  full : ∃ time bytes, before ++ [(time, .output stream (.data bytes))] <+: events ∧
    caps stream < (bytesFrom stream (before ++ [(time, .output stream (.data bytes))])).length

namespace FirstOverrun

variable {s s' : OutputStream} {before before' : List (Nat × Happening)}

/-- A stream that overruns its cap has more bytes than that. -/
theorem lt_length (h : FirstOverrun caps events s before) :
    caps s < (bytesFrom s events).length := by
  obtain ⟨time, bytes, ⟨later, rfl⟩, hfull⟩ := h.full
  exact Nat.lt_of_lt_of_le hfull (bytesFrom_prefix_append s _ later).length_le

/-- A chunk that does not fit comes after everything that does. -/
theorem length_le (h : FirstOverrun caps events s before)
    (h' : FirstOverrun caps events s' before') : before.length ≤ before'.length := by
  obtain ⟨_, _, hchunk, -⟩ := h.full
  obtain ⟨time, bytes, hchunk', hfull⟩ := h'.full
  rcases Nat.lt_or_ge before'.length before.length with hlt | hle
  · -- otherwise the chunk would be among what fits
    have hbefore : before <+: events := (List.prefix_append _ _).trans hchunk
    obtain ⟨later, rfl⟩ := List.prefix_of_prefix_length_le hchunk' hbefore (by simp; omega)
    have hgrow := (bytesFrom_prefix_append s' (before' ++ [(time, .output s' (.data bytes))])
      later).length_le
    have hfits := h.fits s'
    omega
  · exact hle

/-- **There is one first overrun at most.** -/
theorem unique (h : FirstOverrun caps events s before) (h' : FirstOverrun caps events s' before') :
    s = s' ∧ before = before' := by
  have hlen : before.length = before'.length := Nat.le_antisymm (h.length_le h') (h'.length_le h)
  obtain ⟨time, bytes, hchunk, -⟩ := h.full
  obtain ⟨time', bytes', hchunk', -⟩ := h'.full
  have hle := List.prefix_of_prefix_length_le hchunk hchunk' (by simp [hlen])
  obtain ⟨rfl, hlast⟩ := List.append_inj (hle.eq_of_length (by simp [hlen])) hlen
  cases hlast
  exact ⟨rfl, rfl⟩

end FirstOverrun

/-! ### The end of a pump -/

/-- A chunk for which the pump has no room is the first overrun, and what is kept of it fills the
stream up to its cap. -/
theorem ArrivalOrder.firstOverrun {before after : List (Nat × Happening)} {c : Capture}
    {stream : OutputStream} {time : Nat} {bytes : Bytes}
    (horder : ArrivalOrder b input (before ++ (time, .output stream (.data bytes)) :: after))
    (hbefore : ∀ e ∈ before, inTime deadline e.1 = true) (hprompt : inTime deadline time = true)
    (htake : (Capture.start b).takeAll caps before = some c) (hopen : c.isOpen stream = true)
    (hfull : caps stream - (c.kept stream).length < bytes.length) :
    FirstOverrun caps ((before ++ (time, .output stream (.data bytes)) :: after).filter
        fun e ↦ inTime deadline e.1) stream before ∧
      c.kept stream ++ bytes.take (caps stream - (c.kept stream).length) =
        (b.delivered (inTime deadline) stream).take (caps stream) := by
  have hkept := horder.takeAll_start hbefore htake
  obtain ⟨hbytes, hcap, -⟩ := hkept stream
  have hchunk : bytesFrom stream (before ++ [(time, .output stream (.data bytes))]) =
      c.kept stream ++ bytes := by
    rw [hbytes]
    exact bytesFrom_append_data (Capture.goesOn_of_isOpen htake hopen) time bytes
  have hlen : (c.kept stream ++ bytes).length = (c.kept stream).length + bytes.length :=
    List.length_append
  have hprefix : before ++ [(time, .output stream (.data bytes))] <+:
      (before ++ (time, .output stream (.data bytes)) :: after).filter
        fun e ↦ inTime deadline e.1 := by
    rw [filter_append_of_counts hbefore, List.filter_cons, if_pos hprompt]
    exact ⟨_, List.append_assoc _ _ _⟩
  refine ⟨⟨fun s ↦ (hkept s).1 ▸ (hkept s).2.1, time, bytes, hprefix, by rw [hchunk]; omega⟩, ?_⟩
  -- what is delivered begins with the same chunk, so cutting it at the cap gives the same
  obtain ⟨later, hlater⟩ := hprefix
  obtain ⟨rest, hrest⟩ := bytesFrom_prefix_append stream
    (before ++ [(time, .output stream (.data bytes))]) later
  rw [hchunk] at hrest
  rw [horder.delivered_eq, ← hlater, ← hrest, List.take_append_of_le_length (by omega),
    List.take_append, List.take_of_length_le hcap]

/-- A pump that is not stopped by a failure holds what was delivered in time, or stops at the first
overrun. -/
theorem pump_captures {p : Pumped} (horder : ArrivalOrder b input events)
    (hclean : ∀ e ∈ events, e.2.fault? = none)
    (hpump : pump caps deadline 0 (.start b) events = some p) :
    (∀ message, p.stop ≠ .failed message) ∧
    (p.stop.overrun? = none → ∀ s, p.capture.kept s = b.delivered (inTime deadline) s ∧
      (p.capture.kept s).length ≤ caps s) ∧
    ∀ s, p.stop.overrun? = some s → ∃ before,
      FirstOverrun caps (events.filter fun e ↦ inTime deadline e.1) s before ∧
      p.capture.kept s = (b.delivered (inTime deadline) s).take (caps s) ∧
      ∀ other, other ≠ s → p.capture.kept other = bytesFrom other before := by
  obtain ⟨before, after, c, rfl, hbefore, htake, hend⟩ := exists_pumpEnd hpump
  have hkept := horder.takeAll_start hbefore htake
  cases hend with
  | finished done =>
    have hclosed : ∀ s, c.isOpen s = false := by
      simp only [Capture.isDone, Bool.and_eq_true, Bool.not_eq_true'] at done
      rintro (- | -)
      · exact done.1.2
      · exact done.2
    refine ⟨by simp, fun _ s ↦ ?_, by simp [Stop.overrun?]⟩
    obtain ⟨hbytes, hcap, hended⟩ := hkept s
    exact ⟨hbytes.trans (hended (hclosed s)).symm, hcap⟩
  | deadline waiting bound late =>
    subst bound
    have hafter := filter_inTime_eq_nil (List.pairwise_append.1 horder.sorted).2.1 late
    refine ⟨by simp, fun _ s ↦ ?_, by simp [Stop.overrun?]⟩
    obtain ⟨hbytes, hcap, -⟩ := hkept s
    refine ⟨?_, hcap⟩
    rw [horder.delivered_eq, filter_append_of_counts hbefore, hafter, List.append_nil]
    exact hbytes
  | @stopped time happening after why last waiting prompt stop =>
    have hfault : happening.fault? = none := hclean (time, happening) (by simp)
    cases Capture.stopsFor_of_take stop with
    | input => cases hfault
    | read opened => cases hfault
    | @overrun stream bytes opened full =>
      refine ⟨by simp, by simp [Stop.overrun?], fun s hs ↦ ?_⟩
      obtain rfl : stream = s := Option.some.inj hs
      obtain ⟨hfirst, hcut⟩ := horder.firstOverrun hbefore prompt htake opened full
      refine ⟨before, hfirst, ?_, fun other hother ↦ ?_⟩
      · exact (if_pos rfl).trans hcut
      · exact (if_neg hother).trans (hkept other).1

/-- **The pump stops for the first overrun**, if nothing fails and there is one. -/
theorem overrun?_eq_some_iff {p : Pumped} (horder : ArrivalOrder b input events)
    (hclean : ∀ e ∈ events, e.2.fault? = none)
    (hpump : pump caps deadline 0 (.start b) events = some p) (s : OutputStream) :
    p.stop.overrun? = some s ↔
      ∃ before, FirstOverrun caps (events.filter fun e ↦ inTime deadline e.1) s before := by
  obtain ⟨-, hwhole, hover⟩ := pump_captures horder hclean hpump
  constructor
  · intro hs
    obtain ⟨before, hbefore, -⟩ := hover s hs
    exact ⟨before, hbefore⟩
  · rintro ⟨before, hbefore⟩
    rcases hstop : p.stop.overrun? with - | s'
    · obtain ⟨hkept, hcap⟩ := hwhole hstop s
      rw [hkept, horder.delivered_eq] at hcap
      exact absurd hbefore.lt_length (Nat.not_lt.2 hcap)
    · obtain ⟨before', hbefore', -⟩ := hover s' hstop
      rw [(hbefore.unique hbefore').1]

/-- What an outcome captures is what the pump kept. -/
theorem captured_outcome (p : Pumped) (usage : Usage) :
    (p.outcome usage).captured = p.capture.kept := by
  funext stream
  cases stream <;> rfl

/-- **What an exchange captures**, along any arrival order in which no read or write fails. What
counts is what comes no later than the deadline. An exchange by `run` goes along one of these orders
(`arrivalOrder_timeline`). -/
theorem runAlong_captures {wallTime : Duration} {killedBefore : Bool} {r : Run}
    (horder : ArrivalOrder b input events) (hclean : ∀ e ∈ events, e.2.fault? = none)
    (hwait : b.waitFault = none)
    (hrun : runAlong b wallTime caps killedBefore events = some r) :
    let counts := inTime (deadlineOf (budget wallTime))
    let counted := events.filter fun e ↦ counts e.1
    ∃ o, r.result = .ok o ∧
      (o.overflow.isSome = true ↔ ∃ s, caps s < (b.delivered counts s).length) ∧
      (o.overflow = none → ∀ s, o.captured s = b.delivered counts s) ∧
      (∀ s, o.overflow = some s ↔ ∃ before, FirstOverrun caps counted s before) ∧
      ∀ s before, FirstOverrun caps counted s before →
        o.captured s = (b.delivered counts s).take (caps s) ∧
        ∀ other, other ≠ s → o.captured other = bytesFrom other before ∧
          o.captured other <+: b.delivered counts other ∧
          (o.captured other).length ≤ caps other := by
  intro counts counted
  obtain ⟨hpump, -⟩ := runAlong_eq_some_iff.1 hrun
  obtain ⟨hnofault, hwhole, hover⟩ := pump_captures horder hclean hpump
  obtain ⟨time, status, -, -, husage⟩ :=
    runAlong_ending hrun (faultOf_of_waitFault hwait r.lastWait)
  have hdelivered : ∀ s, b.delivered counts s = bytesFrom s counted := horder.delivered_eq counts
  have hfirst := overrun?_eq_some_iff horder hclean hpump
  refine ⟨r.pumped.outcome (b.usage time status), result_eq_ok_iff.2 ⟨hnofault, _, husage, rfl⟩,
    ⟨fun hsome ↦ ?_, fun ⟨s, hs⟩ ↦ ?_⟩, fun hnone s ↦ ?_, hfirst, fun s before hbefore ↦ ?_⟩
  · obtain ⟨s, hs⟩ := Option.isSome_iff_exists.1 hsome
    obtain ⟨before, hbefore⟩ := (hfirst s).1 hs
    exact ⟨s, hdelivered s ▸ hbefore.lt_length⟩
  · rcases hstop : r.pumped.stop.overrun? with - | s'
    · obtain ⟨hkept, hcap⟩ := hwhole hstop s
      rw [hkept] at hcap
      exact absurd hs (Nat.not_lt.2 hcap)
    · exact Option.isSome_iff_exists.2 ⟨s', hstop⟩
  · rw [captured_outcome]
    exact (hwhole hnone s).1
  · obtain ⟨before', hbefore', hkept, hothers⟩ := hover s ((hfirst s).2 ⟨before, hbefore⟩)
    obtain ⟨-, rfl⟩ := hbefore.unique hbefore'
    obtain ⟨time, bytes, ⟨later, hlater⟩, -⟩ := hbefore.full
    rw [captured_outcome]
    refine ⟨hkept, fun other hother ↦ ?_⟩
    rw [hothers other hother, hdelivered, ← hlater, List.append_assoc]
    exact ⟨rfl, bytesFrom_prefix_append other before _, hbefore.fits other⟩

/-! ### Two processes -/

/-- A process that writes three bytes to its output, in two chunks, and two to its standard error in
between. -/
def chatty : Behaviour where
  input := none
  output
    | .stdout => some [(1, .data [97, 98]), (3, .data [99]), (4, .ended)]
    | .stderr => some [(2, .data [33, 33]), (4, .ended)]
  exit := some 4
  status := .exited 0
  cpuTime := .ofMillis 1
  peakMemory := 0
  reportedWall := none
  killFault := none
  waitFault := none

/-- Everything that it does. -/
def chattyOrder : List (Nat × Happening) :=
  [(0, .inputEnded .noPipe), (1, .output .stdout (.data [97, 98])),
    (2, .output .stderr (.data [33, 33])), (3, .output .stdout (.data [99])),
    (4, .output .stdout .ended), (4, .output .stderr .ended)]

/-- Caps that both of its streams overrun. -/
def tightCaps : OutputStream → Nat
  | .stdout => 2
  | .stderr => 1

theorem timeline_chatty : timeline chatty [] = chattyOrder := by
  simp [timeline, chatty, feed, outputEvents, notLater, chattyOrder]

theorem arrivalOrder_chatty : ArrivalOrder chatty [] chattyOrder := by
  rw [← timeline_chatty]
  refine arrivalOrder_timeline (fun stream ↦ ?_) []
  cases stream <;> decide

/-- Both streams have too much for their caps, and standard error is the first to. -/
theorem runAlong_captures_chatty : ∃ r o,
    runAlong chatty (.ofMillis 1000) tightCaps false chattyOrder = some r ∧
    r.result = .ok o ∧ o.overflow = some .stderr ∧ o.captured .stderr = [33] ∧
    o.captured .stdout = [97, 98] := by
  obtain ⟨r, hrun⟩ : ∃ r, runAlong chatty (.ofMillis 1000) tightCaps false chattyOrder = some r :=
    ⟨_, rfl⟩
  obtain ⟨o, hresult, -, -, hfirst, hkept⟩ :=
    runAlong_captures arrivalOrder_chatty (by decide) rfl hrun
  have hover : FirstOverrun tightCaps
      (chattyOrder.filter fun e ↦ inTime (deadlineOf (budget (.ofMillis 1000))) e.1) .stderr
      (chattyOrder.take 2) :=
    ⟨fun s ↦ by cases s <;> decide, 2, [33, 33], by decide, by decide⟩
  obtain ⟨hstderr, hothers⟩ := hkept _ _ hover
  exact ⟨r, o, hrun, hresult, (hfirst _).2 ⟨_, hover⟩, hstderr, (hothers .stdout (by decide)).1⟩

/-- A process that never exits and first writes half a millisecond after a wall time limit of half a
millisecond and the grace time have passed. -/
def belated : Behaviour where
  input := some ⟨[], some (0, .closed)⟩
  output
    | .stdout => some [(501, .data [120, 121, 122])]
    | .stderr => some []
  exit := none
  status := .exited 0
  cpuTime := ⟨0⟩
  peakMemory := 0
  reportedWall := none
  killFault := none
  waitFault := none

/-- **A chunk may come after the limit and the grace time** and still count, because the clock ticks
in whole milliseconds. -/
theorem belated_overruns : ∃ r o,
    run belated ⟨500000⟩ (fun _ ↦ 2) false [] = some r ∧ r.result = .ok o ∧
    (∀ e ∈ timeline belated [], e.2.fault? = none) ∧
    (∀ s, belated.delivered (fun t ↦ Duration.ofMillis t ≤ budget ⟨500000⟩) s = []) ∧
    o.overflow = some .stdout := by
  have horder : timeline belated [] =
      [(0, .inputEnded .complete), (501, .output .stdout (.data [120, 121, 122]))] := by
    simp [timeline, belated, feed, feedFrom, closeInput, outputEvents, notLater]
  rw [run, horder]
  refine ⟨_, _, rfl, rfl, by decide, fun s ↦ ?_, rfl⟩
  cases s <;> rfl

end ContestJudge.Exchange
