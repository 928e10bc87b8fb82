import ContestJudge.Proofs.Exchange.Timeline

/-!
# Why a pump stops

Failures, overruns and the deadline compete for the end of a pump. The first of them to happen wins,
and which one that is can be said of the arrival order alone: a happening is a `Reason` to stop in
view of what came before it, and `FirstReason` is the first happening that is one. If there is none,
the pump stops when everything has ended (`Settled`) or else at the deadline.

* `Pumps` — these three ways for a pump to stop, each with what it has captured by then;
* `ArrivalOrder.pumps` — every pump along an arrival order stops in one of them;
* `Pumps.stop_eq_iff`, `Pumps.quiet_iff` — so the arrival order says why a pump stopped.

## From states to what came before

The pump decides by what it has captured, and a reason is said by the happenings before it. The two
agree because what was captured is what was received (`Capture.takeAll_kept`), and because the pump
waits for a stream just as long as it goes on (`Capture.isOpen_iff`). So a step stops the pump
exactly if it is a reason (`ArrivalOrder.take_eq_some_iff`); this is the only place where the state
of the pump is compared with a reason.

## After the end

A pump that is done takes in nothing more, although happenings may be left. Nothing can be a reason
any more then (`Settled.not_reason`): an ended stream is not read, and after the feeding has ended
nothing else comes of it (`feed_dropLast`). Without this an overrun that comes too late would be a
first reason for which no pump stops.
-/

namespace ContestJudge.Exchange

open Text (Bytes)

variable {b : Behaviour} {caps : OutputStream → Nat} {deadline : Option Nat} {input : Bytes}
  {events before after : List (Nat × Happening)} {e : Nat × Happening} {why : Stop}

/-! ### Reasons -/

/-- **A reason to stop**, in view of what happened before. -/
inductive Reason (caps : OutputStream → Nat) (before : List (Nat × Happening)) :
    Happening → Stop → Prop
  /-- The input cannot be written. -/
  | input {message} : Reason caps before (.inputFailed message) (.failed message)
  /-- A stream that goes on cannot be read. -/
  | read {stream message} (going : goesOn (readsOf stream before) = true) :
      Reason caps before (.output stream (.failed message)) (.failed message)
  /-- A chunk is more than the cap of its stream leaves room for. -/
  | overrun {stream bytes} (going : goesOn (readsOf stream before) = true)
      (full : caps stream < (bytesFrom stream before).length + bytes.length) :
      Reason caps before (.output stream (.data bytes)) (.overrun stream)

namespace Reason

variable {happening : Happening} {why' : Stop}

/-- A happening is no more than one reason. -/
theorem unique (h : Reason caps before happening why) (h' : Reason caps before happening why') :
    why = why' := by
  cases h <;> cases h' <;> rfl

theorem ne_finished (h : Reason caps before happening why) : why ≠ .finished := by
  cases h <;> exact fun hwhy ↦ by cases hwhy

theorem ne_deadline (h : Reason caps before happening why) : why ≠ .deadline := by
  cases h <;> exact fun hwhy ↦ by cases hwhy

end Reason

/-- Nothing that happens is a reason to stop. -/
def Quiet (caps : OutputStream → Nat) (events : List (Nat × Happening)) : Prop :=
  ∀ before e why, before ++ [e] <+: events → ¬Reason caps before e.2 why

/-- **The first reason to stop** in some happenings. -/
structure FirstReason (caps : OutputStream → Nat) (events before : List (Nat × Happening))
    (e : Nat × Happening) (why : Stop) : Prop where
  /-- There is none before it. -/
  quiet : Quiet caps before
  /-- It comes next. -/
  next : before ++ [e] <+: events
  /-- It is one. -/
  reason : Reason caps before e.2 why

namespace FirstReason

variable {before' : List (Nat × Happening)} {e' : Nat × Happening} {why' : Stop}

theorem not_quiet (h : FirstReason caps events before e why) : ¬Quiet caps events :=
  fun hquiet ↦ hquiet _ _ _ h.next h.reason

/-- What is quiet ends before any reason. -/
theorem length_le (h : FirstReason caps events before e why)
    (h' : FirstReason caps events before' e' why') : before'.length ≤ before.length := by
  rcases Nat.lt_or_ge before.length before'.length with hlt | hle
  · have hbefore : before' <+: events := (List.prefix_append _ _).trans h'.next
    have hnext := List.prefix_of_prefix_length_le h.next hbefore (by simp; omega)
    exact absurd h.reason (h'.quiet _ _ _ hnext)
  · exact hle

/-- **There is one first reason at most.** -/
theorem unique (h : FirstReason caps events before e why)
    (h' : FirstReason caps events before' e' why') : before = before' ∧ e = e' ∧ why = why' := by
  have hlen : before.length = before'.length := Nat.le_antisymm (h'.length_le h) (h.length_le h')
  have hle := List.prefix_of_prefix_length_le h.next h'.next (by simp [hlen])
  obtain ⟨rfl, hlast⟩ := List.append_inj (hle.eq_of_length (by simp [hlen])) hlen
  obtain rfl := List.singleton_inj.1 hlast
  exact ⟨rfl, rfl, h.reason.unique h'.reason⟩

end FirstReason

/-- Everything has ended: the feeding, and each stream that is a pipe. -/
def Settled (b : Behaviour) (events : List (Nat × Happening)) : Prop :=
  (∃ e ∈ events, ∃ how, e.2 = .inputEnded how) ∧
    ∀ stream, b.output stream = none ∨ goesOn (readsOf stream events) = false

/-! ### Reasons and the steps of a pump -/

theorem Capture.takeAll_append (c : Capture) (before after : List (Nat × Happening)) :
    c.takeAll caps (before ++ after) = (c.takeAll caps before).bind (·.takeAll caps after) := by
  induction before generalizing c with
  | nil => rfl
  | cons e rest ih =>
    rw [List.cons_append, takeAll, takeAll]
    split
    · exact ih _
    · rfl

/-- What was taken in was taken in one after the other. -/
theorem Capture.exists_take {c c' : Capture} (h : c.takeAll caps (before ++ e :: after) = some c') :
    ∃ c₁ c₂, c.takeAll caps before = some c₁ ∧ c₁.take caps e.2 = (none, c₂) := by
  rw [takeAll_append] at h
  obtain ⟨c₁, hbefore, hrest⟩ := Option.bind_eq_some_iff.1 h
  rw [takeAll] at hrest
  split at hrest
  · next c₂ htake => exact ⟨c₁, c₂, hbefore, htake⟩
  · cases hrest

/-- How the feeding ends with a happening, if it does. -/
def Happening.inputEnd? : Happening → Option InputEnd
  | .inputEnded how => some how
  | _ => none

theorem Capture.take_inputEnd {c c' : Capture} {happening : Happening}
    (h : c.take caps happening = (none, c')) :
    c'.inputEnd = happening.inputEnd?.or c.inputEnd := by
  cases happening with
  | fed bytes =>
    cases h
    rfl
  | inputEnded how =>
    cases h
    rfl
  | inputFailed message => cases h
  | output stream event =>
    have hsame := (c.take_output_feeding caps stream event).2
    rw [h] at hsame
    exact hsame

/-- **How the feeding has ended** is the last end that was taken in. -/
theorem Capture.takeAll_inputEnd {c c' : Capture} (h : c.takeAll caps events = some c') :
    c'.inputEnd = (events.reverse.findSome? fun e ↦ e.2.inputEnd?).or c.inputEnd := by
  induction events generalizing c with
  | nil =>
    obtain rfl := Option.some.inj h
    rfl
  | cons e rest ih =>
    obtain ⟨time, happening⟩ := e
    rw [takeAll] at h
    split at h
    · next c₁ htake =>
      rw [ih h, take_inputEnd htake, List.reverse_cons, List.findSome?_append, Option.or_assoc]
      simp
    · cases h

theorem Happening.inputEnd?_eq_some_iff {happening : Happening} {how : InputEnd} :
    happening.inputEnd? = some how ↔ happening = .inputEnded how := by
  cases happening <;> simp [inputEnd?]

/-- The feeding has ended once an end of it was taken in. -/
theorem Capture.inputEnd_isSome_iff {c : Capture}
    (h : (Capture.start b).takeAll caps events = some c) :
    c.inputEnd.isSome = true ↔ ∃ e ∈ events, ∃ how, e.2 = .inputEnded how := by
  rw [takeAll_inputEnd h, start, Option.or_none, List.findSome?_isSome_iff]
  simp only [List.mem_reverse, Option.isSome_iff_exists, Happening.inputEnd?_eq_some_iff]

/-- A stream that is still waited for is a pipe that goes on. -/
theorem Capture.isOpen_iff {c : Capture} (h : (Capture.start b).takeAll caps before = some c)
    (stream : OutputStream) :
    c.isOpen stream = true ↔
      b.output stream ≠ none ∧ goesOn (readsOf stream before) = true := by
  obtain ⟨hopen, hclosed, -⟩ := takeAll_kept h stream
  rcases hpipe : b.output stream with - | reads
  · have hstart : (Capture.start b).isOpen stream = false := by simp [start, hpipe]
    simp [(hclosed hstart).2]
  · have hstart : (Capture.start b).isOpen stream = true := by simp [start, hpipe]
    simp [(hopen hstart).2]

/-- The pump has nothing left to wait for exactly if everything has ended. -/
theorem Capture.isDone_iff {c : Capture} (h : (Capture.start b).takeAll caps before = some c) :
    c.isDone = true ↔ Settled b before := by
  have hclosed : ∀ stream, c.isOpen stream = false ↔
      b.output stream = none ∨ goesOn (readsOf stream before) = false := fun stream ↦ by
    rw [← Bool.not_eq_true, isOpen_iff h, Decidable.not_and_iff_or_not, Bool.not_eq_true]
    simp
  simp only [isDone, Settled, ← hclosed, Bool.and_eq_true, Bool.not_eq_true',
    inputEnd_isSome_iff h, and_assoc]
  refine and_congr_right fun _ ↦ ⟨fun h stream ↦ ?_, fun h ↦ ⟨h _, h _⟩⟩
  cases stream with
  | stdout => exact h.1
  | stderr => exact h.2

namespace ArrivalOrder

variable {c : Capture}

/-- Whatever is read comes from a pipe. -/
theorem output_ne_none (h : ArrivalOrder b input events) {stream : OutputStream}
    (he : e ∈ events) (hstream : e.2.stream? = some stream) : b.output stream ≠ none := by
  intro hnone
  have hmem : e ∈ events.filter fun e ↦ e.2.stream? = some stream := by
    simpa [hstream] using he
  rw [h.output, outputEvents, hnone] at hmem
  cases hmem

/-- **The pump stops for a reason**, and for nothing else. -/
theorem take_eq_some_iff (h : ArrivalOrder b input (before ++ e :: after))
    (htake : (Capture.start b).takeAll caps before = some c) :
    (∃ last, c.take caps e.2 = (some why, last)) ↔ Reason caps before e.2 why := by
  have hkept := fun stream ↦ (h.takeAll_start (fun _ _ ↦ inTime_none _) htake stream)
  have hopen := Capture.isOpen_iff htake
  have hpipe : ∀ {stream event}, e.2 = .output stream event → b.output stream ≠ none :=
    fun he ↦ h.output_ne_none (e := e) (by simp) (by rw [he]; rfl)
  obtain ⟨time, happening⟩ := e
  constructor
  · rintro ⟨last, hlast⟩
    cases Capture.stopsFor_of_take hlast with
    | input => exact .input
    | read opened => exact .read ((hopen _).1 opened).2
    | @overrun stream bytes opened full =>
      refine .overrun ((hopen _).1 opened).2 ?_
      obtain ⟨hbytes, hcap, -⟩ := hkept stream
      rw [← hbytes]
      omega
  · intro hreason
    cases hreason with
    | input => exact ⟨_, rfl⟩
    | read going => exact ⟨_, Capture.take_failed ((hopen _).2 ⟨hpipe rfl, going⟩) _⟩
    | @overrun stream bytes going full =>
      obtain ⟨hbytes, hcap, -⟩ := hkept stream
      rw [← hbytes] at full
      exact ⟨_, Capture.take_data_of_lt ((hopen _).2 ⟨hpipe rfl, going⟩) (by omega)⟩

/-- What was taken in held no reason to stop. -/
theorem quiet_of_takeAll (h : ArrivalOrder b input (before ++ after))
    (htake : (Capture.start b).takeAll caps before = some c) : Quiet caps before := by
  rintro earlier e why ⟨later, rfl⟩ hreason
  rw [List.append_assoc, List.singleton_append] at htake
  obtain ⟨c₁, c₂, hearlier, hnone⟩ := Capture.exists_take htake
  rw [List.append_assoc, List.append_assoc, List.singleton_append] at h
  obtain ⟨last, hsome⟩ := (h.take_eq_some_iff hearlier).2 hreason
  rw [hnone] at hsome
  cases hsome

/-- **What a reason leaves behind**: each stream as far as it came, up to its cap. -/
theorem kept_of_take {last : Capture} (h : ArrivalOrder b input (before ++ e :: after))
    (htake : (Capture.start b).takeAll caps before = some c)
    (hstop : c.take caps e.2 = (some why, last)) (stream : OutputStream) :
    last.kept stream = (bytesFrom stream (before ++ [e])).take (caps stream) := by
  obtain ⟨hbytes, hcap, -⟩ := h.takeAll_start (fun _ _ ↦ inTime_none _) htake stream
  have hread : readsOf stream [e] = (e.2.read? stream).toList := by
    rw [readsOf_cons]
    exact List.append_nil _
  -- what adds nothing leaves the stream as it was, within its cap
  have hsame : content (e.2.read? stream).toList = [] →
      c.kept stream = (bytesFrom stream (before ++ [e])).take (caps stream) := by
    intro hnil
    rw [bytesFrom, readsOf_append, content_append, hread, hnil, List.append_nil, ite_self]
    rw [← bytesFrom, ← hbytes, List.take_of_length_le hcap]
  obtain ⟨time, happening⟩ := e
  cases Capture.stopsFor_of_take hstop with
  | input => exact hsame rfl
  | @read s message opened =>
    refine hsame ?_
    by_cases hs : s = stream <;> simp [Happening.read?, hs, content]
  | @overrun s bytes opened full =>
    by_cases hs : s = stream
    · subst hs
      rw [bytesFrom_append_data ((Capture.isOpen_iff htake _).1 opened).2, ← hbytes,
        List.take_append, List.take_of_length_le hcap]
      exact if_pos rfl
    · refine (if_neg (Ne.symm hs)).trans (hsame ?_)
      simp [Happening.read?, hs, content]

end ArrivalOrder

/-! ### No reason after the end -/

/-- **Feeding ends once**: all before its last happening is bytes that are taken. -/
theorem FeedsFrom.dropLast {closing : Option (Nat × CloseAnswer)} {now : Nat} {rest : Bytes}
    {writes : List (Nat × WriteAnswer)} (h : FeedsFrom closing now rest writes events) :
    ∀ e ∈ events.dropLast, ∃ bytes, e.2 = .fed bytes := by
  induction h with
  | closes =>
    rcases closing with - | ⟨time, - | - | message⟩ <;> simp [closeInput]
  | stalls more => simp
  | sticks more => simp
  | fails more => simp
  | breaks more => simp
  | @takes now time count rest writes events more progress next ih =>
    rcases events with - | ⟨first, later⟩
    · simp
    · rw [List.dropLast_cons_of_ne_nil (by simp)]
      exact List.forall_mem_cons.2 ⟨⟨_, rfl⟩, ih⟩

theorem feed_dropLast (pipe : Option InputPipe) (input : Bytes) :
    ∀ e ∈ (feed pipe input).dropLast, ∃ bytes, e.2 = .fed bytes := by
  rcases pipe with - | pipe
  · simp [feed]
  · exact (feedsFrom pipe.closing 0 input pipe.writes).dropLast

/-- Whatever the feeding does after some point, it has only had bytes taken before. -/
theorem ArrivalOrder.fed_of_mem (h : ArrivalOrder b input (before ++ e :: after))
    (he : e.2.stream? = none) {e' : Nat × Happening} (hmem : e' ∈ before)
    (he' : e'.2.stream? = none) : ∃ bytes, e'.2 = .fed bytes := by
  refine feed_dropLast b.input input e' ?_
  rw [← h.fed, List.filter_append, List.filter_cons_of_pos (by simp [he]),
    List.dropLast_append_of_ne_nil (by simp)]
  exact List.mem_append_left _ (List.mem_filter.2 ⟨hmem, by simp [he']⟩)

/-- **Nothing is a reason to stop once everything has ended.** -/
theorem Settled.not_reason (hsettled : Settled b before)
    (h : ArrivalOrder b input (before ++ after)) {later : List (Nat × Happening)}
    (hnext : later ++ [e] <+: after) : ¬Reason caps (before ++ later) e.2 why := by
  obtain ⟨⟨e', hmem, how, he'⟩, hstreams⟩ := hsettled
  obtain ⟨rest, rfl⟩ := hnext
  have hsplit : before ++ (later ++ [e] ++ rest) = (before ++ later) ++ e :: rest := by simp
  rw [hsplit] at h
  -- an ended stream does not go on, and a stream that is no pipe is not read
  have hend : ∀ {stream event}, e.2 = .output stream event →
      goesOn (readsOf stream (before ++ later)) ≠ true := by
    intro stream event he hgoing
    rw [readsOf_append, goesOn_append, Bool.and_eq_true] at hgoing
    rcases hstreams stream with hnone | hended
    · exact h.output_ne_none (e := e) (by simp) (by rw [he]; rfl) hnone
    · rw [hended] at hgoing
      cases hgoing.1
  obtain ⟨time, happening⟩ := e
  intro hreason
  cases hreason with
  | input =>
    obtain ⟨bytes, hfed⟩ := h.fed_of_mem rfl (List.mem_append_left later hmem) (by rw [he']; rfl)
    rw [he'] at hfed
    cases hfed
  | read going => exact hend rfl going
  | overrun going full => exact hend rfl going

/-- What has ended stays ended. -/
theorem Settled.append (h : Settled b before) (after : List (Nat × Happening)) :
    Settled b (before ++ after) := by
  obtain ⟨⟨e, he, hhow⟩, hstreams⟩ := h
  refine ⟨⟨e, List.mem_append_left _ he, hhow⟩, fun stream ↦ (hstreams stream).imp_right fun h ↦ ?_⟩
  rw [readsOf_append, goesOn_append, h, Bool.false_and]

/-! ### How a pump stops -/

/-- Along an order of time, what comes in time comes first. -/
theorem filter_inTime_prefix_self (deadline : Option Nat)
    (h : events.Pairwise fun e later ↦ e.1 ≤ later.1) :
    events.filter (fun e ↦ inTime deadline e.1) <+: events := by
  induction events with
  | nil => exact List.prefix_rfl
  | cons e rest ih =>
    obtain ⟨hfirst, hrest⟩ := List.pairwise_cons.1 h
    rcases hprompt : inTime deadline e.1 with - | -
    · rcases deadline with - | d
      · cases hprompt
      rw [← Bool.not_eq_true, inTime_some, Nat.not_le] at hprompt
      rw [filter_inTime_eq_nil h (by simpa using hprompt)]
      exact List.nil_prefix
    · rw [List.filter_cons, if_pos hprompt, List.cons_prefix_cons]
      exact ⟨rfl, ih hrest⟩

/-- A place in a list joined from two is in the first one or in the second. -/
theorem prefix_append_cases {mid : List (Nat × Happening)} (h : mid ++ [e] <+: before ++ after) :
    mid ++ [e] <+: before ∨ ∃ later, mid = before ++ later ∧ later ++ [e] <+: after := by
  rcases Nat.lt_or_ge mid.length before.length with hlt | hle
  · exact .inl (List.prefix_of_prefix_length_le h (List.prefix_append _ _) (by simp; omega))
  · obtain ⟨later, rfl⟩ := List.prefix_of_prefix_length_le (List.prefix_append before after)
      ((List.prefix_append _ _).trans h) hle
    rw [List.append_assoc, List.prefix_append_right_inj] at h
    exact .inr ⟨later, rfl, h⟩

/-- **How a pump stops**, as far as what happens in time decides it. -/
inductive Pumps (b : Behaviour) (caps : OutputStream → Nat) (deadline : Option Nat)
    (counted : List (Nat × Happening)) (p : Pumped) : Prop
  /-- There is a first reason to stop. -/
  | stopped {before : List (Nat × Happening)} {e : Nat × Happening}
      (first : FirstReason caps counted before e p.stop) (time : p.time = e.1)
      (kept : ∀ stream, p.capture.kept stream =
        (bytesFrom stream (before ++ [e])).take (caps stream))
  /-- Everything ends. -/
  | settled (quiet : Quiet caps counted) (ended : Settled b counted) (stop : p.stop = .finished)
      (kept : ∀ stream, p.capture.kept stream = bytesFrom stream counted)
  /-- The deadline passes first. -/
  | expired (quiet : Quiet caps counted) (pending : ¬Settled b counted) (stop : p.stop = .deadline)
      (bound : deadline = some p.time)
      (kept : ∀ stream, p.capture.kept stream = bytesFrom stream counted)

/-- **Every pump stops in one of these ways.** -/
theorem ArrivalOrder.pumps {p : Pumped} (h : ArrivalOrder b input events)
    (hpump : pump caps deadline 0 (.start b) events = some p) :
    Pumps b caps deadline (events.filter fun e ↦ inTime deadline e.1) p := by
  obtain ⟨before, after, c, rfl, hbefore, htake, hend⟩ := exists_pumpEnd hpump
  have hquiet := h.quiet_of_takeAll htake
  have hkept := h.takeAll_start hbefore htake
  cases hend with
  | finished done =>
    have hsettled := (Capture.isDone_iff htake).1 done
    have hclosed : ∀ stream, c.isOpen stream = false := by
      simp only [Capture.isDone, Bool.and_eq_true, Bool.not_eq_true'] at done
      rintro (- | -)
      · exact done.1.2
      · exact done.2
    refine .settled ?_ ?_ rfl fun stream ↦ ?_
    · -- a reason comes neither before the end nor after it
      rw [filter_append_of_counts hbefore]
      have hafter := filter_inTime_prefix_self deadline
        (List.pairwise_append.1 h.sorted).2.1
      intro mid e why hnext hreason
      rcases prefix_append_cases hnext with hbefore | ⟨later, rfl, hlater⟩
      · exact hquiet _ _ _ hbefore hreason
      · exact hsettled.not_reason h (hlater.trans hafter) hreason
    · rw [filter_append_of_counts hbefore]
      exact hsettled.append _
    · obtain ⟨hbytes, -, hended⟩ := hkept stream
      rw [← h.delivered_eq, hended (hclosed stream), hbytes]
  | deadline waiting bound late =>
    subst bound
    have hafter := filter_inTime_eq_nil (List.pairwise_append.1 h.sorted).2.1 late
    rw [filter_append_of_counts hbefore, hafter, List.append_nil]
    refine .expired hquiet (fun hsettled ↦ ?_) rfl rfl fun stream ↦ (hkept stream).1
    rw [(Capture.isDone_iff htake).2 hsettled] at waiting
    cases waiting
  | @stopped time happening after why last waiting prompt stop =>
    have hreason := (h.take_eq_some_iff (e := (time, happening)) htake).1 ⟨last, stop⟩
    refine .stopped ⟨hquiet, ?_, hreason⟩ rfl (h.kept_of_take (e := (time, happening)) htake stop)
    rw [filter_append_of_counts hbefore, List.filter_cons, if_pos prompt]
    exact ⟨_, List.append_assoc _ _ _⟩

namespace Pumps

variable {counted : List (Nat × Happening)} {p : Pumped}

/-- **The arrival order says why a pump stops** before everything has ended. -/
theorem stop_eq_iff (h : Pumps b caps deadline counted p) (hfinished : why ≠ .finished)
    (hdeadline : why ≠ .deadline) :
    p.stop = why ↔ ∃ before e, FirstReason caps counted before e why := by
  cases h with
  | stopped first time kept =>
    refine ⟨fun hstop ↦ ⟨_, _, hstop ▸ first⟩, fun ⟨_, _, hreason⟩ ↦ ?_⟩
    exact (first.unique hreason).2.2
  | settled quiet ended stop kept =>
    refine ⟨fun hstop ↦ absurd (hstop.symm.trans stop) hfinished, fun ⟨_, _, hreason⟩ ↦ ?_⟩
    exact absurd quiet hreason.not_quiet
  | expired quiet pending stop bound kept =>
    refine ⟨fun hstop ↦ absurd (hstop.symm.trans stop) hdeadline, fun ⟨_, _, hreason⟩ ↦ ?_⟩
    exact absurd quiet hreason.not_quiet

/-- A pump goes on to its end or to the deadline exactly if nothing is a reason to stop. -/
theorem quiet_iff (h : Pumps b caps deadline counted p) :
    Quiet caps counted ↔ p.stop = .finished ∨ p.stop = .deadline := by
  cases h with
  | stopped first time kept =>
    exact iff_of_false first.not_quiet fun hstop ↦
      hstop.elim first.reason.ne_finished first.reason.ne_deadline
  | settled quiet ended stop kept => exact iff_of_true quiet (.inl stop)
  | expired quiet pending stop bound kept => exact iff_of_true quiet (.inr stop)

/-- Where nothing is a reason to stop, all that comes in time is captured. -/
theorem kept_of_quiet (h : Pumps b caps deadline counted p) (hquiet : Quiet caps counted) :
    (∀ stream, p.capture.kept stream = bytesFrom stream counted) ∧
      (p.stop = .finished ∨ p.stop = .deadline) := by
  refine ⟨?_, h.quiet_iff.1 hquiet⟩
  cases h with
  | stopped first time kept => exact absurd hquiet first.not_quiet
  | settled quiet ended stop kept => exact kept
  | expired quiet pending stop bound kept => exact kept

/-- Otherwise the pump stops at the first reason, with what was captured by then. -/
theorem exists_of_not_quiet (h : Pumps b caps deadline counted p) (hquiet : ¬Quiet caps counted) :
    ∃ before e, FirstReason caps counted before e p.stop ∧ p.time = e.1 ∧
      ∀ stream, p.capture.kept stream = (bytesFrom stream (before ++ [e])).take (caps stream) := by
  cases h with
  | stopped first time kept => exact ⟨_, _, first, time, kept⟩
  | settled quiet ended stop kept => exact absurd quiet hquiet
  | expired quiet pending stop bound kept => exact absurd quiet hquiet

end Pumps

end ContestJudge.Exchange
