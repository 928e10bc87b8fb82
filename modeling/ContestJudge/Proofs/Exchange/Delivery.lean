import ContestJudge.Proofs.Exchange.Pump

/-!
# What a process delivers

The output of a process reaches the pump as one list of happenings, in which the chunks of both
streams and the answers to the input are mixed. Here that list is compared with the streams
themselves. `ArrivalOrder` says which lists mix a behaviour faithfully: they are in order of time,
each source keeps its own order, and what happens at the same time may come in either order.

* `bytesFrom` — the bytes of one stream in a list of happenings, up to the end of the stream;
* `Behaviour.delivered` — the bytes of one stream of a behaviour, as far as they come in time, said
  without any mixing;
* `ArrivalOrder.delivered_eq` — the two agree, whatever the mixing;
* `Capture.takeAll_kept` — as long as the pump has no reason to stop, it holds exactly what it
  received, and no more than its caps.

The last one is the invariant of the pump. It is shown of one step (`Capture.take_kept`), for a
stream that is open and for one that is closed, and then of all steps by induction. Nothing of it
speaks of arrival orders: those come in with `ArrivalOrder.takeAll_start`, where what the pump
received is the beginning of what is delivered.

A filter for each source says that the source keeps its order, and says nothing of the others. So
whatever is proved along every arrival order holds however the operating system resolves ties.
-/

namespace ContestJudge.Exchange

open Text (Bytes)

variable {caps : OutputStream → Nat}

/-! ### One stream -/

/-- The bytes that a stream yields before it ends. -/
def content : List StreamEvent → Bytes
  | .data bytes :: rest => bytes ++ content rest
  | _ => []

/-- Whether a stream goes on after some reads. -/
def goesOn : List StreamEvent → Bool
  | [] => true
  | .data _ :: rest => goesOn rest
  | _ => false

/-- Data continue a stream, and nothing continues it once it has ended. -/
theorem content_append (before after : List StreamEvent) :
    content (before ++ after) =
      if goesOn before then content before ++ content after else content before := by
  induction before with
  | nil => rfl
  | cons event rest ih =>
    cases event with
    | data bytes =>
      rw [List.cons_append, content, content, goesOn, ih]
      split
      · rw [List.append_assoc]
      · rfl
    | ended => rfl
    | failed message => rfl

theorem goesOn_append (before after : List StreamEvent) :
    goesOn (before ++ after) = (goesOn before && goesOn after) := by
  induction before with
  | nil => rfl
  | cons event rest ih =>
    cases event with
    | data bytes => exact ih
    | ended => rfl
    | failed message => rfl

theorem content_prefix_append (before after : List StreamEvent) :
    content before <+: content (before ++ after) := by
  rw [content_append]
  split
  · exact List.prefix_append _ _
  · exact List.prefix_rfl

namespace Happening

/-- The stream that a happening comes from. -/
def stream? : Happening → Option OutputStream
  | .output stream _ => some stream
  | _ => none

/-- The read from a stream in a happening, if it is one. -/
def read? (stream : OutputStream) : Happening → Option StreamEvent
  | .output s event => if s = stream then some event else none
  | _ => none

/-- The message of a failed read or write. -/
def fault? : Happening → Option String
  | .inputFailed message => some message
  | .output _ (.failed message) => some message
  | _ => none

end Happening

/-- All reads from a stream. -/
def readsOf (stream : OutputStream) (events : List (Nat × Happening)) : List StreamEvent :=
  events.filterMap fun e ↦ e.2.read? stream

/-- The bytes that were received from a stream. -/
def bytesFrom (stream : OutputStream) (events : List (Nat × Happening)) : Bytes :=
  content (readsOf stream events)

theorem readsOf_append (stream : OutputStream) (before after : List (Nat × Happening)) :
    readsOf stream (before ++ after) = readsOf stream before ++ readsOf stream after :=
  List.filterMap_append

theorem readsOf_cons (stream : OutputStream) (e : Nat × Happening)
    (rest : List (Nat × Happening)) :
    readsOf stream (e :: rest) = (e.2.read? stream).toList ++ readsOf stream rest := by
  rw [readsOf, List.filterMap_cons]
  cases e.2.read? stream <;> rfl

/-- What was received only grows. -/
theorem bytesFrom_prefix_append (stream : OutputStream) (before after : List (Nat × Happening)) :
    bytesFrom stream before <+: bytesFrom stream (before ++ after) := by
  rw [bytesFrom, bytesFrom, readsOf_append]
  exact content_prefix_append _ _

/-- A chunk continues a stream that goes on. -/
theorem bytesFrom_append_data {stream : OutputStream} {before : List (Nat × Happening)}
    (h : goesOn (readsOf stream before) = true) (time : Nat) (bytes : Bytes) :
    bytesFrom stream (before ++ [(time, .output stream (.data bytes))]) =
      bytesFrom stream before ++ bytes := by
  have hchunk : content (readsOf stream [(time, .output stream (.data bytes))]) = bytes := by
    simp [readsOf, Happening.read?, content]
  rw [bytesFrom, bytesFrom, readsOf_append, content_append, if_pos h, hchunk]

/-- Happenings at times that count are kept. -/
theorem filter_append_of_counts {counts : Nat → Bool} {before : List (Nat × Happening)}
    (h : ∀ e ∈ before, counts e.1 = true) (after : List (Nat × Happening)) :
    (before ++ after).filter (fun e ↦ counts e.1) =
      before ++ after.filter fun e ↦ counts e.1 := by
  rw [List.filter_append, List.filter_eq_self.2 h]

/-- What comes after the deadline is late, if it comes in order. -/
theorem filter_inTime_eq_nil {d : Nat} {after : List (Nat × Happening)}
    (hsorted : after.Pairwise fun e later ↦ e.1 ≤ later.1) (hlate : ∀ e ∈ after.head?, d < e.1) :
    after.filter (fun e ↦ inTime (some d) e.1) = [] := by
  rcases after with - | ⟨first, rest⟩
  · rfl
  have hfirst : d < first.1 := hlate first rfl
  obtain ⟨hrest, -⟩ := List.pairwise_cons.1 hsorted
  refine List.filter_eq_nil_iff.2 fun e he ↦ ?_
  rw [inTime_some, Nat.not_le]
  rcases List.mem_cons.1 he with rfl | he
  · exact hfirst
  · exact Nat.lt_of_lt_of_le hfirst (hrest e he)

/-! ### Both streams and the input in one order -/

/-- **An arrival order** of a behaviour: everything that happens, in order of time, each source in
its own order. What happens at the same time may come in either order. -/
structure ArrivalOrder (b : Behaviour) (input : Bytes) (events : List (Nat × Happening)) :
    Prop where
  /-- Nothing comes after what is later. -/
  sorted : events.Pairwise fun e later ↦ e.1 ≤ later.1
  /-- The input is answered in its own order. -/
  fed : events.filter (fun e ↦ e.2.stream? = none) = feed b.input input
  /-- Each stream is read in its own order. -/
  output : ∀ stream, events.filter (fun e ↦ e.2.stream? = some stream) = outputEvents b stream

/-- The bytes of a stream that come at times which count, up to the end of the stream. -/
def Behaviour.delivered (b : Behaviour) (counts : Nat → Bool) (stream : OutputStream) : Bytes :=
  content ((((b.output stream).getD []).filter fun e ↦ counts e.1).map (·.2))

theorem readsOf_filter_stream (stream : OutputStream) (events : List (Nat × Happening)) :
    readsOf stream (events.filter fun e ↦ e.2.stream? = some stream) = readsOf stream events := by
  rw [readsOf, readsOf, List.filterMap_filter]
  congr 1
  funext e
  obtain ⟨time, happening⟩ := e
  cases happening <;> simp [Happening.stream?, Happening.read?]

namespace ArrivalOrder

variable {b : Behaviour} {input : Bytes} {events : List (Nat × Happening)}

/-- The reads at times that count are those of the stream itself. -/
theorem readsOf_filter (h : ArrivalOrder b input events) (counts : Nat → Bool)
    (stream : OutputStream) :
    readsOf stream (events.filter fun e ↦ counts e.1) =
      (((b.output stream).getD []).filter fun e ↦ counts e.1).map (·.2) := by
  have hcomm : (events.filter fun e ↦ counts e.1).filter (fun e ↦ e.2.stream? = some stream) =
      (events.filter fun e ↦ e.2.stream? = some stream).filter fun e ↦ counts e.1 := by
    simp only [List.filter_filter, Bool.and_comm]
  rw [← readsOf_filter_stream, hcomm, h.output, outputEvents, List.filter_map, readsOf,
    List.filterMap_map, ← List.filterMap_eq_map]
  congr 1
  funext e
  simp [Happening.read?]

/-- **Mixing loses and adds nothing.** -/
theorem delivered_eq (h : ArrivalOrder b input events) (counts : Nat → Bool)
    (stream : OutputStream) :
    b.delivered counts stream = bytesFrom stream (events.filter fun e ↦ counts e.1) := by
  rw [bytesFrom, h.readsOf_filter, Behaviour.delivered]

/-- A stream that is no pipe is never read. -/
theorem readsOf_filter_eq_nil (h : ArrivalOrder b input events) (counts : Nat → Bool)
    {stream : OutputStream} (hnone : b.output stream = none) :
    readsOf stream (events.filter fun e ↦ counts e.1) = [] := by
  rw [h.readsOf_filter, hnone]
  rfl

end ArrivalOrder

/-! ### What the pump holds -/

/-- **One step of the pump** that is no reason to stop: an open stream is kept, as far as it goes,
and a closed one is left alone; no cap is overrun. -/
theorem Capture.take_kept {c c' : Capture} {happening : Happening}
    (h : c.take caps happening = (none, c')) (stream : OutputStream) :
    (c.isOpen stream = true →
      c'.kept stream = c.kept stream ++ content (happening.read? stream).toList ∧
        c'.isOpen stream = goesOn (happening.read? stream).toList) ∧
    (c.isOpen stream = false → c'.kept stream = c.kept stream ∧ c'.isOpen stream = false) ∧
    ((c.kept stream).length ≤ caps stream → (c'.kept stream).length ≤ caps stream) := by
  cases happening with
  | fed bytes =>
    cases h
    simp [Happening.read?, content, goesOn]
  | inputEnded how =>
    cases h
    simp [Happening.read?, content, goesOn]
  | inputFailed message => cases h
  | output s event =>
    rcases hopen : c.isOpen s with - | -
    · rw [take_of_closed hopen] at h
      cases h
      by_cases hs : s = stream
      · subst hs; simp [hopen]
      · simp [Happening.read?, hs, content, goesOn]
    cases event with
    | data bytes =>
      rcases Nat.lt_or_ge (caps s - (c.kept s).length) bytes.length with hlt | hle
      · rw [take_data_of_lt hopen hlt] at h
        cases h
      rw [take_data_of_le hopen hle] at h
      cases h
      by_cases hs : s = stream
      · subst hs
        simp [Happening.read?, setStream, content, goesOn, hopen]
        omega
      · simp [Happening.read?, hs, setStream, Ne.symm hs, content, goesOn]
    | ended =>
      rw [take_ended hopen] at h
      cases h
      by_cases hs : s = stream
      · subst hs; simp [Happening.read?, setStream, content, goesOn, hopen]
      · simp [Happening.read?, hs, setStream, Ne.symm hs, content, goesOn]
    | failed message =>
      rw [take_failed hopen] at h
      cases h

/-- **What the pump holds** after taking in some happenings, by induction from its steps. -/
theorem Capture.takeAll_kept {c c' : Capture} {events : List (Nat × Happening)}
    (h : c.takeAll caps events = some c') (stream : OutputStream) :
    (c.isOpen stream = true →
      c'.kept stream = c.kept stream ++ bytesFrom stream events ∧
        c'.isOpen stream = goesOn (readsOf stream events)) ∧
    (c.isOpen stream = false → c'.kept stream = c.kept stream ∧ c'.isOpen stream = false) ∧
    ((c.kept stream).length ≤ caps stream → (c'.kept stream).length ≤ caps stream) := by
  induction events generalizing c with
  | nil =>
    obtain rfl := Option.some.inj h
    simp [bytesFrom, readsOf, content, goesOn]
  | cons e rest ih =>
    obtain ⟨time, happening⟩ := e
    rw [takeAll] at h
    split at h
    · next c₁ htake =>
      obtain ⟨hopen, hclosed, hcap⟩ := take_kept htake stream
      obtain ⟨ihopen, ihclosed, ihcap⟩ := ih h
      refine ⟨fun ho ↦ ?_, fun hc ↦ ?_, fun hle ↦ ihcap (hcap hle)⟩
      · obtain ⟨hkept, hstep⟩ := hopen ho
        rw [bytesFrom, readsOf_cons, content_append, goesOn_append]
        rcases hgo : goesOn (happening.read? stream).toList with - | -
        · -- this read ended the stream, so what follows leaves it alone
          obtain ⟨hkept', hclosed'⟩ := ihclosed (hstep.trans hgo)
          rw [hkept', hkept, hclosed']
          exact ⟨rfl, rfl⟩
        · obtain ⟨hkept', hopen'⟩ := ihopen (hstep.trans hgo)
          rw [hkept', hkept, hopen', List.append_assoc]
          exact ⟨rfl, rfl⟩
      · obtain ⟨hkept, hstep⟩ := hclosed hc
        obtain ⟨hkept', hclosed'⟩ := ihclosed hstep
        exact ⟨hkept'.trans hkept, hclosed'⟩
    · cases h

/-- A stream that the pump still waits for goes on. -/
theorem Capture.goesOn_of_isOpen {b : Behaviour} {before : List (Nat × Happening)} {c : Capture}
    {stream : OutputStream} (htake : (Capture.start b).takeAll caps before = some c)
    (hopen : c.isOpen stream = true) : goesOn (readsOf stream before) = true := by
  obtain ⟨hgo, hclosed, -⟩ := takeAll_kept htake stream
  rcases hstart : (Capture.start b).isOpen stream with - | -
  · have hend := (hclosed hstart).2
    rw [hopen] at hend
    cases hend
  · rw [← (hgo hstart).2, hopen]

/-- **The invariant of an exchange**: along an arrival order the pump holds what it received, within
its caps, and a stream that it does not wait for any more delivers nothing else. -/
theorem ArrivalOrder.takeAll_start {b : Behaviour} {input : Bytes}
    {before after : List (Nat × Happening)} {c : Capture}
    (h : ArrivalOrder b input (before ++ after)) {counts : Nat → Bool}
    (hcounts : ∀ e ∈ before, counts e.1 = true)
    (htake : (Capture.start b).takeAll caps before = some c) (stream : OutputStream) :
    c.kept stream = bytesFrom stream before ∧ (c.kept stream).length ≤ caps stream ∧
      (c.isOpen stream = false → b.delivered counts stream = bytesFrom stream before) := by
  obtain ⟨hopen, hclosed, hcap⟩ := Capture.takeAll_kept htake stream
  have hsplit := filter_append_of_counts hcounts after
  rw [h.delivered_eq, hsplit]
  rcases hpipe : b.output stream with - | reads
  · -- no pipe: nothing is read, now or later
    have hnil := h.readsOf_filter_eq_nil counts hpipe
    have hbefore : readsOf stream before = [] := by
      rw [hsplit, readsOf_append] at hnil
      exact (List.append_eq_nil_iff.1 hnil).1
    have hstart : (Capture.start b).isOpen stream = false := by simp [Capture.start, hpipe]
    rw [(hclosed hstart).1, bytesFrom, hbefore, bytesFrom, ← hsplit, hnil]
    exact ⟨rfl, Nat.zero_le _, fun _ ↦ rfl⟩
  · have hstart : (Capture.start b).isOpen stream = true := by simp [Capture.start, hpipe]
    obtain ⟨hkept, hgo⟩ := hopen hstart
    refine ⟨hkept, hcap (Nat.zero_le _), fun hend ↦ ?_⟩
    rw [bytesFrom, readsOf_append, content_append, ← hgo, hend]
    rfl

end ContestJudge.Exchange
