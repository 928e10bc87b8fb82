import ContestJudge.Proofs.Exchange.Delivery

/-!
# The timeline is an arrival order

The happenings that an exchange goes through are merged from three sources: the input, standard
output and standard error. If each output stream is read in order of time, the merged list is one of
the arrival orders of the behaviour (`arrivalOrder_timeline`), so that whatever is proved along
every arrival order holds of `run`.

The input needs no such condition, because a write begins only when the one before it has been
answered. `FeedsFrom` lists the ways in which feeding can go, and what is to be known of it is
proved along them (`FeedsFrom.spec`).

Merging keeps what each source yields in its order, as a filter finds it again (`filter_merge_left`,
`filter_merge_right`). Where both sources are in order of time, merging and filtering may be
exchanged (`filter_merge_notLater`), which says what becomes of a timeline when some of its
happenings are left out.
-/

namespace ContestJudge.Exchange

open Text (Bytes)

/-! ### Merging -/

variable {le : Nat × Happening → Nat × Happening → Bool} {p : Nat × Happening → Bool}

/-- What is wanted of a merged list comes from one of its parts, if the other has nothing of it. -/
theorem filter_merge_left {l r : List (Nat × Happening)} (hr : ∀ e ∈ r, p e = false) :
    (l.merge r le).filter p = l.filter p := by
  fun_induction List.merge l r le with
  | case1 r => rw [List.filter_eq_nil_iff.2 fun e he ↦ by simp [hr e he]]; rfl
  | case2 l => rfl
  | case3 x l y r hle ih => rw [List.filter_cons, List.filter_cons, ih hr]
  | case4 x l y r hle ih =>
    obtain ⟨hy, hr⟩ := List.forall_mem_cons.1 hr
    rw [List.filter_cons_of_neg (by simp [hy]), ih hr]

theorem filter_merge_right {l r : List (Nat × Happening)} (hl : ∀ e ∈ l, p e = false) :
    (l.merge r le).filter p = r.filter p := by
  fun_induction List.merge l r le with
  | case1 r => rfl
  | case2 l => rw [List.filter_eq_nil_iff.2 fun e he ↦ by simp [hl e he]]; rfl
  | case3 x l y r hle ih =>
    obtain ⟨hx, hl⟩ := List.forall_mem_cons.1 hl
    rw [List.filter_cons_of_neg (by simp [hx]), ih hl]
  | case4 x l y r hle ih => rw [List.filter_cons, List.filter_cons, ih hl]

/-- Merging keeps the order of time. -/
theorem pairwise_merge_notLater {l r : List (Nat × Happening)}
    (hl : l.Pairwise fun e later ↦ e.1 ≤ later.1) (hr : r.Pairwise fun e later ↦ e.1 ≤ later.1) :
    (l.merge r notLater).Pairwise fun e later ↦ e.1 ≤ later.1 := by
  have hle : ∀ e later : Nat × Happening, notLater e later = true ↔ e.1 ≤ later.1 := by
    simp [notLater]
  have htrans : ∀ a b c : Nat × Happening, notLater a b → notLater b c → notLater a c := by
    simp only [hle]
    omega
  have htotal : ∀ a b : Nat × Happening, (notLater a b || notLater b a) = true := by
    simp only [Bool.or_eq_true, hle]
    omega
  refine (List.pairwise_merge htrans htotal l r ?_ ?_).imp fun h ↦ (hle _ _).1 h
  · exact hl.imp fun h ↦ (hle _ _).2 h
  · exact hr.imp fun h ↦ (hle _ _).2 h

/-- What is no later than the other list comes first. -/
theorem cons_merge_notLater {x : Nat × Happening} {l r : List (Nat × Happening)}
    (h : ∀ y ∈ r, x.1 ≤ y.1) : (x :: l).merge r notLater = x :: l.merge r notLater := by
  rcases r with - | ⟨y, r⟩
  · rw [List.merge_right, List.merge_right]
  · have hle : notLater x y = true := decide_eq_true (h y List.mem_cons_self)
    exact List.cons_merge_cons_pos _ _ _ hle

/-- What is earlier than the other list comes first. -/
theorem merge_cons_notLater {y : Nat × Happening} {l r : List (Nat × Happening)}
    (h : ∀ x ∈ l, y.1 < x.1) : l.merge (y :: r) notLater = y :: l.merge r notLater := by
  rcases l with - | ⟨x, l⟩
  · rw [List.nil_merge, List.nil_merge]
  · have hlt := h x List.mem_cons_self
    have hle : ¬notLater x y = true := by simpa [notLater] using hlt
    exact List.cons_merge_cons_neg _ _ _ hle

/-- **Along the order of time** a part of a merged list is merged from the parts. -/
theorem filter_merge_notLater {l r : List (Nat × Happening)}
    (hl : l.Pairwise fun e later ↦ e.1 ≤ later.1) (hr : r.Pairwise fun e later ↦ e.1 ≤ later.1) :
    (l.merge r notLater).filter p = (l.filter p).merge (r.filter p) notLater := by
  fun_induction List.merge l r notLater with
  | case1 r => rw [List.filter_nil, List.nil_merge]
  | case2 l => rw [List.filter_nil, List.merge_right]
  | case3 x l y r hle ih =>
    obtain ⟨-, hl⟩ := List.pairwise_cons.1 hl
    have hfirst : ∀ z ∈ (y :: r).filter p, x.1 ≤ z.1 := by
      intro z hz
      have hxy : x.1 ≤ y.1 := of_decide_eq_true hle
      rcases List.mem_cons.1 (List.mem_filter.1 hz).1 with rfl | hz
      · exact hxy
      · exact Nat.le_trans hxy ((List.pairwise_cons.1 hr).1 z hz)
    rw [List.filter_cons, ih hl hr, List.filter_cons (x := x)]
    split
    · exact (cons_merge_notLater hfirst).symm
    · rfl
  | case4 x l y r hle ih =>
    obtain ⟨-, hr⟩ := List.pairwise_cons.1 hr
    have hfirst : ∀ z ∈ (x :: l).filter p, y.1 < z.1 := by
      intro z hz
      have hyx : y.1 < x.1 := by simpa [notLater] using hle
      rcases List.mem_cons.1 (List.mem_filter.1 hz).1 with rfl | hz
      · exact hyx
      · exact Nat.lt_of_lt_of_le hyx ((List.pairwise_cons.1 hl).1 z hz)
    rw [List.filter_cons, ih hl hr, List.filter_cons (x := y)]
    split
    · exact (merge_cons_notLater hfirst).symm
    · rfl

/-! ### The three sources -/

/-- One happening that is not about a stream. -/
theorem singleton_spec {now : Nat} {e : Nat × Happening} (hnow : now ≤ e.1)
    (hstream : e.2.stream? = none) :
    [e].Pairwise (fun e later ↦ e.1 ≤ later.1) ∧
      ∀ e' ∈ [e], now ≤ e'.1 ∧ e'.2.stream? = none := by
  refine ⟨List.pairwise_singleton _ _, fun e' he' ↦ ?_⟩
  obtain rfl := List.mem_singleton.1 he'
  exact ⟨hnow, hstream⟩

/-- Closing the input takes its time from when it begins. -/
theorem closeInput_spec {now : Nat} {closing : Option (Nat × CloseAnswer)} :
    (closeInput now closing).Pairwise (fun e later ↦ e.1 ≤ later.1) ∧
      ∀ e ∈ closeInput now closing, now ≤ e.1 ∧ e.2.stream? = none := by
  rcases closing with - | ⟨time, - | - | message⟩
  · exact ⟨.nil, by simp [closeInput]⟩
  · exact singleton_spec (Nat.le_max_left _ _) rfl
  · exact singleton_spec (Nat.le_max_left _ _) rfl
  · exact singleton_spec (Nat.le_max_left _ _) rfl

/-- **How feeding goes** from some time on, with a rest of the input that is still to be written and
the answers to its writes. -/
inductive FeedsFrom (closing : Option (Nat × CloseAnswer)) :
    Nat → Bytes → List (Nat × WriteAnswer) → List (Nat × Happening) → Prop
  /-- Everything was taken, and the input is closed. -/
  | closes {now writes} : FeedsFrom closing now [] writes (closeInput now closing)
  /-- A write is never answered. -/
  | stalls {now rest} (more : rest ≠ []) : FeedsFrom closing now rest [] []
  /-- A write takes some bytes, and then the next one begins. -/
  | takes {now time count rest writes events} (more : rest ≠ []) (progress : 0 < count)
      (next : FeedsFrom closing (max now time) (rest.drop count) writes events) :
      FeedsFrom closing now rest ((time, .taken count) :: writes)
        ((max now time, .fed (rest.take count)) :: events)
  /-- A write takes nothing. -/
  | sticks {now time rest writes} (more : rest ≠ []) :
      FeedsFrom closing now rest ((time, .taken 0) :: writes)
        [(max now time, .inputFailed noProgress)]
  /-- A write fails. -/
  | fails {now time message rest writes} (more : rest ≠ []) :
      FeedsFrom closing now rest ((time, .failed message) :: writes)
        [(max now time, .inputFailed message)]
  /-- The process closed its end. -/
  | breaks {now time rest writes} (more : rest ≠ []) :
      FeedsFrom closing now rest ((time, .brokenPipe) :: writes)
        [(max now time, .inputEnded .brokenPipe)]

/-- All feeding goes one of these ways, by the recursion of the writes. -/
theorem feedsFrom (closing : Option (Nat × CloseAnswer)) (now : Nat) (rest : Bytes)
    (writes : List (Nat × WriteAnswer)) :
    FeedsFrom closing now rest writes (feedFrom now closing rest writes) := by
  induction writes generalizing now rest with
  | nil =>
    rw [feedFrom]
    split
    · next hempty =>
      obtain rfl := List.isEmpty_iff.1 hempty
      exact .closes
    · next hmore => exact .stalls fun h ↦ hmore (List.isEmpty_iff.2 h)
  | cons answer answers ih =>
    obtain ⟨time, answer⟩ := answer
    rw [feedFrom]
    split
    · next hempty =>
      obtain rfl := List.isEmpty_iff.1 hempty
      exact .closes
    next hmore =>
    have hrest : rest ≠ [] := fun h ↦ hmore (List.isEmpty_iff.2 h)
    cases answer with
    | brokenPipe => exact .breaks hrest
    | failed message => exact .fails hrest
    | taken count =>
      rcases count with - | count
      · exact .sticks hrest
      · exact .takes hrest (Nat.succ_pos count) (ih _ _)

/-- **Feeding goes forward in time.** -/
theorem FeedsFrom.spec {closing : Option (Nat × CloseAnswer)} {now : Nat} {rest : Bytes}
    {writes : List (Nat × WriteAnswer)} {events : List (Nat × Happening)}
    (h : FeedsFrom closing now rest writes events) :
    events.Pairwise (fun e later ↦ e.1 ≤ later.1) ∧
      ∀ e ∈ events, now ≤ e.1 ∧ e.2.stream? = none := by
  induction h with
  | closes => exact closeInput_spec
  | stalls more => exact ⟨.nil, by simp⟩
  | sticks more => exact singleton_spec (Nat.le_max_left _ _) rfl
  | fails more => exact singleton_spec (Nat.le_max_left _ _) rfl
  | breaks more => exact singleton_spec (Nat.le_max_left _ _) rfl
  | @takes now time count rest writes events more progress next ih =>
    obtain ⟨hsorted, hall⟩ := ih
    have hnow : now ≤ max now time := Nat.le_max_left _ _
    refine ⟨List.pairwise_cons.2 ⟨fun e he ↦ (hall e he).1, hsorted⟩, ?_⟩
    refine List.forall_mem_cons.2 ⟨⟨hnow, rfl⟩, fun e he ↦ ?_⟩
    exact ⟨Nat.le_trans hnow (hall e he).1, (hall e he).2⟩

theorem feed_spec (pipe : Option InputPipe) (input : Bytes) :
    (feed pipe input).Pairwise (fun e later ↦ e.1 ≤ later.1) ∧
      ∀ e ∈ feed pipe input, e.2.stream? = none := by
  rcases pipe with - | pipe
  · simp [feed, Happening.stream?]
  · obtain ⟨hsorted, hall⟩ := (feedsFrom pipe.closing 0 input pipe.writes).spec
    exact ⟨hsorted, fun e he ↦ (hall e he).2⟩

theorem stream?_of_mem_outputEvents {b : Behaviour} {stream : OutputStream} {e : Nat × Happening}
    (h : e ∈ outputEvents b stream) : e.2.stream? = some stream := by
  obtain ⟨read, -, rfl⟩ := List.mem_map.1 h
  rfl

/-- **The timeline is an arrival order**, if each stream is in order of time. -/
theorem arrivalOrder_timeline {b : Behaviour}
    (h : ∀ stream, ((b.output stream).getD []).Pairwise fun e later ↦ e.1 ≤ later.1)
    (input : Bytes) : ArrivalOrder b input (timeline b input) := by
  obtain ⟨hfeed, hfeedNone⟩ := feed_spec b.input input
  have hsorted : ∀ stream,
      (outputEvents b stream).Pairwise fun e later ↦ e.1 ≤ later.1 := fun stream ↦
    (List.pairwise_map.2 (h stream))
  have hother : ∀ {s stream : OutputStream}, s ≠ stream → ∀ e ∈ outputEvents b s,
      decide (e.2.stream? = some stream) = false := by
    intro s stream hne e he
    simp [stream?_of_mem_outputEvents he, hne]
  have hself : ∀ stream, (outputEvents b stream).filter (fun e ↦ e.2.stream? = some stream) =
      outputEvents b stream := fun stream ↦
    List.filter_eq_self.2 fun e he ↦ by simp [stream?_of_mem_outputEvents he]
  have hfed : ∀ stream, ∀ e ∈ feed b.input input,
      decide (e.2.stream? = some stream) = false := by
    intro stream e he
    simp [hfeedNone e he]
  refine ⟨pairwise_merge_notLater (pairwise_merge_notLater hfeed (hsorted _)) (hsorted _), ?_, ?_⟩
  · have hnone : ∀ s, ∀ e ∈ outputEvents b s, decide (e.2.stream? = none) = false := by
      intro s e he
      simp [stream?_of_mem_outputEvents he]
    rw [timeline, filter_merge_left (hnone _), filter_merge_left (hnone _)]
    exact List.filter_eq_self.2 fun e he ↦ by simp [hfeedNone e he]
  · intro stream
    cases stream with
    | stdout =>
      rw [timeline, filter_merge_left (hother (by decide)), filter_merge_right (hfed _)]
      exact hself _
    | stderr =>
      rw [timeline, filter_merge_right, hself]
      intro e he
      rcases List.mem_merge.1 he with he | he
      · exact hfed _ e he
      · exact hother (by decide) e he

end ContestJudge.Exchange
