import ContestJudge.Grading.Grader
import ContestJudge.Proofs.Exchange.Resolution

/-!
# Streams that are held open

A descendant of a process may hold its streams open, so that they end long after the process, or
never. Such an exchange takes longer, up to the deadline, and ends with a kill of a process that may
have exited long before. None of that shows in its result: two behaviours that differ in the ends of
their streams alone (`SameButEnds`) lead to the same result, and so to the same verdict.

* `firstReason_withoutEnds` — an end is no reason to stop and comes after everything else that its
  stream yields, so the first reason is the same with and without the ends;
* `result_of_quiet` — where there is none, all that comes in time is captured, and the result is
  that of a wait for a process that is killed at the deadline, whether it is killed there or not
  (`waited_concat_of_le`: a kill after its end changes nothing);
* `SameButEnds.result_eq` — so the results are the same, along any two arrival orders that agree up
  to the ends.

## Two assumptions

The last rests on two assumptions without which it is false. If two reasons to stop come at the same
time, their order decides, so both exchanges have to take them in the same order; where nothing
comes at the same time as anything else they do (`SameButEnds.withoutEnds_eq_of_apart`, from
`eq_of_filter_eq`: without ties there is one order). And an exchange that is held open may make one
attempt more at killing its process, so an attempt must not turn out otherwise because of earlier
ones (`Behaviour.Consistent`).

Nothing is assumed of when the process exits. It may exit before its streams end, after them, or not
at all, and killing it may fail, as long as it fails always.

## How ends are dropped

Ends are dropped from a list of happenings by a filter (`withoutEnds`), and nothing else is compared
than what is left. Dropping them loses no bytes, since nothing follows the end of a stream
(`EndsLast.bytesFrom_withoutEnds`); for a stream that could go on after its end this would be wrong,
which is why `Behaviour.Timely` has that its ends come last.
-/

namespace ContestJudge.Exchange

open Text (Bytes)

variable {b b' : Behaviour} {wallTime : Duration} {caps : OutputStream → Nat} {killedBefore : Bool}
  {input : Bytes} {events before : List (Nat × Happening)} {e : Nat × Happening} {why : Stop}
  {r r' : Run}

/-! ### Behaviours up to their ends -/

/-- A read of something. -/
def StreamEvent.isNews (event : StreamEvent) : Bool := event ≠ .ended

/-- Each stream of a behaviour is in order of time, and nothing follows its end. -/
structure Behaviour.Timely (b : Behaviour) : Prop where
  /-- Nothing comes after what is later. -/
  sorted : ∀ stream, ((b.output stream).getD []).Pairwise fun e later ↦ e.1 ≤ later.1
  /-- An end is the last that comes. -/
  endsLast : ∀ stream, ∀ e ∈ ((b.output stream).getD []).dropLast, e.2.isNews = true

/-- Killing a process and waiting for it turn out the same however often that was tried before. -/
structure Behaviour.Consistent (b : Behaviour) : Prop where
  resists : ∀ attempt, b.resists attempt = b.resists 0
  faultOf : ∀ wait, b.faultOf wait = b.faultOf 0

/-- **Two behaviours that differ in the ends of their streams alone**: in when a stream ends, or
whether it does. -/
structure SameButEnds (b b' : Behaviour) : Prop where
  timely : b.Timely
  timely' : b'.Timely
  consistent : b.Consistent
  /-- Nothing but the streams differs. -/
  rest : b' = { b with output := b'.output }
  /-- The streams carry the same data and failures at the same times. -/
  news : ∀ stream, (b.output stream).map (·.filter (·.2.isNews)) =
    (b'.output stream).map (·.filter (·.2.isNews))

/-- Whether something else than the end of a stream happens. -/
def Happening.isNews : Happening → Bool
  | .output _ event => event.isNews
  | _ => true

/-- What happens besides the ends of streams. -/
def withoutEnds (events : List (Nat × Happening)) : List (Nat × Happening) :=
  events.filter (·.2.isNews)

/-! ### Happenings up to their ends -/

theorem readsOf_withoutEnds (stream : OutputStream) (events : List (Nat × Happening)) :
    readsOf stream (withoutEnds events) = (readsOf stream events).filter (·.isNews) := by
  rw [readsOf, readsOf, withoutEnds, List.filterMap_filter, List.filter_filterMap]
  congr 1
  funext e
  obtain ⟨time, happening⟩ := e
  cases happening with
  | output s event =>
    by_cases hs : s = stream <;> simp [Happening.read?, Happening.isNews, hs, Option.filter]
  | _ => rfl

/-- Nothing follows the end of a stream. -/
def EndsLast (events : List (Nat × Happening)) : Prop :=
  ∀ stream, ∀ event ∈ (readsOf stream events).dropLast, event.isNews = true

theorem EndsLast.mono (h : EndsLast events) (hbefore : before <+: events) :
    EndsLast before := by
  intro stream event hmem
  obtain ⟨after, rfl⟩ := hbefore
  refine h stream event ?_
  rw [readsOf_append]
  rcases hafter : readsOf stream after with - | ⟨first, rest⟩
  · rwa [List.append_nil]
  · rw [List.dropLast_append_of_ne_nil (by simp)]
    exact List.mem_append_left _ ((List.dropLast_sublist _).subset hmem)

/-- A stream that is read has not ended before. -/
theorem EndsLast.readsOf_withoutEnds (h : EndsLast (before ++ [e])) {stream : OutputStream}
    (he : e.2.stream? = some stream) :
    readsOf stream (withoutEnds before) = readsOf stream before := by
  rw [Exchange.readsOf_withoutEnds, List.filter_eq_self]
  intro event hmem
  refine h stream event ?_
  rw [readsOf_append, List.dropLast_append_of_ne_nil]
  · exact List.mem_append_left _ hmem
  · obtain ⟨time, happening⟩ := e
    cases happening <;> simp_all [Happening.stream?, readsOf, Happening.read?]

/-- The end of a stream adds nothing to it. -/
theorem EndsLast.bytesFrom_withoutEnds (h : EndsLast events) (stream : OutputStream) :
    bytesFrom stream (withoutEnds events) = bytesFrom stream events := by
  rw [bytesFrom, bytesFrom, Exchange.readsOf_withoutEnds]
  have hnews := h stream
  rcases List.eq_nil_or_concat (readsOf stream events) with hnil | ⟨front, last, hreads⟩
  · rw [hnil, List.filter_nil]
  · rw [hreads, List.concat_eq_append, List.dropLast_concat] at hnews
    rw [hreads, List.concat_eq_append, List.filter_append, List.filter_eq_self.2 hnews]
    cases last with
    | ended =>
      rw [show [StreamEvent.ended].filter (·.isNews) = [] from rfl, List.append_nil, content_append]
      simp [content]
    | data bytes => rfl
    | failed message => rfl

/-- No end is a reason to stop. -/
theorem Reason.isNews {happening : Happening} (h : Reason caps before happening why) :
    happening.isNews = true := by
  cases h <;> rfl

/-- **The ends have no part in any reason.** -/
theorem reason_withoutEnds (h : EndsLast (before ++ [e])) :
    Reason caps (withoutEnds before) e.2 why ↔ Reason caps before e.2 why := by
  obtain ⟨time, happening⟩ := e
  cases happening with
  | output stream event =>
    have hreads : readsOf stream (withoutEnds before) = readsOf stream before :=
      h.readsOf_withoutEnds rfl
    have hbytes : bytesFrom stream (withoutEnds before) = bytesFrom stream before :=
      congrArg content hreads
    constructor
    · intro hreason
      cases hreason with
      | read going => exact .read (hreads ▸ going)
      | overrun going full => exact .overrun (hreads ▸ going) (hbytes ▸ full)
    · intro hreason
      cases hreason with
      | read going => exact .read (hreads.symm ▸ going)
      | overrun going full => exact .overrun (hreads.symm ▸ going) (hbytes.symm ▸ full)
  | inputFailed message =>
    constructor
    · rintro ⟨⟩
      exact .input
    · rintro ⟨⟩
      exact .input
  | fed bytes => exact iff_of_false nofun nofun
  | inputEnded how => exact iff_of_false nofun nofun

/-- A place is kept when the ends are dropped, and each place that is left comes from one. -/
theorem prefix_withoutEnds_iff {kept : List (Nat × Happening)} (he : e.2.isNews = true) :
    kept ++ [e] <+: withoutEnds events ↔
      ∃ before, withoutEnds before = kept ∧ before ++ [e] <+: events := by
  constructor
  · rintro ⟨after, hafter⟩
    rw [List.append_assoc] at hafter
    obtain ⟨before, rest, rfl, hbefore, hrest⟩ := List.filter_eq_append_iff.1 hafter.symm
    obtain ⟨skipped, rest, rfl, hskipped, -, -⟩ := List.filter_eq_cons_iff.1 hrest
    refine ⟨before ++ skipped, ?_, rest, by simp⟩
    rw [withoutEnds, List.filter_append, List.filter_eq_nil_iff.2 hskipped, List.append_nil]
    exact hbefore
  · rintro ⟨before, rfl, after, rfl⟩
    refine ⟨withoutEnds after, ?_⟩
    simp [withoutEnds, he]

theorem quiet_withoutEnds (h : EndsLast events) :
    Quiet caps (withoutEnds events) ↔ Quiet caps events := by
  constructor
  · intro hquiet before e why hnext hreason
    refine hquiet _ e why ((prefix_withoutEnds_iff hreason.isNews).2 ⟨before, rfl, hnext⟩) ?_
    exact (reason_withoutEnds (h.mono hnext)).2 hreason
  · intro hquiet kept e why hkept hreason
    obtain ⟨before, rfl, hnext⟩ := (prefix_withoutEnds_iff hreason.isNews).1 hkept
    exact hquiet _ e why hnext ((reason_withoutEnds (h.mono hnext)).1 hreason)

/-- **The first reason to stop** is the same with and without the ends. -/
theorem firstReason_withoutEnds (h : EndsLast events)
    (hfirst : FirstReason caps events before e why) :
    FirstReason caps (withoutEnds events) (withoutEnds before) e why :=
  ⟨(quiet_withoutEnds (h.mono ((List.prefix_append _ _).trans hfirst.next))).2 hfirst.quiet,
    (prefix_withoutEnds_iff hfirst.reason.isNews).2 ⟨before, rfl, hfirst.next⟩,
    (reason_withoutEnds (h.mono hfirst.next)).2 hfirst.reason⟩

/-- Along an arrival order of a timely behaviour nothing follows the end of a stream. -/
theorem ArrivalOrder.endsLast (h : ArrivalOrder b input events) (hb : b.Timely) :
    EndsLast events := by
  intro stream event hmem
  have hreads := h.readsOf_filter (fun _ ↦ true) stream
  rw [List.filter_eq_self.2 (by simp), List.filter_eq_self.2 (by simp)] at hreads
  rw [hreads, ← List.map_dropLast] at hmem
  obtain ⟨e, he, rfl⟩ := List.mem_map.1 hmem
  exact hb.endsLast stream e he

/-! ### Orders without ties -/

/-- What happens at the same time is about the same stream, or about the input. -/
def Apart (events : List (Nat × Happening)) : Prop :=
  ∀ e ∈ events, ∀ other ∈ events, e.1 = other.1 → e.2.stream? = other.2.stream?

/-- **Without ties there is one order**: two lists that are in order of time and agree in each source
are the same. -/
theorem eq_of_filter_eq {l l' : List (Nat × Happening)}
    (hl : l.Pairwise fun e later ↦ e.1 ≤ later.1) (hl' : l'.Pairwise fun e later ↦ e.1 ≤ later.1)
    (hapart : Apart l)
    (h : ∀ source, l.filter (fun e ↦ e.2.stream? = source) =
      l'.filter fun e ↦ e.2.stream? = source) : l = l' := by
  have hmem : ∀ e, e ∈ l ↔ e ∈ l' := fun e ↦ by
    simpa using congrArg (e ∈ ·) (h e.2.stream?)
  induction l generalizing l' with
  | nil => exact (List.eq_nil_iff_forall_not_mem.2 fun e he ↦ by simpa using (hmem e).2 he).symm
  | cons x l ih =>
    rcases l' with - | ⟨y, l'⟩
    · simpa using (hmem x).1 List.mem_cons_self
    obtain ⟨hx, htail⟩ := List.pairwise_cons.1 hl
    obtain ⟨hy, htail'⟩ := List.pairwise_cons.1 hl'
    -- of two different heads each would come after the other
    have hsource : x.2.stream? = y.2.stream? := by
      rcases List.mem_cons.1 ((hmem x).1 List.mem_cons_self) with rfl | hxl'
      · rfl
      rcases List.mem_cons.1 ((hmem y).2 List.mem_cons_self) with rfl | hyl
      · rfl
      exact hapart x List.mem_cons_self y (List.mem_cons_of_mem _ hyl)
        (Nat.le_antisymm (hx y hyl) (hy x hxl'))
    obtain rfl : x = y := by
      have hheads := h x.2.stream?
      rw [List.filter_cons_of_pos (by simp), List.filter_cons_of_pos (by simp [hsource])] at hheads
      exact (List.cons.inj hheads).1
    have htails : ∀ source, l.filter (fun e ↦ e.2.stream? = source) =
        l'.filter fun e ↦ e.2.stream? = source := by
      intro source
      have hsource := h source
      rw [List.filter_cons, List.filter_cons] at hsource
      split at hsource
      · exact (List.cons.inj hsource).2
      · exact hsource
    have hrest : Apart l := fun e he other hother ↦
      hapart e (List.mem_cons_of_mem _ he) other (List.mem_cons_of_mem _ hother)
    rw [ih htail htail' hrest htails fun e ↦ by simpa using congrArg (e ∈ ·) (htails e.2.stream?)]

/-! ### The two exchanges -/

/-- Who ends in time ends the same way if killed later. -/
theorem ending_of_le {time kill : Nat} {status : ExitStatus}
    (h : b.ending none = some (time, status)) (hle : time ≤ kill) :
    b.ending (some kill) = some (time, status) := by
  rcases ending_eq_some_iff.1 h with ⟨hexit, hstatus, -⟩ | ⟨hkilled, -⟩
  · refine ending_eq_some_iff.2 (.inl ⟨hexit, hstatus, fun k hk ↦ ?_⟩)
    obtain rfl := Option.some.inj hk
    exact hle
  · cases hkilled

/-- **A kill after the end changes nothing** about how a wait completes. -/
theorem waited_concat_of_le {wait time kill : Nat} {attempts : List Nat}
    {result : Except String Usage} (h : b.waited wait attempts = some (time, result))
    (hle : time ≤ kill) : b.waited wait (attempts ++ [kill]) = some (time, result) := by
  rcases waited_eq_some_iff.1 h with ⟨message, hfault, hresult⟩ | ⟨hworks, status, hends, hresult⟩
  · exact waited_eq_some_iff.2 (.inl ⟨message, hfault, hresult⟩)
  refine waited_eq_some_iff.2 (.inr ⟨hworks, status, ?_, hresult⟩)
  rw [killing_concat]
  rcases hkilled : b.killing attempts with - | first
  · rw [hkilled] at hends
    cases b.resists attempts.length
    · exact ending_of_le hends hle
    · exact hends
  · rw [hkilled] at hends
    exact hends

namespace Behaviour.Consistent

/-- The first attempt decides whether a process is killed. -/
theorem killing_eq (h : b.Consistent) (attempts : List Nat) :
    b.killing attempts = if b.resists 0 then none else attempts.head? := by
  rcases attempts with - | ⟨time, later⟩
  · simp [killing]
  · cases hfirst : b.resists 0 with
    | true => exact killing_eq_none_iff.2 fun n _ ↦ (h.resists n).trans hfirst
    | false => simp [killing, List.zipIdx_cons, hfirst]

/-- An attempt after another one changes nothing. -/
theorem waited_concat (h : b.Consistent) {attempts : List Nat} (hmore : attempts ≠ [])
    (wait kill : Nat) : b.waited wait (attempts ++ [kill]) = b.waited wait attempts := by
  obtain ⟨first, later, rfl⟩ := List.exists_cons_of_ne_nil hmore
  rw [waited, waited, h.killing_eq, h.killing_eq]
  rfl

/-- All waits for a process complete alike. -/
theorem waited_eq (h : b.Consistent) (wait : Nat) (attempts : List Nat) :
    b.waited wait attempts = b.waited 0 attempts := by
  rw [waited, waited, h.faultOf]

end Behaviour.Consistent

/-- A reaping that begins by the deadline results in the same as a wait for a process that is killed
there, in addition to all earlier attempts. -/
theorem reap_result_of_le {deadline : Option Nat} {now : Nat} {attempts : List Nat} {z : Reaped}
    (hb : b.Consistent) (hnow : ∀ d ∈ deadline, now ≤ d)
    (h : reap b deadline now attempts = some z) :
    ∃ time, b.waited 0 (attempts ++ deadline.toList) = some (time, z.result) := by
  cases reap_eq_some_iff.1 h with
  | @prompt time result waits inTime =>
    refine ⟨time, ?_⟩
    rcases deadline with - | d
    · rw [Option.toList_none, List.append_nil]
      exact waits
    · have hprompt := inTime d rfl
      rw [Nat.max_eq_right (hnow d rfl)] at hprompt
      exact waited_concat_of_le waits hprompt
  | @late d time result bound pending waits =>
    subst bound
    rw [Nat.max_eq_right (hnow d rfl), hb.waited_eq] at waits
    exact ⟨time, waits⟩

/-- **Where nothing is a reason to stop**, all that comes in time is captured. The result is that of
a wait for a process that is killed at the deadline, although it may be killed there after it exited,
or not at all. -/
theorem result_of_quiet {counted : List (Nat × Happening)} (hb : b.Consistent)
    (hrun : runAlong b wallTime caps killedBefore events = some r)
    (hpumps : Pumps b caps (deadlineOf (budget wallTime)) counted r.pumped)
    (hquiet : Quiet caps counted) :
    ∃ time result,
      b.waited 0 (attemptsBefore killedBefore (deadlineOf (budget wallTime))) =
        some (time, result) ∧
      r.result = (result.mapError .reaping).map fun usage ↦
        ⟨bytesFrom .stdout counted, bytesFrom .stderr counted, none, usage⟩ := by
  obtain ⟨hpump, hkilled, -, hreap⟩ := runAlong_eq_some_iff.1 hrun
  obtain ⟨hkept, hstop⟩ := hpumps.kept_of_quiet hquiet
  obtain ⟨time, hwaited⟩ := reap_result_of_le hb (runAlong_pumped_le hrun) hreap
  refine ⟨time, r.reaped.result, ?_, ?_⟩
  · rw [← hwaited, hkilled]
    cases hpumps with
    | stopped first time kept => exact absurd hquiet first.not_quiet
    | settled quiet ended stop kept =>
      -- the pump has not killed, so the only attempt to come is the one at the deadline
      rw [Pumped.kill_of_finished stop]
      simp [attemptsBefore]
    | expired quiet pending stop bound kept =>
      -- the pump has killed at the deadline, and another attempt there changes nothing
      rw [Pumped.kill_of_ne_finished (by rw [stop]; decide), bound]
      exact (hb.waited_concat (by simp [attemptsBefore]) 0 _).symm
  · have hoverrun : r.pumped.stop.overrun? = none := by
      rcases hstop with hstop | hstop <;> rw [hstop] <;> rfl
    have houtcome : ∀ usage, r.pumped.outcome usage =
        ⟨bytesFrom .stdout counted, bytesFrom .stderr counted, none, usage⟩ := fun usage ↦ by
      rw [Pumped.outcome, hkept, hkept, hoverrun]
    rw [Run.result, Pumped.result.eq_def]
    rcases r.reaped.result with message | usage
    · rfl
    · show _ = Except.ok _
      rcases hstop with hstop | hstop <;> simp [hstop, houtcome]

namespace SameButEnds

variable {events' : List (Nat × Happening)}

/-- Reaping does not depend on the streams. -/
theorem reap_eq (h : SameButEnds b b') : reap b' = reap b := by
  rw [h.rest]
  rfl

theorem waited_eq (h : SameButEnds b b') : b'.waited = b.waited := by
  rw [h.rest]
  rfl

theorem consistent' (h : SameButEnds b b') : b'.Consistent := by
  rw [h.rest]
  exact ⟨h.consistent.resists, h.consistent.faultOf⟩

/-- What counts agrees up to the ends, if everything does. -/
theorem withoutEnds_filter (hsame : withoutEnds events = withoutEnds events')
    (counts : Nat → Bool) :
    withoutEnds (events.filter fun e ↦ counts e.1) =
      withoutEnds (events'.filter fun e ↦ counts e.1) := by
  have hcomm : ∀ events : List (Nat × Happening),
      withoutEnds (events.filter fun e ↦ counts e.1) =
        (withoutEnds events).filter fun e ↦ counts e.1 := fun events ↦ by
    simp only [withoutEnds, List.filter_filter, Bool.and_comm]
  rw [hcomm, hcomm, hsame]

/-- Two exchanges that stop for the same reason have the same result. -/
theorem result_eq_of_pumped (h : SameButEnds b b') (htime : r.pumped.time = r'.pumped.time)
    (hstop : r.pumped.stop = r'.pumped.stop)
    (hkept : r.pumped.capture.kept = r'.pumped.capture.kept)
    (hrun : runAlong b wallTime caps killedBefore events = some r)
    (hrun' : runAlong b' wallTime caps killedBefore events' = some r') : r.result = r'.result := by
  obtain ⟨-, hkilled, -, hreap⟩ := runAlong_eq_some_iff.1 hrun
  obtain ⟨-, hkilled', -, hreap'⟩ := runAlong_eq_some_iff.1 hrun'
  have hkill : r'.killed = r.killed := by
    rw [hkilled, hkilled', Pumped.kill, Pumped.kill, hstop, htime]
  rw [h.reap_eq, hkill, ← htime, hreap] at hreap'
  rw [Run.result, Run.result, ← Option.some.inj hreap', Pumped.result.eq_def, Pumped.result.eq_def]
  simp only [Pumped.outcome, hstop, hkept]

/-- Two exchanges in which nothing is a reason to stop have the same result. -/
theorem result_eq_of_quiet {counted counted' : List (Nat × Happening)} (h : SameButEnds b b')
    (hbytes : ∀ stream, bytesFrom stream counted = bytesFrom stream counted')
    (hquiet : Quiet caps counted) (hquiet' : Quiet caps counted')
    (hpumps : Pumps b caps (deadlineOf (budget wallTime)) counted r.pumped)
    (hpumps' : Pumps b' caps (deadlineOf (budget wallTime)) counted' r'.pumped)
    (hrun : runAlong b wallTime caps killedBefore events = some r)
    (hrun' : runAlong b' wallTime caps killedBefore events' = some r') : r.result = r'.result := by
  obtain ⟨time, result, hwaited, hresult⟩ := result_of_quiet h.consistent hrun hpumps hquiet
  obtain ⟨time', result', hwaited', hresult'⟩ :=
    result_of_quiet h.consistent' hrun' hpumps' hquiet'
  rw [h.waited_eq, hwaited] at hwaited'
  cases hwaited'
  rw [hresult, hresult', hbytes, hbytes]

/-- **Holding a stream open changes no result**, along two arrival orders that agree up to the
ends. -/
theorem result_eq (h : SameButEnds b b') (horder : ArrivalOrder b input events)
    (horder' : ArrivalOrder b' input events') (hsame : withoutEnds events = withoutEnds events')
    (hrun : runAlong b wallTime caps killedBefore events = some r)
    (hrun' : runAlong b' wallTime caps killedBefore events' = some r') : r.result = r'.result := by
  obtain ⟨hpump, -⟩ := runAlong_eq_some_iff.1 hrun
  obtain ⟨hpump', -⟩ := runAlong_eq_some_iff.1 hrun'
  have hpumps := horder.pumps hpump
  have hpumps' := horder'.pumps hpump'
  have hcounted := withoutEnds_filter hsame (inTime (deadlineOf (budget wallTime)))
  have hends := (horder.endsLast h.timely).mono
    (filter_inTime_prefix_self (deadlineOf (budget wallTime)) horder.sorted)
  have hends' := (horder'.endsLast h.timely').mono
    (filter_inTime_prefix_self (deadlineOf (budget wallTime)) horder'.sorted)
  have hquiet : Quiet caps (events.filter fun e ↦ inTime (deadlineOf (budget wallTime)) e.1) ↔
      Quiet caps (events'.filter fun e ↦ inTime (deadlineOf (budget wallTime)) e.1) := by
    rw [← quiet_withoutEnds hends, hcounted, quiet_withoutEnds hends']
  by_cases hwhole : Quiet caps (events.filter fun e ↦ inTime (deadlineOf (budget wallTime)) e.1)
  · refine result_eq_of_quiet h (fun stream ↦ ?_) hwhole (hquiet.1 hwhole) hpumps hpumps' hrun hrun'
    rw [← hends.bytesFrom_withoutEnds, hcounted, hends'.bytesFrom_withoutEnds]
  · obtain ⟨before, e, hfirst, htime, hkept⟩ := hpumps.exists_of_not_quiet hwhole
    obtain ⟨before', e', hfirst', htime', hkept'⟩ :=
      hpumps'.exists_of_not_quiet fun hwhole' ↦ hwhole (hquiet.2 hwhole')
    -- up to the ends both stop at the same place
    have hplace := firstReason_withoutEnds hends hfirst
    rw [hcounted] at hplace
    obtain ⟨hbefore, rfl, hstop⟩ := hplace.unique (firstReason_withoutEnds hends' hfirst')
    refine result_eq_of_pumped h (htime.trans htime'.symm) hstop (funext fun stream ↦ ?_) hrun hrun'
    have hupTo : withoutEnds (before ++ [e]) = withoutEnds (before' ++ [e]) := by
      rw [withoutEnds, withoutEnds, List.filter_append, List.filter_append]
      exact congrArg (· ++ _) hbefore
    rw [hkept, hkept', ← (hends.mono hfirst.next).bytesFrom_withoutEnds, hupTo,
      (hends'.mono hfirst'.next).bytesFrom_withoutEnds]

/-- A stream yields the same but for its end. -/
theorem withoutEnds_outputEvents (h : SameButEnds b b') (stream : OutputStream) :
    withoutEnds (outputEvents b stream) = withoutEnds (outputEvents b' stream) := by
  have hgetD : ∀ {b : Behaviour}, ((b.output stream).getD []).filter (·.2.isNews) =
      ((b.output stream).map (·.filter (·.2.isNews))).getD [] := fun {b} ↦ by
    cases b.output stream <;> rfl
  have hnews : ((b.output stream).getD []).filter (·.2.isNews) =
      ((b'.output stream).getD []).filter (·.2.isNews) := by
    rw [hgetD, hgetD, h.news stream]
  rw [withoutEnds, withoutEnds, outputEvents, outputEvents, List.filter_map, List.filter_map]
  exact congrArg (List.map _) hnews

theorem input_eq (h : SameButEnds b b') : b'.input = b.input := by
  rw [h.rest]

/-- The timelines agree up to the ends. -/
theorem withoutEnds_timeline (h : SameButEnds b b') (input : Bytes) :
    withoutEnds (timeline b input) = withoutEnds (timeline b' input) := by
  have hsorted : ∀ {b : Behaviour}, b.Timely → ∀ stream,
      (outputEvents b stream).Pairwise fun e later ↦ e.1 ≤ later.1 := fun hb stream ↦
    List.pairwise_map.2 (hb.sorted stream)
  have houtput : ∀ stream, (outputEvents b stream).filter (·.2.isNews) =
      (outputEvents b' stream).filter (·.2.isNews) := h.withoutEnds_outputEvents
  have hfeed := (feed_spec b.input input).1
  rw [withoutEnds, withoutEnds, timeline, timeline, h.input_eq,
    filter_merge_notLater (pairwise_merge_notLater hfeed (hsorted h.timely _)) (hsorted h.timely _),
    filter_merge_notLater (pairwise_merge_notLater hfeed (hsorted h.timely' _))
      (hsorted h.timely' _),
    filter_merge_notLater hfeed (hsorted h.timely _),
    filter_merge_notLater hfeed (hsorted h.timely' _), houtput, houtput]

/-- **Where nothing is simultaneous** all arrival orders agree up to the ends. -/
theorem withoutEnds_eq_of_apart (h : SameButEnds b b') (horder : ArrivalOrder b input events)
    (horder' : ArrivalOrder b' input events') (hapart : Apart (withoutEnds events)) :
    withoutEnds events = withoutEnds events' := by
  have hcomm : ∀ (events : List (Nat × Happening)) (source : Option OutputStream),
      (withoutEnds events).filter (fun e ↦ e.2.stream? = source) =
        withoutEnds (events.filter fun e ↦ e.2.stream? = source) := fun events source ↦ by
    simp only [withoutEnds, List.filter_filter, Bool.and_comm]
  refine eq_of_filter_eq (horder.sorted.filter _) (horder'.sorted.filter _) hapart fun source ↦ ?_
  rw [hcomm, hcomm]
  rcases source with - | stream
  · rw [horder.fed, horder'.fed, h.input_eq]
  · rw [horder.output, horder'.output, h.withoutEnds_outputEvents]

/-- Holding a stream open changes no result of an exchange by `run`. -/
theorem result_eq_of_run (h : SameButEnds b b')
    (hrun : run b wallTime caps killedBefore input = some r)
    (hrun' : run b' wallTime caps killedBefore input = some r') : r.result = r'.result :=
  h.result_eq (arrivalOrder_timeline h.timely.sorted input)
    (arrivalOrder_timeline h.timely'.sorted input) (h.withoutEnds_timeline input) hrun hrun'

end SameButEnds

end ContestJudge.Exchange
