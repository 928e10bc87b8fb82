import ContestJudge.Process.Handle
import Mathlib.Tactic.Common

/-!
# The life of a handle

Whatever is done with a handle, and whatever the system answers, is one of four operations, each
with the replies that it would get (`Handle.Operation`). Waiting for the process is a run of polls,
which may stop after any of them, and giving the handle up is a kill and a run of polls
(`Handle.drop_eq`). So the life of a handle is a list of operations, and what holds in it is kept by
each of them:

* a process that has been reaped stays so, with its report (`Handle.Event.quiet`): nothing is asked
  of the system any more;
* an exit that was seen stays seen, at the time at which it was seen first (`Handle.Sighted`).

## One step, then a run

What an operation changes about what is known of the process is listed once, for all operations
(`Handle.Change`, `Handle.perform_change`): nothing, or the exit is seen, or the process is reaped.
Each invariant is a case analysis of this list, and `Handle.history_invariant` carries it through a
history. What is asked of the system is said apart from that, of the one state in which nothing is
(`Handle.perform_of_reaped`).

The laws of a history speak of two events, one before the other. A history goes on from each of its
events (`Handle.history_split`), so whatever the first one leaves behind is kept up to the second.

## Time

The time of an operation is given with it, and nothing is assumed of the clock: it need not go
forward. So the wall time of a report is that between the launch and the first sighting, cut off at
zero, by subtraction of natural numbers (`Handle.Sighted.wallTime`).
-/

namespace ContestJudge

/-- Whether a reply ends the reaping of a process. -/
def Reply.isDecisive : Reply → Bool
  | .running => false
  | .interrupted => false
  | .exited .. => true
  | .failed _ => true

namespace Handle

/-! ### Operations -/

/-- Something that is done with a handle, and the reply to it. -/
inductive Operation where
  | take (pipe : Pipe)
  | checkExited (now : Duration) (reply : Reply)
  | kill (reply : KillReply)
  /-- One poll of a wait. -/
  | poll (now : Duration) (reply : Reply)

/-- What an operation answers. -/
inductive Answer where
  | taken (there : Bool)
  | checked (result : Except String Bool)
  | killed (result : Except String Unit)
  | polled (result : Except String (Option Usage))

/-- Does something with a handle. -/
def perform (h : Handle) : Operation → Move Answer
  | .take pipe =>
    let m := h.take pipe
    ⟨m.handle, m.requests, .taken m.answer⟩
  | .checkExited now reply =>
    let m := h.checkExited now reply
    ⟨m.handle, m.requests, .checked m.answer⟩
  | .kill reply =>
    let m := h.kill reply
    ⟨m.handle, m.requests, .killed m.answer⟩
  | .poll now reply =>
    let m := h.tryReap now reply
    ⟨m.handle, m.requests, .polled m.answer⟩

/-- An operation as it went. -/
structure Event where
  /-- The handle before it. -/
  before : Handle
  /-- The operation. -/
  operation : Operation

namespace Event

/-- What an event leads to. -/
def move (e : Event) : Move Answer := e.before.perform e.operation

/-- The process is reaped. -/
def Reaps (e : Event) : Prop :=
  e.move.requests = [.reap] ∧
    ∃ now status cpuTime peakMemory, e.operation = .poll now (.exited status cpuTime peakMemory)

/-- A wait ends with a report. -/
def Reports (e : Event) (report : Usage) : Prop := e.move.answer = .polled (.ok (some report))

/-- Someone is told at some time that the process has exited. -/
def Sights (e : Event) (now : Duration) : Prop :=
  (∃ reply, e.operation = .checkExited now reply ∧ e.move.answer = .checked (.ok true)) ∨
    ∃ reply report, e.operation = .poll now reply ∧ e.Reports report

end Event

/-- The handle after some operations. -/
def after (h : Handle) (operations : List Operation) : Handle :=
  operations.foldl (fun h operation ↦ (h.perform operation).handle) h

/-- The events of some operations. -/
def history (h : Handle) : List Operation → List Event
  | [] => []
  | operation :: rest => ⟨h, operation⟩ :: history (h.perform operation).handle rest

/-- **What every operation keeps** holds whenever something is done. -/
theorem history_invariant {I : Handle → Prop}
    (hstep : ∀ {h : Handle} operation, I h → I (h.perform operation).handle) {h : Handle} (hh : I h)
    (operations : List Operation) : ∀ e ∈ h.history operations, I e.before := by
  induction operations generalizing h with
  | nil => exact nofun
  | cons operation rest ih => exact List.forall_mem_cons.2 ⟨hh, ih (hstep operation hh)⟩

/-- A history goes on from each of its events. -/
theorem history_split {h : Handle} {operations : List Operation} {front rest : List Event}
    {e : Event} (hhistory : h.history operations = front ++ e :: rest) :
    ∃ done more, front = h.history done ∧ e.before = h.after done ∧
      rest = e.move.handle.history more := by
  induction operations generalizing h front with
  | nil => simp [history] at hhistory
  | cons operation more ih =>
    rcases front with - | ⟨first, front⟩
    · obtain ⟨rfl, rfl⟩ := List.cons.inj hhistory
      exact ⟨[], more, rfl, rfl, rfl⟩
    · obtain ⟨rfl, hrest⟩ := List.cons.inj hhistory
      obtain ⟨done, more, rfl, hbefore, hmore⟩ := ih hrest
      exact ⟨operation :: done, more, rfl, hbefore, hmore⟩

/-! ### What an operation does -/

variable {h : Handle} {operation : Operation} {report : Usage}

/-- **What an operation changes** about what is known of the process. -/
inductive Change (h : Handle) : Operation → Move Answer → Prop
  /-- It changes nothing about that. -/
  | same {operation m} (report : m.handle.report = h.report)
      (seen : m.handle.seenExited = h.seenExited) : Change h operation m
  /-- The process is seen to have exited, for the first time. -/
  | seen {now reply m} (unreaped : h.report = none) (unseen : h.seenExited = none)
      (report : m.handle.report = none) (seen : m.handle.seenExited = some now)
      (answer : m.answer = .checked (.ok true)) : Change h (.checkExited now reply) m
  /-- The process is reaped. -/
  | reaped {now status cpuTime peakMemory m} (report : Usage) (unreaped : h.report = none)
      (wallTime : report.wallTime =
        ⟨(h.seenExited.getD now).nanoseconds - h.launched.nanoseconds⟩)
      (reported : m.handle.report = some report) (seen : m.handle.seenExited = h.seenExited)
      (answer : m.answer = .polled (.ok (some report))) :
      Change h (.poll now (.exited status cpuTime peakMemory)) m

theorem perform_change (h : Handle) (operation : Operation) :
    h.Change operation (h.perform operation) := by
  cases operation with
  | take pipe => exact .same rfl rfl
  | checkExited now reply =>
    by_cases hknown : h.report.isSome = true ∨ h.seenExited.isSome = true
    · refine .same ?_ ?_ <;> simp [perform, checkExited, hknown]
    obtain ⟨hreport, hseen⟩ : h.report = none ∧ h.seenExited = none := by
      simpa using hknown
    cases reply with
    | exited => refine .seen hreport hseen ?_ ?_ ?_ <;> simp [perform, checkExited, hreport, hseen]
    | _ => refine .same ?_ ?_ <;> simp [perform, checkExited, hreport, hseen]
  | kill reply =>
    rcases hreport : h.report with - | report
    · cases reply <;> refine .same ?_ ?_ <;> simp [perform, kill, hreport]
    · refine .same ?_ ?_ <;> simp [perform, kill, hreport]
  | poll now reply =>
    rcases hreport : h.report with - | report
    · cases reply with
      | exited status cpuTime peakMemory =>
        refine .reaped ⟨status, cpuTime, ⟨(h.seenExited.getD now).nanoseconds -
          h.launched.nanoseconds⟩, peakMemory⟩ hreport rfl ?_ ?_ ?_ <;>
          simp [perform, tryReap, hreport]
      | _ => refine .same ?_ ?_ <;> simp [perform, tryReap, hreport]
    · refine .same ?_ ?_ <;> simp [perform, tryReap, hreport]

theorem launched_perform (h : Handle) (operation : Operation) :
    (h.perform operation).handle.launched = h.launched := by
  cases operation with
  | take pipe => rfl
  | checkExited now reply =>
    simp only [perform, checkExited]
    split
    · rfl
    · cases reply <;> rfl
  | kill reply =>
    simp only [perform, kill]
    split
    · rfl
    · cases reply <;> rfl
  | poll now reply =>
    simp only [perform, tryReap]
    cases h.report with
    | none => cases reply <;> rfl
    | some report => rfl

/-- **Nothing happens to a reaped process**: no operation asks the system anything. -/
theorem perform_of_reaped (hreport : h.report = some report) (operation : Operation) :
    (h.perform operation).requests = [] ∧ (h.perform operation).handle.report = some report := by
  cases operation with
  | take pipe => exact ⟨rfl, hreport⟩
  | checkExited now reply => simp [perform, checkExited, hreport]
  | kill reply => simp [perform, kill, hreport]
  | poll now reply => simp [perform, tryReap, hreport]

/-- A reaped process stays so. -/
theorem report_of_mem_history (hreport : h.report = some report) {operations : List Operation}
    {e : Event} (he : e ∈ h.history operations) : e.before.report = some report :=
  history_invariant (I := fun h ↦ h.report = some report)
    (fun operation h ↦ (perform_of_reaped h operation).2) hreport operations e he

/-- Whether the process is known to have exited. -/
def Known (h : Handle) : Prop := h.report ≠ none ∨ h.seenExited ≠ none

theorem Known.perform (hknown : h.Known) (operation : Operation) :
    (h.perform operation).handle.Known := by
  cases h.perform_change operation with
  | same report seen =>
    rw [Known, report, seen]
    exact hknown
  | seen _ _ _ seen => exact .inr (by simp [seen])
  | reaped _ _ _ reported => exact .inl (by simp [reported])

theorem known_of_mem_history (hknown : h.Known) {operations : List Operation} {e : Event}
    (he : e ∈ h.history operations) : e.before.Known :=
  history_invariant (fun operation h ↦ h.perform operation) hknown operations e he

/-- A look answers that the process has exited when that is known after it. -/
theorem checked_iff {now : Duration} {reply : Reply} :
    (h.perform (.checkExited now reply)).answer = .checked (.ok true) ↔
      (h.perform (.checkExited now reply)).handle.Known := by
  by_cases hknown : h.report.isSome = true ∨ h.seenExited.isSome = true
  · have hafter : h.Known := by simpa [Known, Option.isSome_iff_ne_none] using hknown
    simp [perform, checkExited, hknown, hafter]
  · obtain ⟨hreport, hseen⟩ : h.report = none ∧ h.seenExited = none := by
      simpa using hknown
    cases reply <;> simp [perform, checkExited, Known, hreport, hseen]

/-- A poll answers with the report that there is after it. -/
theorem polled_iff {now : Duration} {reply : Reply} :
    (h.perform (.poll now reply)).answer = .polled (.ok (some report)) ↔
      (h.perform (.poll now reply)).handle.report = some report := by
  rcases hreport : h.report with - | report'
  · cases reply <;> simp [perform, tryReap, hreport]
  · simp [perform, tryReap, hreport]

/-! ### The laws of a history -/

namespace Event

variable {e : Event}

/-- A process that is reaped has a report. -/
theorem Reaps.reported (hreaps : e.Reaps) : ∃ report, e.move.handle.report = some report := by
  obtain ⟨hrequests, now, status, cpuTime, peakMemory, hoperation⟩ := hreaps
  rcases hreport : e.before.report with - | report
  · rw [move, hoperation]
    simp [perform, tryReap, hreport]
  · have hquiet := (perform_of_reaped hreport e.operation).1
    rw [move, hquiet] at hrequests
    cases hrequests

theorem Reports.reported (hreports : e.Reports report) : e.move.handle.report = some report := by
  rcases hoperation : e.operation with pipe | ⟨now, reply⟩ | reply | ⟨now, reply⟩
  case poll =>
    rw [Reports, move, hoperation] at hreports
    rw [move, hoperation]
    exact polled_iff.1 hreports
  all_goals
    rw [Reports, move, hoperation] at hreports
    cases hreports

theorem known_of_checked (hchecked : e.move.answer = .checked (.ok true)) :
    e.move.handle.Known := by
  rcases hoperation : e.operation with pipe | ⟨now, reply⟩ | reply | ⟨now, reply⟩
  case checkExited =>
    rw [move, hoperation] at hchecked ⊢
    exact checked_iff.1 hchecked
  all_goals
    rw [move, hoperation] at hchecked
    cases hchecked

end Event

/-- The exit of a process that was launched at some time was first seen at another: either it has
not been reaped since then, or its wall time ended then. -/
def Sighted (launched seen : Duration) (h : Handle) : Prop :=
  h.launched = launched ∧ ((h.report = none ∧ h.seenExited = some seen) ∨
    ∃ report, h.report = some report ∧
      report.wallTime = ⟨seen.nanoseconds - launched.nanoseconds⟩)

/-- An exit that was seen stays seen, at the same time. -/
theorem Sighted.perform {launched seen : Duration} (hsighted : h.Sighted launched seen)
    (operation : Operation) : (h.perform operation).handle.Sighted launched seen := by
  obtain ⟨hlaunched, hcases⟩ := hsighted
  refine ⟨(h.launched_perform operation).trans hlaunched, ?_⟩
  cases h.perform_change operation with
  | same report seen =>
    rw [report, seen]
    exact hcases
  | seen unreaped unseen => simp [unreaped, unseen] at hcases
  | reaped report unreaped wallTime reported =>
    obtain ⟨-, hseen⟩ | ⟨report', hreport', -⟩ := hcases
    · rw [hseen, hlaunched] at wallTime
      exact .inr ⟨report, reported, wallTime⟩
    · rw [unreaped] at hreport'
      cases hreport'

theorem sighted_of_mem_history {launched seen : Duration} (hsighted : h.Sighted launched seen)
    {operations : List Operation} {e : Event} (he : e ∈ h.history operations) :
    e.before.Sighted launched seen :=
  history_invariant (fun operation h ↦ h.perform operation) hsighted operations e he

/-- A report says that the process ran until its exit was seen. -/
theorem Sighted.wallTime {launched seen : Duration} (hsighted : h.Sighted launched seen)
    (hreport : h.report = some report) :
    report.wallTime = ⟨seen.nanoseconds - launched.nanoseconds⟩ := by
  obtain ⟨-, ⟨hnone, -⟩ | ⟨report', hreport', hwall⟩⟩ := hsighted
  · rw [hnone] at hreport
    cases hreport
  · rw [hreport'] at hreport
    cases hreport
    exact hwall

/-- Nothing is known of a process that was launched at some time. -/
def Fresh (launched : Duration) (h : Handle) : Prop :=
  h.launched = launched ∧ h.report = none ∧ h.seenExited = none

/-- Whoever is told first of an exit makes it seen. -/
theorem Fresh.sighted {launched now : Duration} {e : Event} (hfresh : e.before.Fresh launched)
    (hsights : e.Sights now) : e.move.handle.Sighted launched now := by
  obtain ⟨before, operation⟩ := e
  obtain ⟨hlaunched, hreport, hseen⟩ := hfresh
  refine ⟨(before.launched_perform operation).trans hlaunched, ?_⟩
  have hchange := before.perform_change operation
  obtain ⟨reply, rfl, hanswer⟩ | ⟨reply, report, rfl, hreports⟩ := hsights
  · cases hchange with
    | same report seen =>
      obtain hknown | hknown := checked_iff.1 hanswer
      · exact absurd (report.trans hreport) hknown
      · exact absurd (seen.trans hseen) hknown
    | seen _ _ report seen => exact .inl ⟨report, seen⟩
  · cases hchange with
    | same report' _ =>
      have hreported : before.report = some report := report'.symm.trans hreports.reported
      rw [hreport] at hreported
      cases hreported
    | reaped report' _ wallTime reported =>
      rw [hseen, hlaunched] at wallTime
      exact .inr ⟨report', reported, wallTime⟩

/-- An operation that tells nobody of an exit leaves nothing known. -/
theorem Fresh.perform {launched : Duration} {operation : Operation} (hfresh : h.Fresh launched)
    (hnone : ∀ now, ¬(⟨h, operation⟩ : Event).Sights now) :
    (h.perform operation).handle.Fresh launched := by
  obtain ⟨hlaunched, hreport, hseen⟩ := hfresh
  refine ⟨(h.launched_perform operation).trans hlaunched, ?_⟩
  have hchange := h.perform_change operation
  cases hchange with
  | same report seen => exact ⟨report.trans hreport, seen.trans hseen⟩
  | seen _ _ _ _ answer => exact absurd (.inl ⟨_, rfl, answer⟩) (hnone _)
  | reaped report _ _ _ _ answer => exact absurd (.inr ⟨_, report, rfl, answer⟩) (hnone _)

theorem Fresh.after {launched : Duration} {operations : List Operation}
    (hfresh : h.Fresh launched) (hnone : ∀ e ∈ h.history operations, ∀ now, ¬e.Sights now) :
    (h.after operations).Fresh launched := by
  induction operations generalizing h with
  | nil => exact hfresh
  | cons operation rest ih =>
    obtain ⟨hfirst, hrest⟩ := List.forall_mem_cons.1 hnone
    exact ih (hfresh.perform hfirst) hrest

/-! ### Giving a handle up -/

/-- The replies up to the first one that ends the reaping of a process. -/
def untilDecisive : List (Duration × Reply) → List (Duration × Reply)
  | [] => []
  | (now, reply) :: rest =>
    if reply.isDecisive then [(now, reply)] else (now, reply) :: untilDecisive rest

/-- What giving a handle up comes to: the process is killed and reaped, unless it has been. -/
def finale (h : Handle) (killReply : KillReply) (replies : List (Duration × Reply)) :
    List Operation :=
  if h.report.isSome then []
  else .kill killReply :: (untilDecisive replies).map fun p ↦ .poll p.1 p.2

/-- What the system is asked in some events. -/
def requests (events : List Event) : List Request := events.flatMap (·.move.requests)

theorem after_cons (h : Handle) (operation : Operation) (rest : List Operation) :
    h.after (operation :: rest) = (h.perform operation).handle.after rest := rfl

theorem requests_history_cons (h : Handle) (operation : Operation) (rest : List Operation) :
    requests (h.history (operation :: rest)) =
      (h.perform operation).requests ++ requests ((h.perform operation).handle.history rest) := by
  rw [history, requests, List.flatMap_cons]
  rfl

/-- **Reaping a process is polling it** until that is decided. -/
theorem reapAll_eq (hreport : h.report = none) (replies : List (Duration × Reply)) :
    h.reapAll replies = ⟨h.after ((untilDecisive replies).map fun p ↦ .poll p.1 p.2),
      requests (h.history ((untilDecisive replies).map fun p ↦ .poll p.1 p.2)),
      replies.any (·.2.isDecisive)⟩ := by
  induction replies with
  | nil =>
    rw [reapAll, hreport]
    rfl
  | cons first rest ih =>
    obtain ⟨now, reply⟩ := first
    rw [reapAll]
    cases reply with
    | exited status cpuTime peakMemory =>
      simp [tryReap, hreport, untilDecisive, Reply.isDecisive, after, history, requests, perform,
        Event.move]
    | failed message =>
      simp [tryReap, hreport, untilDecisive, Reply.isDecisive, after, history, requests, perform,
        Event.move]
    | _ =>
      simp [tryReap, hreport, ih, untilDecisive, Reply.isDecisive, after, history, requests,
        perform, Event.move]

theorem requests_reapAll (hreport : h.report = none) (replies : List (Duration × Reply)) :
    (h.reapAll replies).requests = List.replicate (untilDecisive replies).length .reap := by
  induction replies with
  | nil => rfl
  | cons first rest ih =>
    obtain ⟨now, reply⟩ := first
    rw [reapAll]
    cases reply <;>
      simp [tryReap, hreport, untilDecisive, Reply.isDecisive, List.replicate_succ, ih]

/-- A process that has not been reaped is killed when its handle is given up, and then reaped. -/
theorem drop_of_unreaped (hreport : h.report = none) (killReply : KillReply)
    (replies : List (Duration × Reply)) :
    h.drop killReply replies = ⟨(h.reapAll replies).handle,
      .kill :: (h.reapAll replies).requests, (h.reapAll replies).answer⟩ := by
  have hkill : h.kill killReply = ⟨h, [.kill], (h.kill killReply).answer⟩ := by
    cases killReply <;> simp [kill, hreport]
  rw [drop, hreport, if_neg (by simp), hkill]
  rfl

theorem drop_of_reaped (hreport : h.report = some report) (killReply : KillReply)
    (replies : List (Duration × Reply)) : h.drop killReply replies = ⟨h, [], true⟩ := by
  rw [drop, hreport]
  rfl

/-- **Giving a handle up** kills the process and then polls it until that is decided. -/
theorem drop_eq (h : Handle) (killReply : KillReply) (replies : List (Duration × Reply)) :
    h.drop killReply replies = ⟨h.after (h.finale killReply replies),
      requests (h.history (h.finale killReply replies)),
      h.report.isSome || replies.any (·.2.isDecisive)⟩ := by
  rcases hreport : h.report with - | report
  · have hkill : (h.perform (.kill killReply)).handle = h ∧
        (h.perform (.kill killReply)).requests = [.kill] := by
      cases killReply <;> simp [perform, kill, hreport]
    have hfinale : h.finale killReply replies =
        .kill killReply :: (untilDecisive replies).map fun p ↦ .poll p.1 p.2 := by
      rw [finale, hreport]
      rfl
    rw [drop_of_unreaped hreport, reapAll_eq hreport, hfinale, after_cons, requests_history_cons,
      hkill.1, hkill.2]
    rfl
  · rw [drop_of_reaped hreport, finale, hreport]
    rfl

/-- **A process is reaped at most once**, whatever is done with its handle and whatever the system
answers, until the handle has been given up. Once it has been reaped, the system is asked nothing
more; in particular, a kill succeeds and does nothing. Once a wait has ended with a report, every
later wait ends with the same one. Once a look has told that the process has exited, every later look
does. The wall time of every report ends when someone was told so first, by a look or by a wait.

Giving up a handle on a process that has not been reaped kills it and then reaps it until that
succeeds or fails. -/
theorem reaped_at_most_once (launched : Duration) (pipes : List Pipe) (operations : List Operation)
    (killReply : KillReply) (replies : List (Duration × Reply)) :
    let h := (launch launched pipes).after operations
    let finale := h.finale killReply replies
    (∀ {front e rest}, (launch launched pipes).history (operations ++ finale) = front ++ e :: rest →
      (e.Reaps → ∀ later ∈ rest, ¬later.Reaps ∧ later.move.requests = [] ∧
        ∀ reply, later.operation = .kill reply →
          later.move = ⟨later.before, [], .killed (.ok ())⟩) ∧
      (∀ report, e.Reports report → ∀ later ∈ rest, ∀ now reply,
        later.operation = .poll now reply → later.Reports report) ∧
      (e.move.answer = .checked (.ok true) → ∀ later ∈ rest, ∀ now reply,
        later.operation = .checkExited now reply → later.move.answer = .checked (.ok true)) ∧
      ∀ now, e.Sights now → (∀ earlier ∈ front, ∀ now', ¬earlier.Sights now') →
        ∀ later ∈ e :: rest, ∀ report, later.Reports report →
          report.wallTime = ⟨now.nanoseconds - launched.nanoseconds⟩) ∧
    h.drop killReply replies = ⟨h.after finale, requests (h.history finale),
      h.report.isSome || replies.any (·.2.isDecisive)⟩ ∧
    (h.report ≠ none → (h.drop killReply replies).requests = []) ∧
    (h.report = none → (h.drop killReply replies).requests =
      .kill :: List.replicate (untilDecisive replies).length .reap) := by
  intro h finale
  refine ⟨fun {front e rest} hhistory ↦ ?_, h.drop_eq killReply replies, fun hreport ↦ ?_,
    fun hreport ↦ ?_⟩
  · obtain ⟨done, more, rfl, hbefore, rfl⟩ := history_split hhistory
    refine ⟨fun hreaps later hlater ↦ ?_, fun report hreports later hlater now reply hpoll ↦ ?_,
      fun hchecked later hlater now reply hcheck ↦ ?_,
      fun now hsights hnone later hlater report hreports ↦ ?_⟩
    · obtain ⟨report, hreport⟩ := hreaps.reported
      have hreported := report_of_mem_history hreport hlater
      have hquiet : later.move.requests = [] := (perform_of_reaped hreported later.operation).1
      refine ⟨fun hagain ↦ ?_, hquiet, fun reply hkill ↦ ?_⟩
      · cases hquiet.symm.trans hagain.1
      · rw [Event.move, hkill]
        simp [perform, kill, hreported]
    · have hreported := report_of_mem_history hreports.reported hlater
      have hafter := (perform_of_reaped hreported later.operation).2
      rw [hpoll] at hafter
      rw [Event.Reports, Event.move, hpoll]
      exact polled_iff.2 hafter
    · have hlast :=
        (known_of_mem_history (Event.known_of_checked hchecked) hlater).perform later.operation
      rw [hcheck] at hlast
      rw [Event.move, hcheck]
      exact checked_iff.2 hlast
    · have hfresh : e.before.Fresh launched := by
        rw [hbefore]
        exact Fresh.after ⟨rfl, rfl, rfl⟩ hnone
      have hsighted := hfresh.sighted hsights
      refine Sighted.wallTime ?_ hreports.reported
      rcases List.mem_cons.1 hlater with rfl | hlater
      · exact hsighted
      · exact (sighted_of_mem_history hsighted hlater).perform later.operation
  · obtain ⟨report, hreport⟩ := Option.ne_none_iff_exists'.1 hreport
    rw [drop_of_reaped hreport]
  · rw [drop_of_unreaped hreport, requests_reapAll hreport]

/-- The exit of a process, seen after seven milliseconds, before it is reaped after sixty. -/
def reapedLate : List Operation :=
  [.checkExited (.ofMillis 7) (.exited (.exited 0) (.ofMillis 1) 10),
    .poll (.ofMillis 50) .interrupted,
    .poll (.ofMillis 60) (.exited (.exited 0) (.ofMillis 1) 10),
    .kill .done]

/-- The process ran for seven milliseconds, and neither the kill nor giving up the handle asks the
system anything. -/
theorem reaped_at_most_once_late : ∃ first second third last report,
    (launch (.ofMillis 0) []).history reapedLate = [first, second, third, last] ∧
    third.Reports report ∧ report.wallTime = .ofMillis 7 ∧ last.move.requests = [] ∧
    (((launch (.ofMillis 0) []).after reapedLate).drop .done []).requests = [] := by
  let report : Usage := ⟨.exited 0, .ofMillis 1, .ofMillis 7, 10⟩
  let seen : Handle := ⟨.ofMillis 0, some (.ofMillis 7), none, []⟩
  let exited : Reply := .exited (.exited 0) (.ofMillis 1) 10
  let first : Event := ⟨launch (.ofMillis 0) [], .checkExited (.ofMillis 7) exited⟩
  let second : Event := ⟨seen, .poll (.ofMillis 50) .interrupted⟩
  let third : Event := ⟨seen, .poll (.ofMillis 60) exited⟩
  let last : Event := ⟨{ seen with report := some report }, .kill .done⟩
  obtain ⟨hlaws, -, hreaped, -⟩ := reaped_at_most_once (.ofMillis 0) [] reapedLate .done []
  have hfirst : first.Sights (.ofMillis 7) := .inl ⟨exited, rfl, rfl⟩
  have hreports : third.Reports report := rfl
  have hreaps : third.Reaps := ⟨rfl, _, _, _, _, rfl⟩
  obtain ⟨-, -, -, hwall⟩ := hlaws (show _ = [] ++ first :: [second, third, last] from rfl)
  obtain ⟨hquiet, -⟩ := hlaws (show _ = [first, second] ++ third :: [last] from rfl)
  refine ⟨first, second, third, last, report, rfl, hreports, ?_, ?_, hreaped nofun⟩
  · exact hwall _ hfirst nofun third (by simp) report hreports
  · exact (hquiet hreaps last (by simp)).2.1

end Handle

end ContestJudge
