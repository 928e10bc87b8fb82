import ContestJudge.Proofs.Exchange.HeldOpen
import ContestJudge.Proofs.Grading.Acceptance

/-!
# Verdicts on programs whose streams are held open

Two sandboxes whose processes differ in the ends of their streams alone lead to the same verdicts,
whatever the grader: a grader sees the result of an exchange and not how long it took
(`Grader.grade_eq`). With the exchanges themselves this is `held_open_changes_nothing`.

It rests on `Exchange.SameButEnds.result_eq` and takes over its conditions: an end comes after
everything else of its stream, simultaneous happenings are taken in the same order, and killing and
waiting turn out the same however often they are tried. None of them can be dropped, as
`held_open_changes_results` shows, with a pair of exchanges against each.

The world that a case leaves behind is the same as well. What an exchange does to files is the
sandbox's to say (`Sandbox.SameButEnds.world`), and the process is released in either case, also
when its exchange had no outcome.

Two exchanges that both end are compared. Holding a stream open cannot keep an exchange from ending
that has a deadline, but a process that cannot be killed can, and then there is no result.
-/

namespace ContestJudge

open Text (Bytes)
open Exchange

variable {ε π : Type}

/-- **Two sandboxes that differ in the ends of streams alone.** -/
structure Sandbox.SameButEnds (s s' : Sandbox ε π) : Prop where
  launch : s'.launch = s.launch
  release : s'.release = s.release
  world : ∀ process input w, (s'.engage process input w).2 = (s.engage process input w).2
  behaviour : ∀ process input w,
    Exchange.SameButEnds (s.engage process input w).1 (s'.engage process input w).1

namespace Grader

variable {g : Grader} {s s' : Sandbox ε π} {c : Case} {w w₁ w₁' : World ε} {graded graded' : Graded}

theorem interact_eq (h : s.SameButEnds s') {spec : LaunchSpec} {process : π} {time : Nat}
    (hgraded : g.interact s spec process time c w = some (graded, w₁))
    (hgraded' : g.interact s' spec process time c w = some (graded', w₁')) :
    graded.verdict = graded'.verdict ∧ graded.outcome = graded'.outcome ∧
      graded.case = graded'.case ∧ w₁ = w₁' := by
  rw [interact] at hgraded hgraded'
  rcases hload : g.load w.files c with ⟨fault | input, c'⟩
  · simp only [hload, h.release] at hgraded hgraded'
    rw [hgraded] at hgraded'
    cases hgraded'
    exact ⟨rfl, rfl, rfl, rfl⟩
  · simp only [hload, h.release, h.world, Option.bind_eq_bind, Option.bind_eq_some_iff]
      at hgraded hgraded'
    obtain ⟨r, hrun, hgraded⟩ := hgraded
    obtain ⟨r', hrun', hgraded'⟩ := hgraded'
    -- from here on nothing but the result of the exchange matters
    rw [← (h.behaviour process input w).result_eq_of_run hrun hrun'] at hgraded'
    rcases hresult : r.result with fault | outcome
    · simp only [hresult] at hgraded hgraded'
      cases hgraded
      cases hgraded'
      exact ⟨rfl, rfl, rfl, rfl⟩
    · simp only [hresult] at hgraded hgraded'
      cases hgraded
      cases hgraded'
      exact ⟨rfl, rfl, rfl, rfl⟩

/-- **Holding a stream open changes no verdict.** -/
theorem grade_eq (h : s.SameButEnds s') (hgraded : g.grade s c w = some (graded, w₁))
    (hgraded' : g.grade s' c w = some (graded', w₁')) :
    graded.verdict = graded'.verdict ∧ graded.outcome = graded'.outcome ∧
      graded.case = graded'.case ∧ w₁ = w₁' := by
  rw [grade] at hgraded hgraded'
  rcases hprepare : g.prepare w.files c with ⟨fault | spec, c'⟩
  · simp only [hprepare] at hgraded hgraded'
    rw [hgraded] at hgraded'
    cases hgraded'
    exact ⟨rfl, rfl, rfl, rfl⟩
  simp only [hprepare, h.launch, Option.bind_eq_bind, Option.bind_eq_some_iff] at hgraded hgraded'
  obtain ⟨started, hstarted, hgraded⟩ := hgraded
  obtain ⟨started', hstarted', hgraded'⟩ := hgraded'
  rw [hstarted] at hstarted'
  cases hstarted'
  rcases hresult : started.result with fault | process
  · simp only [hresult] at hgraded hgraded'
    rw [hgraded] at hgraded'
    cases hgraded'
    exact ⟨rfl, rfl, rfl, rfl⟩
  · simp only [hresult] at hgraded hgraded'
    exact interact_eq h hgraded hgraded'

end Grader

/-- **Holding a stream open changes nothing**: of two processes that differ in the ends of their
streams alone, two exchanges that both end have the same result, be it by `run` or along any two
arrival orders that agree up to the ends, as all do where nothing is simultaneous. So the verdicts on
a case, with any grader, are the same, and the case and the world are left the same. -/
theorem held_open_changes_nothing :
    (∀ {b b' : Behaviour}, SameButEnds b b' →
      ∀ {wallTime caps killedBefore input r r'}, run b wallTime caps killedBefore input = some r →
        run b' wallTime caps killedBefore input = some r' → r.result = r'.result) ∧
    (∀ {b b' : Behaviour}, SameButEnds b b' →
      ∀ {wallTime caps killedBefore input events events' r r'}, ArrivalOrder b input events →
        ArrivalOrder b' input events' → withoutEnds events = withoutEnds events' →
        runAlong b wallTime caps killedBefore events = some r →
        runAlong b' wallTime caps killedBefore events' = some r' → r.result = r'.result) ∧
    (∀ {b b' : Behaviour}, SameButEnds b b' →
      ∀ {input events events'}, ArrivalOrder b input events → ArrivalOrder b' input events' →
        Apart (withoutEnds events) → withoutEnds events = withoutEnds events') ∧
    ∀ {ε π : Type} {s s' : Sandbox ε π}, s.SameButEnds s' →
      ∀ {g : Grader} {c w graded graded' w₁ w₁'}, g.grade s c w = some (graded, w₁) →
        g.grade s' c w = some (graded', w₁') →
        graded.verdict = graded'.verdict ∧ graded.outcome = graded'.outcome ∧
          graded.case = graded'.case ∧ w₁ = w₁' :=
  ⟨fun h _ _ _ _ _ _ hrun hrun' ↦ h.result_eq_of_run hrun hrun',
    fun h _ _ _ _ _ _ _ _ horder horder' hsame hrun hrun' ↦
      h.result_eq horder horder' hsame hrun hrun',
    fun h _ _ _ horder horder' hapart ↦ h.withoutEnds_eq_of_apart horder horder' hapart,
    fun h _ _ _ _ _ _ _ hgraded hgraded' ↦ Grader.grade_eq h hgraded hgraded'⟩

/-! ### A process with a descendant -/

/-- A process that writes a byte and exits. Its streams end some time after that, if at all. -/
def writer (closing : Option Nat) : Behaviour where
  input := none
  output
    | .stdout => some ((2, .data [97]) :: (closing.map fun time ↦ (time, StreamEvent.ended)).toList)
    | .stderr => some (closing.map fun time ↦ (time, StreamEvent.ended)).toList
  exit := some 3
  status := .exited 0
  cpuTime := .ofMillis 1
  peakMemory := 0
  reportedWall := none
  killFault := none
  waitFault := none

/-- The sandbox in which every process behaves the same. -/
def Sandbox.uniform (b : Behaviour) : Sandbox Unit Unit where
  launch _ w := (⟨some 0, .ok ()⟩, w)
  engage _ _ w := (b, w)
  release _ w := w

theorem sameButEnds_writer : SameButEnds (writer (some 3)) (writer none) := by
  refine ⟨⟨fun stream ↦ ?_, fun stream ↦ ?_⟩, ⟨fun stream ↦ ?_, fun stream ↦ ?_⟩,
    ⟨fun _ ↦ rfl, fun _ ↦ rfl⟩, rfl, fun stream ↦ ?_⟩ <;> cases stream <;> decide

/-- The exchange with it, under the limits of the case. -/
def runWriter (closing : Option Nat) : Option Run :=
  run (writer closing) (.ofMillis 3000) (Validator.checker.grader.caps Validator.emptyCase) false []

theorem exists_grade_writer {closing : Option Nat} {r : Run} (hrun : runWriter closing = some r) :
    ∃ graded w, Validator.checker.grader.grade (.uniform (writer closing)) Validator.emptyCase
      default = some (graded, w) := by
  have hdeadline : deadlineOf (budget (.ofMillis 3000)) = some 3500 := by decide
  have hruns : Validator.checker.Runs (.uniform (writer closing)) Validator.emptyCase default
      (launchSpec Validator.checker.executable Validator.emptyCase [] Validator.threefold) ()
      r := by
    refine ⟨⟨⟨⟨[], rfl, rfl⟩, Validator.scaled_checker⟩, 0, ?_⟩, [], rfl, hrun⟩
    show Arrival.bound _ (.ofMillis 3000) = _
    rw [Arrival.bound, hdeadline]
    rfl
  obtain ⟨graded, w, hgrade, -⟩ := hruns.exists_grade
  exact ⟨graded, w, hgrade⟩

/-- It takes three milliseconds if its streams end with it, and three and a half seconds if a
descendant holds them open forever. The result is the same, and so is the verdict. -/
theorem held_open_changes_nothing_writer : ∃ r r' graded graded' w₁ w₁',
    runWriter (some 3) = some r ∧ runWriter none = some r' ∧ r.time = 3 ∧ r'.time = 3500 ∧
    r.result = r'.result ∧
    Validator.checker.grader.grade (.uniform (writer (some 3))) Validator.emptyCase default =
      some (graded, w₁) ∧
    Validator.checker.grader.grade (.uniform (writer none)) Validator.emptyCase default =
      some (graded', w₁') ∧
    graded.verdict = graded'.verdict := by
  have hclosed : timeline (writer (some 3)) [] = [(0, .inputEnded .noPipe),
      (2, .output .stdout (.data [97])), (3, .output .stdout .ended),
      (3, .output .stderr .ended)] := by
    simp [timeline, writer, feed, outputEvents, notLater]
  have hopen : timeline (writer none) [] = [(0, .inputEnded .noPipe),
      (2, .output .stdout (.data [97]))] := by
    simp [timeline, writer, feed, outputEvents, notLater]
  obtain ⟨r, hrun, htime⟩ : ∃ r, runWriter (some 3) = some r ∧ r.time = 3 := by
    rw [runWriter, run, hclosed]
    exact ⟨_, rfl, rfl⟩
  obtain ⟨r', hrun', htime'⟩ : ∃ r, runWriter none = some r ∧ r.time = 3500 := by
    rw [runWriter, run, hopen]
    exact ⟨_, rfl, by decide⟩
  obtain ⟨graded, w₁, hgraded⟩ := exists_grade_writer hrun
  obtain ⟨graded', w₁', hgraded'⟩ := exists_grade_writer hrun'
  obtain ⟨hresult, -, -, hverdict⟩ := held_open_changes_nothing
  have hsandboxes : (Sandbox.uniform (writer (some 3))).SameButEnds (.uniform (writer none)) :=
    ⟨rfl, rfl, fun _ _ _ ↦ rfl, fun _ _ _ ↦ sameButEnds_writer⟩
  exact ⟨r, r', graded, graded', w₁, w₁', hrun, hrun', htime, htime',
    hresult sameButEnds_writer hrun hrun', hgraded, hgraded',
    (hverdict hsandboxes hgraded hgraded').1⟩

/-! ### Three processes with a descendant of another kind -/

/-- A process that writes to both streams at the same time. -/
def racing : Behaviour where
  input := none
  output _ := some [(1, .data [97])]
  exit := none
  status := .exited 0
  cpuTime := ⟨0⟩
  peakMemory := 0
  reportedWall := none
  killFault := none
  waitFault := none

/-- Everything that it does, with one stream before the other. -/
def racingOrder (first second : OutputStream) : List (Nat × Happening) :=
  [(0, .inputEnded .noPipe), (1, .output first (.data [97])), (1, .output second (.data [97]))]

theorem arrivalOrder_racing {first second : OutputStream} (hne : first ≠ second) :
    ArrivalOrder racing [] (racingOrder first second) := by
  refine ⟨by simp [racingOrder], by simp [racingOrder, racing, feed, Happening.stream?],
    fun stream ↦ ?_⟩
  cases first <;> cases second <;> cases stream <;> first | exact absurd rfl hne | rfl

/-- A process whose output yields a byte, maybe an end, and then a failure. -/
def crumbling (closing : Option Nat) : Behaviour where
  input := none
  output
    | .stdout => some ((1, .data [97]) ::
        (closing.map fun time ↦ (time, StreamEvent.ended)).toList ++ [(3, .failed "boom")])
    | .stderr => some [(2, .ended)]
  exit := some 2
  status := .exited 0
  cpuTime := ⟨0⟩
  peakMemory := 0
  reportedWall := none
  killFault := none
  waitFault := none

/-- A process that exits late and that only the second attempt kills. Its streams end at once, if at
all. -/
def stubborn (closing : Option Nat) : Behaviour where
  input := none
  output _ := some (closing.map fun time ↦ (time, StreamEvent.ended)).toList
  exit := some 9000
  status := .exited 0
  cpuTime := ⟨0⟩
  peakMemory := 0
  reportedWall := none
  killFault := some "Resource temporarily unavailable"
  waitFault := none
  killFails attempt := attempt = 0

/-- **Holding a stream open may change a result** otherwise. What comes at the same time may be taken
in either order, so that the same process may overrun its output or its standard error. A failure
that a stream yields after its end is read only if that end does not come. And a process that only
the second attempt kills is killed at the deadline if its streams are open until then; if they are
not, there is one attempt, and the process lives on. -/
theorem held_open_changes_results :
    (∃ r r', ArrivalOrder racing [] (racingOrder .stdout .stderr) ∧
      ArrivalOrder racing [] (racingOrder .stderr .stdout) ∧
      runAlong racing (.ofMillis 1000) (fun _ ↦ 0) false (racingOrder .stdout .stderr) = some r ∧
      runAlong racing (.ofMillis 1000) (fun _ ↦ 0) false (racingOrder .stderr .stdout) = some r' ∧
      r.result ≠ r'.result) ∧
    (∃ r r', crumbling none = { crumbling (some 2) with output := (crumbling none).output } ∧
      (∀ stream, ((crumbling (some 2)).output stream).map (·.filter (·.2.isNews)) =
        ((crumbling none).output stream).map (·.filter (·.2.isNews))) ∧
      run (crumbling (some 2)) (.ofMillis 1000) (fun _ ↦ 10) false [] = some r ∧
      run (crumbling none) (.ofMillis 1000) (fun _ ↦ 10) false [] = some r' ∧
      r.result ≠ r'.result) ∧
    ∃ r r', stubborn none = { stubborn (some 1) with output := (stubborn none).output } ∧
      (∀ stream, ((stubborn (some 1)).output stream).map (·.filter (·.2.isNews)) =
        ((stubborn none).output stream).map (·.filter (·.2.isNews))) ∧
      run (stubborn (some 1)) (.ofMillis 1000) (fun _ ↦ 10) false [] = some r ∧
      run (stubborn none) (.ofMillis 1000) (fun _ ↦ 10) false [] = some r' ∧
      r.result ≠ r'.result := by
  have hcut : timeline (crumbling (some 2)) [] = [(0, .inputEnded .noPipe),
      (1, .output .stdout (.data [97])), (2, .output .stdout .ended), (2, .output .stderr .ended),
      (3, .output .stdout (.failed "boom"))] := by
    simp [timeline, crumbling, feed, outputEvents, notLater]
  have hwhole : timeline (crumbling none) [] = [(0, .inputEnded .noPipe),
      (1, .output .stdout (.data [97])), (2, .output .stderr .ended),
      (3, .output .stdout (.failed "boom"))] := by
    simp [timeline, crumbling, feed, outputEvents, notLater]
  have hclosed : timeline (stubborn (some 1)) [] = [(0, .inputEnded .noPipe),
      (1, .output .stdout .ended), (1, .output .stderr .ended)] := by
    simp [timeline, stubborn, feed, outputEvents, notLater]
  have hopen : timeline (stubborn none) [] = [(0, .inputEnded .noPipe)] := by
    simp [timeline, stubborn, feed, outputEvents]
  rw [run, run, run, run, hcut, hwhole, hclosed, hopen]
  refine ⟨⟨_, _, arrivalOrder_racing (by decide), arrivalOrder_racing (by decide), rfl, rfl, ?_⟩,
    ⟨_, _, rfl, fun stream ↦ by cases stream <;> rfl, rfl, rfl, ?_⟩,
    ⟨_, _, rfl, fun stream ↦ by cases stream <;> rfl, rfl, rfl, ?_⟩⟩
  · -- one overruns its output and the other one its standard error
    exact fun h ↦ by injection h with h; cases congrArg Outcome.overflow h
  · -- one captures what it wrote, and the other one fails
    exact fun h ↦ by cases h
  · -- one exits at nine seconds, and the other one is killed at a second and a half
    exact fun h ↦ by injection h with h; cases congrArg (·.usage.status) h

end ContestJudge
