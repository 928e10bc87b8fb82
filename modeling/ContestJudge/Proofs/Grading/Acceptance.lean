import ContestJudge.Grading.Validator
import ContestJudge.Proofs.Verdict.Flags
import ContestJudge.Sandbox.Playback

/-!
# When a validator accepts

Judging a case with a validator goes through four stages: its launch is prepared, the program is
launched, the input of the case is loaded and exchanged with the program, and the outcome is scored.
`Validator.Course` lists the ways that this can go, one for each stage that can fail and one for a
case that is scored. The successes so far are kept in structures, each of which extends the one
before: `Prepares`, `Starts` and `Runs`.

* `Validator.exists_course` — whenever judging ends, it went one of these ways. This goes through
  the stages and asks nothing but whether each of them went well.
* `Validator.Course.exists_grade` — each of them leads to one verdict. From the launch on this is
  shared with the other graders: `exists_interact_of_run` says what comes of an exchange.
* `Validator.grade_verdict` — so the verdict is a function of the course, and a case is accepted
  just if its course is one with a clean exit (`Clean`). What the flags are is said by `Raised`.

An exchange may not end, and then judging does not. So the verdict is stated of a case that was
judged. That a case is judged is a matter of its process (`Grader.exists_grade`).

Loading the input changes the case, since it keeps what was read. The limits and the points are
taken from the case as it was before; that this makes no difference is `score_input`.
-/

namespace ContestJudge

open Text (Bytes)

variable {ε π : Type}

namespace Validator

/-! ### The stages -/

/-- Preparing the launch goes well. -/
structure Prepares (v : Validator) (c : Case) (spec : LaunchSpec) : Prop where
  /-- The template of the arguments gives some, and they are launched. -/
  resolved : ∃ arguments, Template.arguments v.arguments c.batch c.position = .ok arguments ∧
    spec = launchSpec v.executable c arguments spec.limits
  /-- The case has a wall time limit. -/
  scaled : v.limits.scaled c.data.settings.wallTimeFactor = .ok spec.limits

/-- The program is launched, too. -/
structure Starts (v : Validator) (s : Sandbox ε π) (c : Case) (w : World ε) (spec : LaunchSpec)
    (process : π) : Prop extends v.Prepares c spec where
  /-- The launch yields a process in time. -/
  launched : ∃ time, (s.launch spec w).1.bound spec.limits.wallTime = some ⟨time, .ok process⟩

/-- An exchange with the program ends, too. -/
structure Runs (v : Validator) (s : Sandbox ε π) (c : Case) (w : World ε) (spec : LaunchSpec)
    (process : π) (r : Exchange.Run) : Prop extends v.Starts s c w spec process where
  /-- The input of the case is exchanged with the process. -/
  exchanged : ∃ input, (c.input (s.launch spec w).2.files).1 = .ok input ∧
    Exchange.run (s.engage process input (s.launch spec w).2).1 spec.limits.wallTime
      (v.grader.caps c) false input = some r

/-- **How judging a case goes**: up to an outcome under some limits, or to a fault before. -/
inductive Course (v : Validator) (s : Sandbox ε π) (c : Case) (w : World ε) :
    Except GradeFault (Limits × Outcome) → Prop
  /-- There are no arguments. -/
  | unresolved {cause} (failed : Template.arguments v.arguments c.batch c.position = .error cause) :
      Course v s c w (.error (.arguments cause))
  /-- There is no wall time limit. -/
  | unscaled {arguments cause}
      (resolved : Template.arguments v.arguments c.batch c.position = .ok arguments)
      (failed : v.limits.scaled c.data.settings.wallTimeFactor = .error cause) :
      Course v s c w (.error (.wallTime cause))
  /-- The launch fails. -/
  | unlaunched {spec time cause} (prepared : v.Prepares c spec)
      (failed : (s.launch spec w).1.bound spec.limits.wallTime = some ⟨time, .error cause⟩) :
      Course v s c w (.error (.launch cause))
  /-- The input cannot be loaded. -/
  | unloaded {spec process cause} (started : v.Starts s c w spec process)
      (failed : (c.input (s.launch spec w).2.files).1 = .error cause) :
      Course v s c w (.error (.testData cause))
  /-- The exchange fails. -/
  | faulted {spec process r cause} (ran : v.Runs s c w spec process r)
      (failed : r.result = .error cause) : Course v s c w (.error (.exchange cause))
  /-- There is an outcome to be scored. -/
  | scored {spec process r outcome} (ran : v.Runs s c w spec process r)
      (ended : r.result = .ok outcome) : Course v s c w (.ok (spec.limits, outcome))

/-- The verdict that a course leads to. -/
def verdict (v : Validator) (c : Case) : Except GradeFault (Limits × Outcome) → Verdict
  | .ok (limits, outcome) => judgeOutcome outcome limits v.feedback c.data.points
  | .error fault => fault.verdict

variable {v : Validator} {s : Sandbox ε π} {c : Case} {w : World ε}

theorem caseLimits_of_scaled {limits : Limits}
    (h : v.limits.scaled c.data.settings.wallTimeFactor = .ok limits) :
    caseLimits v.limits c = .ok limits := by
  rw [caseLimits, h]
  rfl

theorem spec_of_prepares {spec : LaunchSpec} (h : v.Prepares c spec) : v.spec c = .ok spec := by
  obtain ⟨⟨arguments, harguments, hspec⟩, hscaled⟩ := h
  rw [Validator.spec, harguments, caseLimits_of_scaled hscaled]
  exact congrArg Except.ok hspec.symm

/-- Preparing the launch goes well, or else it is a fault. -/
theorem exists_prepares (v : Validator) (s : Sandbox ε π) (c : Case) (w : World ε) :
    (∃ spec, v.Prepares c spec) ∨ ∃ fault, v.Course s c w (.error fault) := by
  rcases harguments : Template.arguments v.arguments c.batch c.position with cause | arguments
  · exact .inr ⟨_, .unresolved harguments⟩
  rcases hscaled : v.limits.scaled c.data.settings.wallTimeFactor with cause | limits
  · exact .inr ⟨_, .unscaled harguments hscaled⟩
  · exact .inl ⟨launchSpec v.executable c arguments limits, ⟨arguments, harguments, rfl⟩, hscaled⟩

/-! ### Judging goes one of these ways -/

/-- A judged case is left with what its course leads to. -/
structure Follows (v : Validator) (c : Case) (result : Except GradeFault (Limits × Outcome))
    (graded : Graded) : Prop where
  verdict : graded.verdict = v.verdict c result
  outcome : graded.outcome = result.toOption.map (·.2)

theorem load_of_ok {files : FileTree} {input : Bytes} (h : (c.input files).1 = .ok input) :
    v.grader.load files c = (.ok input, (c.input files).2) := by
  show ((c.input files).1.mapError GradeFault.testData, (c.input files).2) = _
  rw [h]
  rfl

theorem load_of_error {files : FileTree} {cause : FileFault}
    (h : (c.input files).1 = .error cause) :
    v.grader.load files c = (.error (.testData cause), (c.input files).2) := by
  show ((c.input files).1.mapError GradeFault.testData, (c.input files).2) = _
  rw [h]
  rfl

/-- Loading the input of a case changes neither its settings nor its points, so the outcome is
scored as if the input had not been loaded. -/
theorem score_input {limits : Limits}
    (h : v.limits.scaled c.data.settings.wallTimeFactor = .ok limits) (files : FileTree)
    (outcome : Outcome) :
    v.score (c.input files).2 outcome = v.verdict c (.ok (limits, outcome)) := by
  have hlimits : caseLimits v.limits (c.input files).2 = .ok limits := caseLimits_of_scaled h
  rw [score, hlimits]
  rfl

section Interact

variable {spec : LaunchSpec} {process : π} {input : Bytes} (time : Nat)

theorem exists_interact_of_error {cause : FileFault} (h : (c.input w.files).1 = .error cause) :
    ∃ graded w', v.grader.interact s spec process time c w = some (graded, w') ∧
      v.Follows c (.error (.testData cause)) graded := by
  rw [Grader.interact, load_of_error h]
  exact ⟨_, _, rfl, rfl, rfl⟩

/-- From its exchange on, a case is judged by how that ends. -/
theorem exists_interact_of_run {r : Exchange.Run} (h : (c.input w.files).1 = .ok input)
    (hscaled : v.limits.scaled c.data.settings.wallTimeFactor = .ok spec.limits)
    (hrun : Exchange.run (s.engage process input w).1 spec.limits.wallTime (v.grader.caps c) false
      input = some r) :
    ∃ graded w', v.grader.interact s spec process time c w = some (graded, w') ∧
      v.Follows c ((r.result.mapError .exchange).map (spec.limits, ·)) graded := by
  have hcaps : v.grader.caps (c.input w.files).2 = v.grader.caps c := rfl
  rw [Grader.interact, load_of_ok h]
  simp only [hcaps, hrun, Option.bind_eq_bind, Option.bind_some]
  rcases r.result with cause | outcome
  · refine ⟨_, _, rfl, ?_⟩
    exact ⟨rfl, rfl⟩
  · refine ⟨_, _, rfl, ?_⟩
    exact ⟨score_input hscaled w.files outcome, rfl⟩

variable {time} in
/-- A case that is judged with its input loaded had an exchange that ended. -/
theorem exists_run_of_interact {judged : Graded × World ε} (h : (c.input w.files).1 = .ok input)
    (hjudged : v.grader.interact s spec process time c w = some judged) :
    ∃ r, Exchange.run (s.engage process input w).1 spec.limits.wallTime (v.grader.caps c) false
      input = some r := by
  have hcaps : v.grader.caps (c.input w.files).2 = v.grader.caps c := rfl
  rw [Grader.interact, load_of_ok h] at hjudged
  simp only [hcaps] at hjudged
  obtain ⟨r, hrun, -⟩ := Option.bind_eq_some_iff.1 hjudged
  exact ⟨r, hrun⟩

end Interact

/-- Where judging goes on, the launch decides how. -/
theorem grade_of_prepares {spec : LaunchSpec} (h : v.Prepares c spec) :
    v.grader.grade s c w = ((s.launch spec w).1.bound spec.limits.wallTime).bind fun started ↦
      match started.result with
      | .error fault => some (.ofFault (.launch fault) c (some ⟨spec, false, none⟩) started.time,
          (s.launch spec w).2)
      | .ok process => v.grader.interact s spec process started.time c (s.launch spec w).2 := by
  rw [Grader.grade]
  simp only [grader, spec_of_prepares h]
  rfl

theorem grade_of_spec_error {fault : GradeFault} (h : v.spec c = .error fault) :
    ∃ graded w', v.grader.grade s c w = some (graded, w') ∧ v.Follows c (.error fault) graded := by
  rw [Grader.grade]
  simp only [grader, h]
  exact ⟨_, _, rfl, rfl, rfl⟩

/-- A case whose exchange ends is judged by how it ends. -/
theorem Runs.exists_grade {spec : LaunchSpec} {process : π} {r : Exchange.Run}
    (h : v.Runs s c w spec process r) :
    ∃ graded w', v.grader.grade s c w = some (graded, w') ∧
      v.Follows c ((r.result.mapError .exchange).map (spec.limits, ·)) graded := by
  obtain ⟨time, hlaunched⟩ := h.launched
  obtain ⟨input, hinput, hrun⟩ := h.exchanged
  rw [grade_of_prepares h.toPrepares, hlaunched]
  exact exists_interact_of_run time hinput h.scaled hrun

/-- **Each course leads to one verdict.** -/
theorem Course.exists_grade {result : Except GradeFault (Limits × Outcome)}
    (h : v.Course s c w result) :
    ∃ graded w', v.grader.grade s c w = some (graded, w') ∧ v.Follows c result graded := by
  cases h with
  | unresolved failed =>
    refine grade_of_spec_error ?_
    rw [Validator.spec, failed]
    rfl
  | unscaled resolved failed =>
    refine grade_of_spec_error ?_
    rw [Validator.spec, resolved, caseLimits, failed]
    rfl
  | unlaunched prepared failed =>
    rw [grade_of_prepares prepared, failed]
    exact ⟨_, _, rfl, rfl, rfl⟩
  | unloaded started failed =>
    obtain ⟨time, hlaunched⟩ := started.launched
    rw [grade_of_prepares started.toPrepares, hlaunched]
    exact exists_interact_of_error time failed
  | faulted ran failed =>
    have hgrade := ran.exists_grade
    rw [failed] at hgrade
    exact hgrade
  | scored ran ended =>
    have hgrade := ran.exists_grade
    rw [ended] at hgrade
    exact hgrade

/-- **Whenever judging ends, it went one of these ways.** -/
theorem exists_course {judged : Graded × World ε} (h : v.grader.grade s c w = some judged) :
    ∃ result, v.Course s c w result := by
  obtain ⟨spec, hprepares⟩ | ⟨fault, hcourse⟩ := v.exists_prepares s c w
  · -- from here on each stage that ends well leads on to the next one
    rw [grade_of_prepares hprepares] at h
    obtain ⟨⟨time, cause | process⟩, hstarted, hjudged⟩ := Option.bind_eq_some_iff.1 h
    · exact ⟨_, .unlaunched hprepares hstarted⟩
    have hstarts : v.Starts s c w spec process := ⟨hprepares, time, hstarted⟩
    rcases hinput : (c.input (s.launch spec w).2.files).1 with cause | input
    · exact ⟨_, .unloaded hstarts hinput⟩
    obtain ⟨r, hrun⟩ := exists_run_of_interact hinput hjudged
    have hruns : v.Runs s c w spec process r := ⟨hstarts, input, hinput, hrun⟩
    rcases hresult : r.result with cause | outcome
    · exact ⟨_, .faulted hruns hresult⟩
    · exact ⟨_, .scored hruns hresult⟩
  · exact ⟨_, hcourse⟩

/-- **A judged case is left with what its course leads to.** -/
theorem exists_follows {graded : Graded} {w' : World ε}
    (h : v.grader.grade s c w = some (graded, w')) :
    ∃ result, v.Course s c w result ∧ v.Follows c result graded := by
  obtain ⟨result, hcourse⟩ := exists_course h
  obtain ⟨graded', w'', hgrade, hfollows⟩ := hcourse.exists_grade
  rw [h] at hgrade
  cases hgrade
  exact ⟨result, hcourse, hfollows⟩

/-! ### What a verdict says -/

/-- What the flags of a judged case say about its course. -/
def Explains (graded : Graded) : Except GradeFault (Limits × Outcome) → Prop
  | .error fault =>
    graded.verdict.flags.toList = [.runtimeError] ∧ graded.verdict = fault.verdict ∧
      graded.verdict.usage = none ∧ graded.outcome = none
  | .ok (limits, outcome) =>
    graded.verdict.usage = some outcome.usage ∧ graded.outcome = some outcome ∧
      (outcome.overflow.isSome = true → graded.verdict.flags.toList = [.outputLimit]) ∧
      (outcome.overflow = none → ∀ code,
        graded.verdict.flags.contains code = true ↔ Raised outcome.usage limits code)

variable {result : Except GradeFault (Limits × Outcome)} {graded : Graded}

theorem Follows.explains (h : v.Follows c result graded) : Explains graded result := by
  obtain ⟨hverdict, houtcome⟩ := h
  rcases result with fault | ⟨limits, outcome⟩
  · have hfault : graded.verdict = fault.verdict := hverdict
    rw [Explains, hfault]
    exact ⟨rfl, rfl, rfl, houtcome⟩
  · have hflags : graded.verdict.flags =
        judgeExit outcome.usage limits outcome.overflow.isSome := by
      rw [hverdict]
      rfl
    refine ⟨by rw [hverdict]; rfl, houtcome, fun hover ↦ ?_, fun hnone code ↦ ?_⟩
    · rw [hflags, hover]
      rfl
    · rw [hflags, hnone]
      exact contains_judgeExit

/-- Only a scored outcome can be accepted. -/
theorem Follows.isAccepted_iff (h : v.Follows c result graded) :
    graded.verdict.isAccepted = true ↔ ∃ limits outcome, result = .ok (limits, outcome) ∧
      outcome.overflow = none ∧ Clean outcome.usage limits := by
  rw [h.verdict]
  rcases result with fault | ⟨limits, outcome⟩
  · have hrejected : (v.verdict c (.error fault)).isAccepted = false := rfl
    simp [hrejected]
  · have hflags : (v.verdict c (.ok (limits, outcome))).isAccepted =
        (judgeExit outcome.usage limits outcome.overflow.isSome).isEmpty := rfl
    rw [hflags, isEmpty_judgeExit, Option.isSome_eq_false_iff, Option.isNone_iff_eq_none]
    constructor
    · rintro ⟨hover, hclean⟩
      exact ⟨limits, outcome, rfl, hover, hclean⟩
    · rintro ⟨_, _, hresult, hover, hclean⟩
      cases hresult
      exact ⟨hover, hclean⟩

/-- Points are awarded exactly to an accepted case. -/
theorem Follows.points_eq (h : v.Follows c result graded) :
    graded.verdict.points = if graded.verdict.isAccepted then c.data.points else 0 := by
  rw [h.verdict]
  rcases result with fault | ⟨limits, outcome⟩
  · rfl
  · rfl

/-- **When a validator accepts a case, and what it says otherwise.** A case is accepted exactly if
every stage went well, no stream overran its cap, and the program exited with zero below all its
limits. The flags of any other case are determined by its course, the most important of them is
reported, and no points are awarded. -/
theorem grade_verdict {w' : World ε} (h : v.grader.grade s c w = some (graded, w')) :
    (graded.verdict.isAccepted = true ↔ ∃ spec process r outcome,
      v.Runs s c w spec process r ∧ r.result = .ok outcome ∧ outcome.overflow = none ∧
        Clean outcome.usage spec.limits) ∧
    (graded.verdict.isAccepted = true → graded.verdict.flags.toList = [] ∧
      graded.verdict.code = .accepted ∧ graded.verdict.points = c.data.points) ∧
    (graded.verdict.isAccepted = false → graded.verdict.points = 0 ∧
      graded.verdict.flags.contains graded.verdict.code = true ∧
      ∀ code, graded.verdict.flags.contains code = true →
        graded.verdict.code.rank ≤ code.rank) ∧
    (∃ result, v.Course s c w result) ∧
    ∀ result, v.Course s c w result → Explains graded result := by
  have hfollows : ∀ result, v.Course s c w result → v.Follows c result graded := by
    intro result hcourse
    obtain ⟨graded', w'', hgrade, hfollows⟩ := hcourse.exists_grade
    rw [h] at hgrade
    cases hgrade
    exact hfollows
  obtain ⟨result, hcourse⟩ := exists_course h
  have hpoints := (hfollows result hcourse).points_eq
  refine ⟨⟨fun haccepted ↦ ?_, ?_⟩, fun haccepted ↦ ?_, fun hrejected ↦ ?_, ⟨result, hcourse⟩,
    fun result hcourse ↦ (hfollows result hcourse).explains⟩
  · obtain ⟨limits, outcome, rfl, hover, hclean⟩ :=
      (hfollows result hcourse).isAccepted_iff.1 haccepted
    cases hcourse with
    | scored ran ended => exact ⟨_, _, _, outcome, ran, ended, hover, hclean⟩
  · rintro ⟨spec, process, r, outcome, ran, ended, hover, hclean⟩
    exact (hfollows _ (.scored ran ended)).isAccepted_iff.2 ⟨_, _, rfl, hover, hclean⟩
  · rw [haccepted, if_pos rfl] at hpoints
    exact ⟨Flags.toList_eq_nil_iff.2 haccepted, Flags.primary_of_isEmpty haccepted, hpoints⟩
  · rw [hrejected, if_neg Bool.false_ne_true] at hpoints
    exact ⟨hpoints, Flags.contains_primary hrejected, fun code ↦ Flags.rank_primary_le⟩

/-! ### An accepted case -/

/-- A validator without arguments, with a second of CPU time. -/
def checker : Validator where
  executable := .precompiled "check" []
  limits := .ofTime (.ofMillis 1000) 1000
  arguments := ""

/-- A case with an empty input. -/
def emptyCase : Case where
  batch := none
  position := 1
  data := { input := .memory [], expected := none, points := 5, settings := {} }

/-- A process that exits with zero after a millisecond. -/
def prompt : Exchange.Behaviour where
  input := none
  output _ := none
  exit := some 1
  status := .exited 0
  cpuTime := .ofMillis 1
  peakMemory := 10
  reportedWall := none
  killFault := none
  waitFault := none

/-- The world of a playback, with no files. -/
def still : World (List Take) := ⟨default, []⟩

/-- The limits of the case; it may take three seconds on the wall clock. -/
def threefold : Limits := ⟨.ofMillis 1000, 1000, .ofMillis 3000⟩

theorem scaled_checker :
    checker.limits.scaled emptyCase.data.settings.wallTimeFactor = .ok threefold := by
  have hwall : Duration.ofFloat? ((Duration.ofMillis 1000).toFloat * 3) =
      some (.ofMillis 3000) := by
    decide +kernel
  rw [Limits.scaled, show checker.limits.time.toFloat * emptyCase.data.settings.wallTimeFactor =
    (Duration.ofMillis 1000).toFloat * 3 from rfl, hwall]
  rfl

/-- The case is accepted. -/
theorem grade_verdict_prompt : ∃ graded w',
    checker.grader.grade (.playback ⟨some 0, none, prompt⟩) emptyCase still = some (graded, w') ∧
      graded.verdict.isAccepted = true ∧ graded.verdict.points = 5 := by
  have hdeadline : Exchange.deadlineOf (Exchange.budget (.ofMillis 3000)) = some 3500 := by decide
  obtain ⟨r, outcome, hrun, hended, hover, hclean⟩ : ∃ r outcome,
      Exchange.run prompt threefold.wallTime (checker.grader.caps emptyCase) false [] = some r ∧
      r.result = .ok outcome ∧ outcome.overflow = none ∧ Clean outcome.usage threefold := by
    have htimeline : Exchange.timeline prompt [] = [(0, .inputEnded .noPipe)] := by
      simp [Exchange.timeline, prompt, Exchange.feed, Exchange.outputEvents]
    rw [Exchange.run, htimeline]
    exact ⟨_, _, rfl, rfl, rfl, rfl, by decide, by decide, by decide⟩
  have hruns : checker.Runs (.playback ⟨some 0, none, prompt⟩) emptyCase still
      (launchSpec checker.executable emptyCase [] threefold) prompt r := by
    refine ⟨⟨⟨⟨[], rfl, rfl⟩, scaled_checker⟩, 0, ?_⟩, [], rfl, hrun⟩
    show Arrival.bound _ (.ofMillis 3000) = _
    rw [Arrival.bound, hdeadline]
    rfl
  obtain ⟨graded, w', hgrade, -⟩ := (Course.scored hruns hended).exists_grade
  obtain ⟨haccepted, hpoints, -⟩ := grade_verdict hgrade
  have hyes := haccepted.2 ⟨_, _, r, outcome, hruns, hended, hover, hclean⟩
  exact ⟨graded, w', hgrade, hyes, (hpoints hyes).2.2⟩

end Validator

end ContestJudge
