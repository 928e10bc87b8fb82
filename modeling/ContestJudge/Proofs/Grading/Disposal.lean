import ContestJudge.Grading.Solution
import ContestJudge.Proofs.Exchange.Bounded
import ContestJudge.Proofs.Grading.Acceptance

/-!
# What becomes of a launched process

A process that was launched for a case is the grader's to dispose of. An exchange waits for it,
whatever comes of the exchange. But between the launch and the exchange the data of the case is
loaded, and a grader that cannot load it gives up without touching the process again.

* `Grader.Launches.disposes_iff` — a launched process is waited for exactly if the data of its case
  can be loaded;
* `Validator.exists_load_iff`, `Solution.exists_load_iff` — which files have to be read for that;
* `process_disposal` — so what becomes of the processes of validators and solutions;
* `Validator.idle_abandoned` — a process that is left to itself.

The first is shown of every grader at once, since the three stages of a grader are parameters and
only the loading of data decides. What an exchange leaves of its process is
`Exchange.runAlong_ending`: it has ended by then unless the last wait for it fails, which is why
waiting for a process is not the same as its end.

Both are read off what is kept of a launch, which has the exchange with it only if there was one. So
the two are exclusive (`Graded.Disposes.not_abandons`), and one of them is the case.
-/

namespace ContestJudge

variable {ε π : Type}

/-- A process is launched for a case, which is left as `c'` by then. -/
structure Grader.Launches (g : Grader) (s : Sandbox ε π) (c : Case) (w : World ε)
    (spec : LaunchSpec) (process : π) (c' : Case) : Prop where
  /-- The launch can be prepared. -/
  prepared : g.prepare w.files c = (.ok spec, c')
  /-- It yields a process in time. -/
  launched : ∃ time, (s.launch spec w).1.bound spec.limits.wallTime = some ⟨time, .ok process⟩

/-- The process of a judged case was **left to itself**: it was launched, and then there was no
exchange. -/
def Graded.Abandons (graded : Graded) (spec : LaunchSpec) : Prop :=
  graded.launch = some ⟨spec, true, none⟩

/-- The process of a judged case was **waited for**, at the end of an exchange in the world after
its launch. So it has ended by then, unless the last wait fails. -/
def Graded.Disposes (graded : Graded) (s : Sandbox ε π) (w : World ε) (spec : LaunchSpec)
    (process : π) : Prop :=
  ∃ input r, graded.launch = some ⟨spec, true, some r⟩ ∧
    let b := (s.engage process input w).1
    (b.faultOf r.lastWait = none → ∃ time status, time ≤ r.time ∧
      b.ending (b.killing r.killTimes) = some (time, status))

theorem Graded.Disposes.not_abandons {graded : Graded} {s : Sandbox ε π} {w : World ε}
    {spec : LaunchSpec} {process : π} (h : graded.Disposes s w spec process) :
    ¬graded.Abandons spec := by
  obtain ⟨input, r, hlaunch, -⟩ := h
  rw [Abandons, hlaunch]
  exact nofun

namespace Grader

variable {g : Grader} {s : Sandbox ε π} {c c' : Case} {w w' : World ε} {spec : LaunchSpec}
  {process : π} {graded : Graded}

/-- Loading the data of a case decides whether its process is left to itself. -/
theorem interact_cases {time : Nat}
    (h : g.interact s spec process time c w = some (graded, w')) :
    (∃ fault, (g.load w.files c).1 = .error fault ∧ graded.Abandons spec) ∨
      ∃ input, (g.load w.files c).1 = .ok input ∧ graded.Disposes s w spec process := by
  rw [interact] at h
  rcases hload : g.load w.files c with ⟨fault | input, c'⟩
  · rw [hload] at h
    obtain ⟨rfl, -⟩ := Prod.mk.inj (Option.some.inj h)
    -- the grader gives up, and only gives back what it was handed
    exact .inl ⟨fault, rfl, rfl⟩
  · rw [hload] at h
    obtain ⟨r, hrun, h⟩ := Option.bind_eq_some_iff.1 h
    refine .inr ⟨input, rfl, input, r, ?_, fun hwait ↦ ?_⟩
    · rcases hresult : r.result with fault | outcome <;> simp only [hresult] at h <;>
        obtain ⟨rfl, -⟩ := Prod.mk.inj (Option.some.inj h) <;> rfl
    · obtain ⟨time, status, hends, hle, -⟩ := Exchange.runAlong_ending hrun hwait
      exact ⟨time, status, hle, hends⟩

/-- From its launch on, a case is judged by the exchange with its process. -/
theorem Launches.exists_interact (h : g.Launches s c w spec process c')
    (hgrade : g.grade s c w = some (graded, w')) :
    ∃ time, g.interact s spec process time c' (s.launch spec w).2 = some (graded, w') := by
  obtain ⟨hprepared, time, hlaunched⟩ := h
  rw [grade] at hgrade
  simp only [hprepared, hlaunched, Option.bind_eq_bind, Option.bind_some] at hgrade
  exact ⟨time, hgrade⟩

/-- **A launched process is waited for** exactly if the data of the case can be loaded, and is left
to itself otherwise. -/
theorem Launches.disposes_iff (h : g.Launches s c w spec process c')
    (hgrade : g.grade s c w = some (graded, w')) :
    (graded.Disposes s (s.launch spec w).2 spec process ↔
      ∃ input, (g.load (s.launch spec w).2.files c').1 = .ok input) ∧
    (graded.Abandons spec ↔ ¬graded.Disposes s (s.launch spec w).2 spec process) := by
  obtain ⟨time, hinteract⟩ := h.exists_interact hgrade
  rcases interact_cases hinteract with ⟨fault, hload, habandons⟩ | ⟨input, hload, hdisposes⟩
  · have hnot : ¬graded.Disposes s (s.launch spec w).2 spec process :=
      fun hdisposes ↦ hdisposes.not_abandons habandons
    refine ⟨iff_of_false hnot ?_, iff_of_true habandons hnot⟩
    rw [hload]
    exact nofun
  · exact ⟨iff_of_true hdisposes ⟨input, hload⟩,
      iff_of_false hdisposes.not_abandons (not_not_intro hdisposes)⟩

end Grader

/-! ### What graders load -/

variable {c c' : Case} {files : FileTree}

/-- A validator loads the input. -/
theorem Validator.exists_load_iff (v : Validator) :
    (∃ input, (v.grader.load files c).1 = .ok input) ↔ ∃ input, (c.input files).1 = .ok input := by
  rcases h : (c.input files).1 with cause | input
  · simp [load_of_error h]
  · simp [load_of_ok h]

/-- Reading the input changes nothing about the expected output. -/
theorem Case.expected_input (files : FileTree) (c : Case) :
    ((c.input files).2.expected files).1 = (c.expected files).1 := by
  have hsame : (c.input files).2.data.expected = c.data.expected := rfl
  rw [Case.expected, Case.expected, hsame]
  cases c.data.expected <;> rfl

theorem Case.expected_ne_none (h : c.data.expected ≠ none) (files : FileTree) :
    (c.expected files).1 ≠ none := by
  rw [Case.expected]
  split
  · next hnone => exact absurd hnone h
  · exact Option.some_ne_none _

/-- A solution loads the expected output as well. -/
theorem Solution.exists_load_iff (s : Solution) (hknown : c.data.expected ≠ none) :
    (∃ input, (s.grader.load files c).1 = .ok input) ↔
      (∃ input, (c.input files).1 = .ok input) ∧
        ∃ expected, (c.expected files).1 = some (.ok expected) := by
  have hread := Case.expected_ne_none hknown files
  show (∃ input, (load files c).1 = .ok input) ↔ _
  rw [← c.expected_input files] at hread ⊢
  rw [load, loadInput]
  generalize c.input files = loaded at *
  obtain ⟨cause | input, c₁⟩ := loaded
  · refine iff_of_false ?_ ?_
    · rintro ⟨input, h⟩
      cases h
    · rintro ⟨⟨input, h⟩, -⟩
      cases h
  · have hinput : (Except.ok input : Except FileFault Text.Bytes).mapError GradeFault.testData =
        .ok input := rfl
    rcases hexpected : c₁.expected files with ⟨- | cause | expected, c₂⟩
    · exact absurd (congrArg Prod.fst hexpected) hread
    · simp [hinput, hexpected]
    · simp [hinput, hexpected]

/-- A solution is only launched for a case that says what to expect. -/
theorem Solution.expected_ne_none_of_prepare {s : Solution} {spec : LaunchSpec}
    (h : s.grader.prepare files c = (.ok spec, c')) : c'.data.expected ≠ none := by
  have hprepare : s.prepare files c = (.ok spec, c') := h
  rw [prepare, Case.expected] at hprepare
  rcases hexpected : c.data.expected with - | source
  · simp only [hexpected] at hprepare
    cases congrArg Prod.fst hprepare
  · simp only [hexpected] at hprepare
    obtain ⟨-, rfl⟩ := Prod.mk.inj hprepare
    exact nofun

/-- **What becomes of a launched process** of a validator or a solution. It is waited for if the
input can be read, and for a solution the expected output as well. Otherwise it is left to itself.
-/
theorem process_disposal {s : Sandbox ε π} {w w' : World ε} {spec : LaunchSpec} {process : π}
    {graded : Graded} :
    (∀ v : Validator, v.grader.Launches s c w spec process c' →
      v.grader.grade s c w = some (graded, w') →
      (graded.Disposes s (s.launch spec w).2 spec process ↔
        ∃ input, (c'.input (s.launch spec w).2.files).1 = .ok input) ∧
      (graded.Abandons spec ↔ ¬graded.Disposes s (s.launch spec w).2 spec process)) ∧
    ∀ solution : Solution, solution.grader.Launches s c w spec process c' →
      solution.grader.grade s c w = some (graded, w') →
      (graded.Disposes s (s.launch spec w).2 spec process ↔
        (∃ input, (c'.input (s.launch spec w).2.files).1 = .ok input) ∧
          ∃ expected, (c'.expected (s.launch spec w).2.files).1 = some (.ok expected)) ∧
      (graded.Abandons spec ↔ ¬graded.Disposes s (s.launch spec w).2 spec process) := by
  constructor
  · intro v hlaunches hgrade
    rw [← v.exists_load_iff]
    exact hlaunches.disposes_iff hgrade
  · intro solution hlaunches hgrade
    rw [← solution.exists_load_iff (Solution.expected_ne_none_of_prepare hlaunches.prepared)]
    exact hlaunches.disposes_iff hgrade

/-! ### Two processes of one validator -/

namespace Validator

/-- A case whose input is in a file that is not there. -/
def lostCase : Case :=
  { emptyCase with data := { emptyCase.data with input := .ofPath ⟨"gone"⟩ } }

/-- A process that does nothing and never exits by itself. -/
def idle : Exchange.Behaviour := { prompt with exit := none }

/-- A sandbox whose processes are all idle. -/
def idleness : Sandbox (List Take) Exchange.Behaviour := .playback ⟨some 0, none, idle⟩

/-- What is launched for a case with the settings of a problem that makes none. -/
def checkerSpec (c : Case) : LaunchSpec := launchSpec checker.executable c [] threefold

theorem prepares_checker (h : c.data.settings = {}) (hbatch : c.batch = none) :
    checker.Prepares c (checkerSpec c) := by
  refine ⟨⟨[], ?_, rfl⟩, ?_⟩
  · rw [hbatch]
    rfl
  · rw [h]
    exact scaled_checker

theorem launches_checker (h : c.data.settings = {}) (hbatch : c.batch = none) :
    checker.grader.Launches idleness c still (checkerSpec c) idle c := by
  have hdeadline : Exchange.deadlineOf (Exchange.budget (.ofMillis 3000)) = some 3500 := by decide
  refine ⟨congrArg (·, c) (spec_of_prepares (prepares_checker h hbatch)), 0, ?_⟩
  show Arrival.bound _ (.ofMillis 3000) = _
  rw [Arrival.bound, hdeadline]
  rfl

/-- An idle process whose case has its input in memory is waited for. -/
theorem process_disposal_idle : ∃ graded w',
    checker.grader.grade idleness emptyCase still = some (graded, w') ∧
      graded.Disposes idleness still (checkerSpec emptyCase) idle := by
  have hlaunches := launches_checker (c := emptyCase) rfl rfl
  have hclock : Exchange.WithinClock threefold.wallTime := by decide
  obtain ⟨r, hrun⟩ := Exchange.exists_runAlong (b := idle) rfl hclock
    (checker.grader.caps emptyCase) false (Exchange.timeline idle [])
  have hruns : checker.Runs idleness emptyCase still (checkerSpec emptyCase) idle r :=
    ⟨⟨prepares_checker rfl rfl, hlaunches.launched⟩, [], rfl, hrun⟩
  obtain ⟨graded, w', hgrade, -⟩ := hruns.exists_grade
  obtain ⟨hvalidator, -⟩ := process_disposal
  obtain ⟨hdisposes, -⟩ := hvalidator checker hlaunches hgrade
  exact ⟨graded, w', hgrade, hdisposes.2 ⟨[], rfl⟩⟩

/-- **A process may be left to itself**, even one that never exits, because the input of its case
cannot be read. -/
theorem idle_abandoned : ∃ graded w',
    checker.grader.Launches idleness lostCase still (checkerSpec lostCase) idle lostCase ∧
      checker.grader.grade idleness lostCase still = some (graded, w') ∧
      graded.Abandons (checkerSpec lostCase) ∧
      ¬graded.Disposes idleness still (checkerSpec lostCase) idle := by
  have hlaunches := launches_checker (c := lostCase) rfl rfl
  obtain ⟨cause, hlost⟩ : ∃ cause, (lostCase.input still.files).1 = .error cause := ⟨_, rfl⟩
  obtain ⟨graded, w', hgrade, -⟩ := (Course.unloaded
    ⟨prepares_checker rfl rfl, hlaunches.launched⟩ hlost).exists_grade
  obtain ⟨hdisposes, habandons⟩ := hlaunches.disposes_iff hgrade
  have hnot : ¬graded.Disposes idleness still (checkerSpec lostCase) idle := by
    intro h
    obtain ⟨input, hinput⟩ := checker.exists_load_iff.1 (hdisposes.1 h)
    cases hlost.symm.trans hinput
  exact ⟨graded, w', hlaunches, hgrade, habandons.2 hnot, hnot⟩

end Validator

end ContestJudge
