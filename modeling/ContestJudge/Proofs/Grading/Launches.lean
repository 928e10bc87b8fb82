import ContestJudge.Grading.Solution
import ContestJudge.Grading.Validator
import ContestJudge.Proofs.Case.Loading

/-!
# What a grader launches for a case

A sandbox can be made to log what it is asked to launch (`Sandbox.logging`). Judging a case with it
goes as before, so the log says exactly which launches there were. For a grader whose launches do
not depend on the files that is one launch, if the case can be prepared, and none otherwise
(`Grader.grade_logging`): a launch that fails is not tried again.

* `Validator.spec?_eq_some_iff`, `Solution.spec?_eq_some_iff` — what validators and solutions
  launch;
* `Grader.Keeps.loads` — and the case is left as it was, save for data that was read on the way.

The log is part of the world of the logging sandbox, beside what the sandbox itself keeps there. So
it is carried through all of judging by the same equations as the files, and that nothing else is
logged from the exchange on is an equation too (`Grader.interact_logging`).

What a grader launches is said as a function of the case (`Validator.spec?`, `Solution.spec?`). A
solution reads the expected output before it is launched, which may fail; that does not decide
whether it is launched, and this is what `Grader.PreparesAs` asks of a grader.
-/

namespace ContestJudge

variable {ε π : Type}

/-! ### Logging launches -/

/-- A world with a log of launches. -/
def World.logged (w : World ε) (log : List LaunchSpec) : World (ε × List LaunchSpec) :=
  ⟨w.files, w.extra, log⟩

/-- A world without its log. -/
def World.unlogged (w : World (ε × List LaunchSpec)) : World ε := ⟨w.files, w.extra.1⟩

/-- A sandbox that also logs whatever it is asked to launch. -/
def Sandbox.logging (s : Sandbox ε π) : Sandbox (ε × List LaunchSpec) π where
  launch spec w :=
    let (arrival, after) := s.launch spec w.unlogged
    (arrival, after.logged (w.extra.2 ++ [spec]))
  engage process input w :=
    let (behaviour, after) := s.engage process input w.unlogged
    (behaviour, after.logged w.extra.2)
  release process w := (s.release process w.unlogged).logged w.extra.2

section Logged

variable (s : Sandbox ε π) (w : World ε) (log : List LaunchSpec)

@[simp] theorem World.files_logged : (w.logged log).files = w.files := rfl

@[simp] theorem Sandbox.launch_logging (spec : LaunchSpec) :
    s.logging.launch spec (w.logged log) =
      ((s.launch spec w).1, (s.launch spec w).2.logged (log ++ [spec])) := rfl

@[simp] theorem Sandbox.engage_logging (process : π) (input : Text.Bytes) :
    s.logging.engage process input (w.logged log) =
      ((s.engage process input w).1, (s.engage process input w).2.logged log) := rfl

@[simp] theorem Sandbox.release_logging (process : π) :
    s.logging.release process (w.logged log) = (s.release process w).logged log := rfl

end Logged

namespace Grader

variable {g : Grader} {s : Sandbox ε π} {c : Case} {w : World ε} {log : List LaunchSpec}

/-- From its exchange on, a case is judged without any launch. -/
theorem interact_logging (spec : LaunchSpec) (process : π) (time : Nat) :
    g.interact s.logging spec process time c (w.logged log) =
      (g.interact s spec process time c w).map fun p ↦ (p.1, p.2.logged log) := by
  rw [interact, interact]
  rcases hload : g.load w.files c with ⟨fault | input, c'⟩
  · simp only [World.files_logged, hload, Sandbox.release_logging, Option.map_some]
  · simp only [World.files_logged, hload, Sandbox.engage_logging, Sandbox.release_logging,
      Option.bind_eq_bind, Option.map_bind]
    refine congrArg _ (funext fun r ↦ ?_)
    rcases hresult : r.result with fault | outcome
    · simp [hresult]
    · simp [hresult]

/-- A grader prepares each case in one way, whatever the files. -/
def PreparesAs (g : Grader) (spec? : Case → Option LaunchSpec) : Prop :=
  ∀ files c, (g.prepare files c).1.toOption = spec? c

/-- **At most one launch**: the one that was prepared, if there was one. -/
theorem grade_logging {spec? : Case → Option LaunchSpec} (h : g.PreparesAs spec?) :
    g.grade s.logging c (w.logged log) =
      (g.grade s c w).map fun p ↦ (p.1, p.2.logged (log ++ (spec? c).toList)) := by
  rw [grade, grade, ← h w.files c]
  rcases hprepare : g.prepare w.files c with ⟨fault | spec, c'⟩
  · simp [hprepare, Except.toOption]
  · simp only [World.files_logged, hprepare, Sandbox.launch_logging, Option.bind_eq_bind,
      Option.map_bind]
    refine congrArg _ (funext fun started ↦ ?_)
    rcases hresult : started.result with fault | process
    · simp [hresult, Except.toOption]
    · simp only [hresult, Function.comp_apply, interact_logging]
      rfl

/-! ### Leaving the case as it was -/

/-- A grader changes no case, save for reading its data. -/
structure Keeps (g : Grader) : Prop where
  prepare : ∀ files (c : Case), c.Loads (g.prepare files c).2
  load : ∀ files (c : Case), c.Loads (g.load files c).2
  score : ∀ files (c : Case) outcome, c.Loads (g.score files c outcome).2

variable {w' : World ε} {graded : Graded}

theorem Keeps.loads_interact (h : g.Keeps) {spec : LaunchSpec} {process : π} {time : Nat}
    (hgraded : g.interact s spec process time c w = some (graded, w')) : c.Loads graded.case := by
  have hloads := h.load w.files c
  rw [interact] at hgraded
  rcases hload : g.load w.files c with ⟨fault | input, c'⟩
  · simp only [hload] at hgraded hloads
    cases hgraded
    exact hloads
  · simp only [hload, Option.bind_eq_bind, Option.bind_eq_some_iff] at hgraded hloads
    obtain ⟨r, -, hgraded⟩ := hgraded
    rcases hresult : r.result with fault | outcome
    · simp only [hresult] at hgraded
      cases hgraded
      exact hloads
    · simp only [hresult] at hgraded
      cases hgraded
      exact hloads.trans (h.score _ _ _)

/-- **A judged case is the same as before**, save that its data may have been read. -/
theorem Keeps.loads (h : g.Keeps) (hgraded : g.grade s c w = some (graded, w')) :
    c.Loads graded.case := by
  have hloads := h.prepare w.files c
  rw [grade] at hgraded
  rcases hprepare : g.prepare w.files c with ⟨fault | spec, c'⟩
  · simp only [hprepare] at hgraded hloads
    cases hgraded
    exact hloads
  simp only [hprepare, Option.bind_eq_bind, Option.bind_eq_some_iff] at hgraded hloads
  obtain ⟨started, -, hgraded⟩ := hgraded
  rcases hresult : started.result with fault | process
  · simp only [hresult] at hgraded
    cases hgraded
    exact hloads
  · simp only [hresult] at hgraded
    exact hloads.trans (h.loads_interact hgraded)

end Grader

/-! ### Validators -/

theorem loads_loadInput (files : FileTree) (c : Case) : c.Loads (loadInput files c).2 :=
  .of_input files c

namespace Validator

/-- What a validator launches for a case, if it can be prepared. -/
def spec? (v : Validator) (c : Case) : Option LaunchSpec := (v.spec c).toOption

theorem preparesAs (v : Validator) : v.grader.PreparesAs v.spec? := fun _ _ ↦ rfl

theorem keeps (v : Validator) : v.grader.Keeps :=
  ⟨fun _ c ↦ .refl c, loads_loadInput, fun _ c _ ↦ .refl c⟩

/-- **What a validator launches** for a case: its program with its own arguments and then those of
the case, under the limits of the case, with the links of the case. -/
theorem spec?_eq_some_iff {v : Validator} {c : Case} {spec : LaunchSpec} :
    v.spec? c = some spec ↔ ∃ arguments limits,
      Template.arguments v.arguments c.batch c.position = .ok arguments ∧
      v.limits.scaled c.data.settings.wallTimeFactor = .ok limits ∧
      spec = {
        program := v.executable.program
        arguments := v.executable.arguments ++ arguments
        limits
        links := c.data.settings.links } := by
  rw [spec?, Validator.spec, caseLimits]
  rcases Template.arguments v.arguments c.batch c.position with cause | arguments
  · refine iff_of_false (fun h ↦ by cases h) ?_
    rintro ⟨arguments, limits, harguments, -⟩
    cases harguments
  rcases v.limits.scaled c.data.settings.wallTimeFactor with cause | limits
  · refine iff_of_false (fun h ↦ by cases h) ?_
    rintro ⟨arguments, limits, -, hlimits, -⟩
    cases hlimits
  · constructor
    · intro h
      exact ⟨arguments, limits, rfl, rfl, (Option.some.inj h).symm⟩
    · rintro ⟨arguments, limits, harguments, hlimits, rfl⟩
      cases harguments
      cases hlimits
      rfl

end Validator

/-! ### Solutions -/

namespace Solution

/-- What a solution launches for a case, if it can be prepared. -/
def spec? (s : Solution) (c : Case) : Option LaunchSpec :=
  if c.data.expected.isSome then
    ((caseLimits s.limits c).map (launchSpec s.executable c [])).toOption
  else none

theorem preparesAs (s : Solution) : s.grader.PreparesAs s.spec? := by
  intro files c
  show (s.prepare files c).1.toOption = _
  rw [prepare, Case.expected, spec?]
  rcases c.data.expected with - | source
  · rfl
  · rfl

/-- A solution reads the expected output, the input, and the expected output again. -/
theorem keeps (s : Solution) : s.grader.Keeps := by
  refine ⟨fun files c ↦ ?_, fun files c ↦ ?_, fun files c outcome ↦ ?_⟩
  · have hexpected := Case.Loads.of_expected files c
    show c.Loads (s.prepare files c).2
    rw [prepare]
    split <;> simp_all
  · have hinput := loads_loadInput files c
    show c.Loads (load files c).2
    rw [load]
    split
    · simp_all
    · next c' hload =>
      have hexpected := Case.Loads.of_expected files c'
      rw [hload] at hinput
      split <;> exact hinput.trans (by simp_all)
  · have hexpected := Case.Loads.of_expected files c
    show c.Loads (s.score files c outcome).2
    rw [score]
    split
    · exact .refl c
    · simp only
      split
      · exact .refl c
      · split <;> simp_all

/-- **What a solution launches** for a case that says what to expect: its program with its own
arguments alone, under the limits of the case, with the links of the case. -/
theorem spec?_eq_some_iff {s : Solution} {c : Case} {spec : LaunchSpec} :
    s.spec? c = some spec ↔ c.data.expected ≠ none ∧ ∃ limits,
      s.limits.scaled c.data.settings.wallTimeFactor = .ok limits ∧
      spec = {
        program := s.executable.program
        arguments := s.executable.arguments
        limits
        links := c.data.settings.links } := by
  rw [spec?, caseLimits]
  rcases c.data.expected with - | source
  · simp
  rcases s.limits.scaled c.data.settings.wallTimeFactor with cause | limits
  · refine iff_of_false (fun h ↦ by cases h) ?_
    rintro ⟨-, limits, hlimits, -⟩
    cases hlimits
  · have hspec : launchSpec s.executable c [] limits = {
        program := s.executable.program
        arguments := s.executable.arguments
        limits
        links := c.data.settings.links } := by
      simp [launchSpec, Executable.commandLine]
    constructor
    · intro h
      exact ⟨Option.some_ne_none source, limits, rfl, (Option.some.inj h).symm.trans hspec⟩
    · rintro ⟨-, limits, hlimits, rfl⟩
      cases hlimits
      exact congrArg some hspec

end Solution

end ContestJudge
