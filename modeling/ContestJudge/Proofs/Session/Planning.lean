import ContestJudge.Proofs.Fallible
import ContestJudge.Proofs.Grading.Limits
import ContestJudge.Proofs.Session.Counting
import ContestJudge.Proofs.Session.Judging

/-!
# What is decided before anything runs

The validation of a problem is planned from its files alone, and then the plan is carried out.
Whatever can speak against it does so then, so a problem that is skipped or declared wrongly is left
without a command or a launch; and a plan rests on the wall time limits of all cases, so these are
there when the cases are judged.

To say that nothing was run, a session can be made to note whatever it runs (`Session.noting`). That
changes nothing else (`Session.validateIn_noting`), by one equation for each function of the session
that is handed the sandbox or the runner: forgetting the notes afterwards is never having taken any.
So what was noted is what was run, for a session whose sandbox and runner may be anything.

* `Session.exists_plans` — what a plan rests on (`Session.Plans`), with the limits of every case;
* `Session.eq_of_unbuilt` — a validation that ends before a build leaves everything as it was, which
  is said of the world and so of the notes as well;
* `Session.exists_judgeCases_of_validated` — what was validated had a plan, and each case of its
  tree was judged with one validator;
* `Session.validateIn_decides` — together with `Validator.judgedUnder`: the limits that were checked
  are those that each case is launched and scored under, so no verdict says that there are none.
-/

namespace ContestJudge

variable {ε π σ : Type}

/-! ### Noting what is run -/

/-- Something that a session has run. -/
inductive Activity where
  /-- A command that builds a program, in some directory. -/
  | command (text : String) (directory : Path)
  /-- A launch in the sandbox. -/
  | launch (spec : LaunchSpec)

/-- A world with notes of what was run. -/
def World.noted (w : World ε) (notes : List Activity) : World (ε × List Activity) :=
  ⟨w.files, w.extra, notes⟩

/-- A world without the notes. -/
def World.unnoted (w : World (ε × List Activity)) : World ε := ⟨w.files, w.extra.1⟩

/-- A sandbox that also notes what it is asked to launch. -/
def Sandbox.noting (s : Sandbox ε π) : Sandbox (ε × List Activity) π where
  launch spec w :=
    let (arrival, after) := s.launch spec w.unnoted
    (arrival, after.noted (w.extra.2 ++ [.launch spec]))
  engage process input w :=
    let (behaviour, after) := s.engage process input w.unnoted
    (behaviour, after.noted w.extra.2)
  release process w := (s.release process w.unnoted).noted w.extra.2

/-- Notes the commands that are run. -/
def CommandRunner.noting (runner : CommandRunner ε) : CommandRunner (ε × List Activity) :=
  fun command directory w ↦
    let (answer, after) := runner command directory w.unnoted
    (answer, after.noted (w.extra.2 ++ [.command command directory]))

/-- A session that notes what it runs. -/
def Session.noting (s : Session ε π) : Session (ε × List Activity) π where
  settings := s.settings
  problems := s.problems
  executors := s.executors
  conventions := s.conventions
  sandbox := s.sandbox.noting
  runner := CommandRunner.noting s.runner

/-- What becomes of a step that takes notes when the notes are forgotten. -/
def forget {α : Type} (p : α × World (ε × List Activity)) : α × World ε := (p.1, p.2.unnoted)

section Noting

variable (g : Grader) (s : Sandbox ε π) (w : World (ε × List Activity))

theorem Grader.interact_noting (spec : LaunchSpec) (process : π) (time : Nat) (c : Case) :
    (g.interact s.noting spec process time c w).map forget =
      g.interact s spec process time c w.unnoted := by
  have hfiles : w.unnoted.files = w.files := rfl
  rw [interact, interact, hfiles]
  rcases g.load w.files c with ⟨fault | input, c'⟩
  · rfl
  · simp only [Option.bind_eq_bind, Option.map_bind]
    refine congrArg _ (funext fun r ↦ ?_)
    simp only [Function.comp_apply]
    rcases r.result with fault | outcome
    · rfl
    · rfl

/-- Notes play no part in how a case is judged. -/
theorem Grader.grade_noting (c : Case) :
    (g.grade s.noting c w).map forget = g.grade s c w.unnoted := by
  have hfiles : w.unnoted.files = w.files := rfl
  rw [grade, grade, hfiles]
  rcases g.prepare w.files c with ⟨fault | spec, c'⟩
  · rfl
  · simp only [Option.bind_eq_bind, Option.map_bind]
    refine congrArg _ (funext fun started ↦ ?_)
    simp only [Function.comp_apply]
    rcases started.result with fault | process
    · rfl
    · exact g.interact_noting s _ spec process started.time c'

end Noting

section Judging

variable {judge : CaseJudge ε} {judge' : CaseJudge (ε × List Activity)} {watch : Watcher σ}

theorem judgeEach_noting (h : ∀ c w, (judge' c w).map forget = judge c w.unnoted) (number : Nat)
    (cases : List Case) (seen : σ) (w : World (ε × List Activity)) :
    (judgeEach judge' watch number cases seen w).map (fun p ↦ (p.1, forget p.2)) =
      judgeEach judge watch number cases seen w.unnoted := by
  induction cases generalizing number seen w with
  | nil => rfl
  | cons c rest ih =>
    rw [judgeEach_cons, judgeEach_cons, ← h, Option.map_bind, Option.bind_map]
    refine congrArg _ (funext fun p ↦ ?_)
    rw [Function.comp_apply, Function.comp_apply, forget, ← ih, Option.map_map, Option.map_map]
    rfl

/-- Notes play no part in how the cases of a tree are judged. -/
theorem judgeCases_noting (h : ∀ c w, (judge' c w).map forget = judge c w.unnoted)
    (tree : CaseTree) (seen : σ) (w : World (ε × List Activity)) :
    (judgeCases judge' watch tree seen w).map (fun p ↦ (p.1, forget p.2)) =
      judgeCases judge watch tree seen w.unnoted := by
  rw [judgeCases, judgeCases]
  generalize runs (·.1) tree.flatten = groups
  generalize 1 = number
  induction groups generalizing number seen w with
  | nil => rfl
  | cons group rest ih =>
    rw [judgeRuns_cons, judgeRuns_cons, ← judgeEach_noting h, Option.map_bind, Option.bind_map]
    refine congrArg _ (funext fun p ↦ ?_)
    rw [Function.comp_apply, Function.comp_apply, forget, ← ih, Option.map_map, Option.map_map]
    rfl

end Judging

section Building

variable (runner : CommandRunner ε) (w : World (ε × List Activity))

theorem Build.compile_noting (template : Option String) (vars : Template.Variables)
    (directory : Path) (limit : Duration) :
    forget (compile (CommandRunner.noting runner) template vars directory limit w) =
      compile runner template vars directory limit w.unnoted := by
  rcases template with - | template
  · rfl
  simp only [compile]
  rcases expand template vars with fault | command
  · rfl
  · rfl

theorem Build.finish_noting (executor : Executor) (directory : Path) (sources : List Path)
    (limit : Duration) :
    forget (finish (CommandRunner.noting runner) executor directory sources limit w) =
      finish runner executor directory sources limit w.unnoted := by
  rw [finish, finish]
  rcases bindings directory executor.artifact sources with fault | vars
  · rfl
  simp only
  rw [← compile_noting]
  rcases compile (CommandRunner.noting runner) executor.compile vars directory limit w with
    ⟨fault | ⟨⟩, w'⟩
  · rfl
  · rfl

/-- Notes play no part in how a program is built. -/
theorem build_noting (executors : Executors) (sources extra : List Path) (language : String)
    (limit : Duration) :
    forget (build executors (CommandRunner.noting runner) sources extra language limit w) =
      build executors runner sources extra language limit w.unnoted := by
  rw [build, build]
  rcases executors.get? language with - | executor
  · rfl
  simp only
  split
  · rfl
  have hfiles : w.unnoted.files = w.files := rfl
  rw [hfiles]
  rcases w.files.makeTemporary Build.directoryName with message | ⟨directory, made⟩
  · rfl
  simp only
  rcases Build.copyInto directory (sources ++ extra) made with fault | ⟨copies, files⟩
  · rfl
  simp only
  rw [show ({ w.unnoted with files } : World ε) = World.unnoted { w with files } from rfl,
    ← Build.finish_noting]
  rcases Build.finish (CommandRunner.noting runner) executor _ _ limit { w with files } with
    ⟨fault | executable, w'⟩
  · rfl
  · rfl

end Building

namespace Session

theorem carryOut_noting (s : Session ε π) (p : ValidationPlan) (w : World (ε × List Activity)) :
    (s.noting.carryOut p w).map forget = s.carryOut p w.unnoted := by
  have hbuild : build s.noting.executors s.noting.runner p.sources [] p.language
      p.compilerTimeLimit w = build s.executors (CommandRunner.noting s.runner) p.sources []
        p.language p.compilerTimeLimit w := rfl
  rw [carryOut, carryOut, ← build_noting, hbuild]
  rcases build s.executors (CommandRunner.noting s.runner) p.sources [] p.language
    p.compilerTimeLimit w with ⟨fault | executable, w'⟩
  · rfl
  · have hjudge : ∀ c w, ((validator p executable).grader.grade s.noting.sandbox c w).map forget =
        (validator p executable).grader.grade s.sandbox c w.unnoted := fun c w ↦
      (validator p executable).grader.grade_noting s.sandbox w c
    simp only [forget, Option.bind_eq_bind, Option.map_bind]
    rw [← judgeCases_noting hjudge, Option.bind_map]
    rfl

/-- **Notes change nothing** in the validation of a problem. -/
theorem validateIn_noting (s : Session ε π) (directory : Path) (w : World (ε × List Activity)) :
    (s.noting.validateIn directory w).map forget = s.validateIn directory w.unnoted := by
  have hplan : s.noting.plan w.files directory = s.plan w.unnoted.files directory := rfl
  rw [validateIn, validateIn, hplan]
  rcases s.plan w.unnoted.files directory with outcome | p
  · rfl
  · exact s.carryOut_noting p w

end Session

/-! ### Plans -/

/-- A validation that ends before anything is built. -/
def ValidationOutcome.Unbuilt : ValidationOutcome → Prop
  | skipped _ => True
  | invalid _ => True
  | unknownConvention _ => True
  | notBuilt _ => False
  | validated _ => False

/-- Wall time limits are checked for every case. -/
theorem checkWallTimes_eq_ok_iff {limits : Limits} {tree : CaseTree} :
    checkWallTimes limits tree = .ok () ↔
      ∀ c ∈ tree.cases, ∃ scaled, limits.scaled c.data.settings.wallTimeFactor = .ok scaled := by
  rw [checkWallTimes, forM_eq_ok_iff, CaseTree.cases, List.forall_mem_map]
  refine forall₂_congr fun placed _ ↦ ?_
  rw [map_eq_ok_iff]
  exact exists_congr fun _ ↦ and_iff_left rfl

namespace Session

variable {s : Session ε π} {files : FileTree} {directory : Path} {outcome : ValidationOutcome}
  {p : ValidationPlan}

theorem need_eq_ok_iff {α : Type} {x : Option α} {a : α} :
    planDeclared.need outcome x = .ok a ↔ x = some a := by
  cases x with
  | none => exact ⟨nofun, nofun⟩
  | some a' => exact ⟨fun h ↦ congrArg some (Except.ok.inj h),
      fun h ↦ congrArg Except.ok (Option.some.inj h)⟩

theorem need_eq_error_iff {α : Type} {x : Option α} {outcome' : ValidationOutcome} :
    planDeclared.need outcome x = .error outcome' ↔ x = none ∧ outcome = outcome' := by
  cases x with
  | none => exact ⟨fun h ↦ ⟨rfl, Except.error.inj h⟩, fun h ↦ congrArg Except.error h.2⟩
  | some a => exact ⟨nofun, nofun⟩

/-- **What a plan rests on.** -/
structure Plans (s : Session ε π) (directory : Path) (d : Problem.Declaration)
    (validator : Problem.ValidatorDeclaration) (p : ValidationPlan) : Prop where
  declared : d.validator = some validator
  feedback : validator.feedbackStream = some p.feedback
  cases : d.tree directory = .ok p.cases
  limits : p.limits = s.limits validator.timeLimit validator.memoryLimit
  scaled : ∀ c ∈ p.cases.cases,
    ∃ limits, p.limits.scaled c.data.settings.wallTimeFactor = .ok limits

theorem plans_of_planDeclared {d : Problem.Declaration} (h : s.planDeclared directory d = .ok p) :
    ∃ validator, s.Plans directory d validator p := by
  simp only [planDeclared, bind_eq_ok_iff, need_eq_ok_iff, mapError_eq_ok_iff] at h
  obtain ⟨validator, hvalidator, language, -, feedback, hfeedback, sources, -, template, -, cases,
    hcases, ⟨⟩, hscaled, h⟩ := h
  obtain rfl := Except.ok.inj h
  exact ⟨validator, hvalidator, hfeedback, hcases, rfl, checkWallTimes_eq_ok_iff.1 hscaled⟩

/-- Whatever speaks against a validation leaves it without a build. -/
theorem unbuilt_of_planDeclared {d : Problem.Declaration}
    (h : s.planDeclared directory d = .error outcome) : outcome.Unbuilt := by
  simp only [planDeclared, bind_eq_error_iff, need_eq_error_iff, mapError_eq_error_iff] at h
  obtain ⟨-, rfl⟩ | ⟨validator, -, h⟩ := h
  · trivial
  obtain ⟨-, rfl⟩ | ⟨language, -, h⟩ := h
  · trivial
  obtain ⟨-, rfl⟩ | ⟨feedback, -, h⟩ := h
  · trivial
  obtain ⟨-, rfl⟩ | ⟨sources, -, h⟩ := h
  · trivial
  obtain ⟨-, rfl⟩ | ⟨template, -, h⟩ := h
  · trivial
  obtain ⟨fault, -, rfl⟩ | ⟨cases, -, h⟩ := h
  · trivial
  obtain ⟨fault, -, rfl⟩ | ⟨-, -, h⟩ := h
  · trivial
  · cases h

theorem exists_plans (h : s.plan files directory = .ok p) :
    ∃ d validator, Problem.Declaration.load files directory = .ok d ∧
      s.Plans directory d validator p := by
  rw [plan] at h
  cases hload : Problem.Declaration.load files directory with
  | error fault =>
    rw [hload] at h
    cases h
  | ok d =>
    rw [hload] at h
    obtain ⟨validator, hplans⟩ := plans_of_planDeclared h
    exact ⟨d, validator, rfl, hplans⟩

theorem unbuilt_of_plan (h : s.plan files directory = .error outcome) : outcome.Unbuilt := by
  rw [plan] at h
  cases hload : Problem.Declaration.load files directory with
  | error fault =>
    rw [hload] at h
    cases h
    trivial
  | ok d =>
    rw [hload] at h
    exact unbuilt_of_planDeclared h

variable {w w' : World ε}

/-- A plan is carried out up to a build that fails or up to the last case. -/
theorem carryOut_cases (h : s.carryOut p w = some (outcome, w')) :
    (∃ fault, outcome = .notBuilt fault) ∨ ∃ executable runs between between',
      judgeCases ((validator p executable).grader.grade s.sandbox) (fun () _ ↦ ()) p.cases ()
        between = some (runs, (), between') ∧ outcome = .validated runs := by
  rw [carryOut] at h
  rcases hbuild : build s.executors s.runner p.sources [] p.language p.compilerTimeLimit w with
    ⟨fault | executable, between⟩
  · simp only [hbuild] at h
    cases h
    exact .inl ⟨fault, rfl⟩
  · simp only [hbuild, Option.bind_eq_bind, Option.bind_eq_some_iff] at h
    obtain ⟨⟨runs, ⟨⟩, between'⟩, hjudged, h⟩ := h
    cases h
    exact .inr ⟨executable, runs, between, between', hjudged, rfl⟩

/-- **A validation that ends before a build** leaves everything as it was. -/
theorem eq_of_unbuilt (h : s.validateIn directory w = some (outcome, w'))
    (hunbuilt : outcome.Unbuilt) : w' = w := by
  rw [validateIn] at h
  cases hplan : s.plan w.files directory with
  | error outcome' =>
    rw [hplan] at h
    cases h
    rfl
  | ok p =>
    rw [hplan] at h
    obtain ⟨fault, rfl⟩ | ⟨executable, runs, between, between', -, rfl⟩ := carryOut_cases h
    · cases hunbuilt
    · cases hunbuilt

/-- **What a problem that was validated rests on**: a plan, and a run of its validator on every case
of the tree that was planned. -/
theorem exists_judgeCases_of_validated {runs : List JudgedRun}
    (h : s.validateIn directory w = some (.validated runs, w')) :
    ∃ d validator p executable between between',
      Problem.Declaration.load w.files directory = .ok d ∧ s.Plans directory d validator p ∧
      judgeCases ((Session.validator p executable).grader.grade s.sandbox) (fun () _ ↦ ()) p.cases
        () between = some (runs, (), between') := by
  rw [validateIn] at h
  cases hplan : s.plan w.files directory with
  | error outcome =>
    rw [hplan] at h
    cases h
    cases unbuilt_of_plan hplan
  | ok p =>
    rw [hplan] at h
    obtain ⟨d, validator, hload, hplans⟩ := exists_plans hplan
    obtain ⟨fault, hfault⟩ | ⟨executable, runs', between, between', hjudged, hruns⟩ :=
      carryOut_cases h
    · cases hfault
    · cases hruns
      exact ⟨d, validator, p, executable, between, between', hload, hplans, hjudged⟩

end Session

/-- Cases that have wall time limits are judged under them, one after the other. -/
theorem Validator.forall₂_under {v : Validator} {s : Sandbox ε π} {cases : List Case}
    {w w' : World ε} {judged : List Graded}
    (hscaled : ∀ c ∈ cases, ∃ limits,
      v.limits.scaled c.data.settings.wallTimeFactor = .ok limits)
    (h : Threads (v.grader.grade s) cases w judged w') :
    List.Forall₂ (fun c graded ↦ ∃ limits,
      v.limits.scaled c.data.settings.wallTimeFactor = .ok limits ∧
      graded.Under limits v.feedback c.data.points) cases judged := by
  induction h with
  | nil => exact .nil
  | cons first _ ih =>
    obtain ⟨⟨limits, hlimits⟩, hrest⟩ := List.forall_mem_cons.1 hscaled
    exact .cons ⟨limits, hlimits, judgedUnder hlimits first⟩ (ih hrest)

namespace Session

/-- **Nothing runs before everything is decided, and what was decided holds.** A session that notes
the commands and launches that it runs validates as one that does not. Where a problem is skipped,
declared wrongly or follows an unknown convention, nothing was noted and nothing has changed. Where
it was validated, each case of its tree has one entry in the record; each was launched and scored
under the same limits, those that were checked before anything was built; and no verdict says that
there are no such limits. -/
theorem validateIn_decides (s : Session ε π) (directory : Path) (w : World ε) :
    (∀ notes, (s.noting.validateIn directory (w.noted notes)).map forget =
      s.validateIn directory w) ∧
    (∀ {notes outcome w'}, s.noting.validateIn directory (w.noted notes) = some (outcome, w') →
      (∃ reason, outcome = .skipped reason) ∨ (∃ fault, outcome = .invalid fault) ∨
        (∃ name, outcome = .unknownConvention name) →
      w' = w.noted notes) ∧
    ∀ {runs w'}, s.validateIn directory w = some (.validated runs, w') →
      ∃ d validator stream tree,
        Problem.Declaration.load w.files directory = .ok d ∧ d.validator = some validator ∧
        validator.feedbackStream = some stream ∧ d.tree directory = .ok tree ∧
        (JudgedRun.record runs).entries.map (·.1) =
          tree.cases.mapIdx (fun i c ↦ ⟨i + 1, c.batch, c.position⟩) ∧
        (JudgedRun.record runs).entries.map (·.2) =
          (JudgedRun.allCases runs).map (·.graded.verdict) ∧
        (∀ verdict ∈ (JudgedRun.record runs).entries.map (·.2), ∀ cause,
          verdict ≠ (GradeFault.wallTime cause).verdict) ∧
        List.Forall₂ (fun c judged ↦ ∃ limits,
            (s.limits validator.timeLimit validator.memoryLimit).scaled
              c.data.settings.wallTimeFactor = .ok limits ∧
            judged.graded.Under limits stream c.data.points)
          tree.cases (JudgedRun.allCases runs) := by
  refine ⟨fun notes ↦ validateIn_noting s directory _, fun {notes outcome w'} h hunbuilt ↦ ?_,
    fun {runs w'} h ↦ ?_⟩
  · refine eq_of_unbuilt h ?_
    obtain ⟨_, rfl⟩ | ⟨_, rfl⟩ | ⟨_, rfl⟩ := hunbuilt
    · trivial
    · trivial
    · trivial
  · obtain ⟨d, validator, p, executable, between, between', hload, hplans, hjudged⟩ :=
      exists_judgeCases_of_validated h
    have heach := judgeCases_eq ((Session.validator p executable).grader.grade s.sandbox)
      (fun () _ ↦ ()) p.cases () between
    rw [hjudged] at heach
    obtain ⟨hthreads, hids, -⟩ := judgeEach_spec heach.symm
    have hunder := Validator.forall₂_under (v := Session.validator p executable) hplans.scaled
      hthreads
    rw [List.forall₂_map_right_iff] at hunder
    rw [JudgedRun.entries_record, List.map_map, List.map_map]
    refine ⟨d, validator, p.feedback, p.cases, hload, hplans.declared, hplans.feedback,
      hplans.cases, ?_, rfl, ?_, ?_⟩
    · simp only [Nat.add_comm 1] at hids
      exact hids
    · rw [List.forall_mem_map]
      exact forall_mem_of_forall₂ (fun _ _ ⟨_, _, hjudged⟩ ↦ hjudged.exist) hunder
    · rw [← hplans.limits]
      exact hunder

end Session

/-! ### A problem with a case, and one without a wall time limit -/

/-- Two problems with one case each. That of `b` may take too long for any clock. -/
def factorFiles : FileTree :=
  let declaration (factor : String) : Text.Bytes := Text.Utf8.encode
    ("wall_time_factor = " ++ factor ++
      "\n[validator]\nlanguage = 'plain'\nsource = 'v'\n[[test_cases]]\nin = 'v'\n")
  problemFiles [("a", declaration "2.0"), ("b", declaration "1e300")]

/-- A session in which programs of one language need not be built. -/
def plainSession : Session Unit Unit where
  settings := {}
  problems := .ofList [("a", ⟨"/a"⟩), ("b", ⟨"/b"⟩)]
  executors := .ofList [("plain", ⟨none, "run", "main"⟩)]
  sandbox := .empty
  runner := noCommands

/-- How many cases were judged. -/
def ValidationOutcome.judged : ValidationOutcome → Nat
  | validated runs => (JudgedRun.record runs).entries.length
  | _ => 0

/-- Whether a problem was not validated as some case has no wall time limit. -/
def ValidationOutcome.lacksWallTime : ValidationOutcome → Bool
  | invalid (.wallTime _) => true
  | _ => false

/-- The case of `a` is judged, and no verdict on it is about its wall time limit. The validation of
`b` ends for the lack of one, with nothing noted. -/
theorem validateIn_decides_plain :
    (∃ runs w', plainSession.validateIn ⟨"/a"⟩ ⟨factorFiles, ()⟩ = some (.validated runs, w') ∧
      (JudgedRun.record runs).entries.length = 1 ∧
      ∀ verdict ∈ (JudgedRun.record runs).entries.map (·.2), ∀ cause,
        verdict ≠ (GradeFault.wallTime cause).verdict) ∧
    ∃ cause, plainSession.noting.validateIn ⟨"/b"⟩ (World.noted ⟨factorFiles, ()⟩ []) =
      some (.invalid (.wallTime cause), World.noted ⟨factorFiles, ()⟩ []) := by
  have hlength : (plainSession.validateIn ⟨"/a"⟩ ⟨factorFiles, ()⟩).map (·.1.judged) = some 1 := by
    decide +kernel
  have hfault : (plainSession.noting.validateIn ⟨"/b"⟩ (World.noted ⟨factorFiles, ()⟩ [])).map
      (·.1.lacksWallTime) = some true := by
    decide +kernel
  obtain ⟨-, hquiet, -⟩ := Session.validateIn_decides plainSession ⟨"/b"⟩ ⟨factorFiles, ()⟩
  obtain ⟨-, -, hvalidated⟩ := Session.validateIn_decides plainSession ⟨"/a"⟩ ⟨factorFiles, ()⟩
  constructor
  · obtain ⟨⟨outcome, w'⟩, hv, hone⟩ := Option.map_eq_some_iff.1 hlength
    rcases outcome with reason | fault | name | fault | runs
    case validated =>
      obtain ⟨_, _, _, _, -, -, -, -, -, -, hverdicts, -⟩ := hvalidated hv
      exact ⟨runs, w', hv, hone, hverdicts⟩
    all_goals cases hone
  · obtain ⟨⟨outcome, w'⟩, hv, hwall⟩ := Option.map_eq_some_iff.1 hfault
    rcases outcome with reason | (cause | cause | cause) | name | fault | runs
    case invalid.wallTime =>
      rw [hquiet hv (.inr (.inl ⟨_, rfl⟩))] at hv
      exact ⟨cause, hv⟩
    all_goals cases hwall

end ContestJudge
