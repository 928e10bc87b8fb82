import ContestJudge.Proofs.Fallible
import ContestJudge.Proofs.Grading.Disposal
import ContestJudge.Proofs.Grading.Limits

/-!
# What the output of a solution is compared with

The expected output of a case is wanted three times while the case is judged: before the launch,
before the program is given the input, and when the outcome is scored. In between the sandbox may
change every file. What is read once is kept, so the three answers agree as far as the comparison is
concerned: it is made with what was read first (`Case.firstExpected`), and by the time that there is
an outcome something was read.

* `Grader.ending_of_grade` — judging ends with a fault or with a score, for any grader;
* `Solution.firstExpected_of_load` — what was loaded includes the expected output;
* `Solution.score_of_firstExpected` — so scoring takes none of its ways out;
* `Solution.exists_compares` — whatever has an outcome is therefore compared, and
  `Solution.exists_grade_of_run` says when there is one;
* `Solution.grade_compares` — and the verdict is that of a comparison.

## What is read first

What a source gives is said for a list of trees, in which it is read one after the other until that
succeeds (`DataSource.firstRead`). Reading it once takes the first tree off this list
(`DataSource.firstRead_bytes`), so three readings in three trees are three steps of the same kind,
and no case distinction on which of them found the file is needed.

## Flags

The flags of a comparison are those of the exit, and the comparison only speaks if there are none
(`comparedFlags`). So a wrong answer stands alone, and no exit is ever called one
(`contains_judgeExit_wrongAnswer`). A case that could not be compared has a fault for a verdict,
which is a runtime error and never a wrong answer.
-/

namespace ContestJudge

open Text (Bytes)

/-! ### What is read first -/

/-- What a source gives: what it holds, or else what is read **first**, when its file is read in one
tree after the other. -/
def DataSource.firstRead (s : DataSource) (trees : List FileTree) : Option Bytes :=
  s.kept?.or (s.path?.bind fun path ↦ trees.findSome? fun files ↦ (files.read path).toOption)

/-- The expected output of a case, as it is read first in one tree after the other. -/
def Case.firstExpected (c : Case) (trees : List FileTree) : Option Bytes :=
  c.data.expected.bind (·.firstRead trees)

namespace DataSource

variable {s : DataSource} {files : FileTree} {content : Bytes}

@[simp] theorem firstRead_nil (s : DataSource) : s.firstRead [] = s.kept? := by
  rcases s with content | ⟨path, - | kept⟩ <;> rfl

/-- **Reading a source once** leaves what its next reading would give. -/
theorem firstRead_bytes (files : FileTree) (s : DataSource) (trees : List FileTree) :
    (s.bytes files).2.firstRead trees = s.firstRead (files :: trees) := by
  rcases s with content | ⟨path, - | kept⟩
  · rfl
  · rw [bytes]
    rcases hread : files.read path with fault | content
    · simp [firstRead, kept?, path?, hread, Except.toOption]
    · simp [firstRead, kept?, path?, hread, Except.toOption]
  · rfl

/-- A source is read successfully exactly if that gives something. -/
theorem toOption_bytes (files : FileTree) (s : DataSource) :
    (s.bytes files).1.toOption = s.firstRead [files] := by
  rcases s with content | ⟨path, - | kept⟩
  · rfl
  · rw [bytes]
    rcases hread : files.read path with fault | content
    · simp [firstRead, kept?, path?, hread, Except.toOption]
    · simp [firstRead, kept?, path?, hread, Except.toOption]
  · rfl

/-- What is at hand is not read again. -/
theorem bytes_of_kept (h : s.kept? = some content) (files : FileTree) :
    s.bytes files = (.ok content, s) := by
  rcases s with content' | ⟨path, - | kept⟩
  · cases h
    rfl
  · cases h
  · cases h
    rfl

end DataSource

namespace Case

variable {c : Case} {files : FileTree} {expected : Bytes}

/-- **Reading the expected output once** leaves what its next reading would give. -/
theorem firstExpected_expected (files : FileTree) (c : Case) (trees : List FileTree) :
    (c.expected files).2.firstExpected trees = c.firstExpected (files :: trees) := by
  rw [Case.expected]
  rcases hsource : c.data.expected with - | source
  · simp [firstExpected, hsource]
  · simp only [firstExpected, hsource, Option.bind_some]
    exact source.firstRead_bytes files trees

/-- Reading the input has no part in it. -/
theorem firstExpected_input (files : FileTree) (c : Case) (trees : List FileTree) :
    (c.input files).2.firstExpected trees = c.firstExpected trees := rfl

/-- Reading the expected output changes nothing about the input. -/
theorem input_expected (files : FileTree) (c : Case) (files' : FileTree) :
    ((c.expected files).2.input files').1 = (c.input files').1 := by
  rw [Case.expected]
  split <;> rfl

/-- The expected output is read successfully exactly if that gives something. -/
theorem bind_expected (files : FileTree) (c : Case) :
    (c.expected files).1.bind Except.toOption = c.firstExpected [files] := by
  rw [Case.expected, firstExpected]
  rcases c.data.expected with - | source
  · rfl
  · exact source.toOption_bytes files

/-- An expected output that is at hand is not read again. -/
theorem expected_of_firstExpected (h : c.firstExpected [] = some expected) (files : FileTree) :
    c.expected files = (some (.ok expected), c) := by
  obtain ⟨source, hsource, hkept⟩ := Option.bind_eq_some_iff.1 h
  rw [DataSource.firstRead_nil] at hkept
  have hsame : ({ c with data := { c.data with expected := some source } } : Case) = c := by
    rw [← hsource]
  rw [Case.expected, hsource]
  simp only [DataSource.bytes_of_kept hkept, hsame]

end Case

/-! ### How judging ends -/

/-- **How judging a case ends**: with a fault, or with a score of an outcome. -/
inductive Grader.Ending {ε π : Type} (g : Grader) (s : Sandbox ε π) (c : Case) (w : World ε)
    (graded : Graded) (w' : World ε) : Prop
  /-- A fault is the verdict. -/
  | faulted (fault : GradeFault) (verdict : graded.verdict = fault.verdict)
      (outcome : graded.outcome = none)
  /-- An outcome is scored, in the files that the exchange left behind. -/
  | scored {spec process c₁ input c₂ run result} (launches : g.Launches s c w spec process c₁)
      (loaded : g.load (s.launch spec w).2.files c₁ = (.ok input, c₂))
      (launch : graded.launch = some ⟨spec, true, some run⟩) (ended : run.result = .ok result)
      (outcome : graded.outcome = some result)
      (verdict : (graded.verdict, graded.case) = g.score w'.files c₂ result)

/-- A launch that takes no time is never cut off. -/
theorem Arrival.bound_immediate {π : Type} (result : Except LaunchFault π) (wallTime : Duration) :
    (⟨some 0, result⟩ : Arrival π).bound wallTime = some ⟨0, result⟩ := by
  rw [bound]
  cases Exchange.deadlineOf (Exchange.budget wallTime) with
  | none => rfl
  | some d => exact congrArg some (if_pos d.zero_le)

namespace Grader

variable {ε π : Type} {g : Grader} {s : Sandbox ε π} {c : Case} {w w' : World ε} {graded : Graded}

/-- **Judging ends with a fault or with a score.** -/
theorem ending_of_grade (h : g.grade s c w = some (graded, w')) : g.Ending s c w graded w' := by
  rw [grade] at h
  rcases hprepare : g.prepare w.files c with ⟨fault | spec, c₁⟩
  · simp only [hprepare] at h
    cases h
    exact .faulted fault rfl rfl
  simp only [hprepare, Option.bind_eq_bind, Option.bind_eq_some_iff] at h
  obtain ⟨⟨time, fault | process⟩, hstarted, h⟩ := h
  · cases h
    exact .faulted (.launch fault) rfl rfl
  -- from here on there is a process
  have hlaunches : g.Launches s c w spec process c₁ := ⟨hprepare, time, hstarted⟩
  simp only [interact] at h
  rcases hload : g.load (s.launch spec w).2.files c₁ with ⟨fault | input, c₂⟩
  · simp only [hload] at h
    cases h
    exact .faulted fault rfl rfl
  simp only [hload, Option.bind_eq_bind, Option.bind_eq_some_iff] at h
  obtain ⟨run, -, h⟩ := h
  rcases hresult : run.result with fault | outcome
  · simp only [hresult] at h
    cases h
    exact .faulted (.exchange fault) rfl rfl
  · simp only [hresult] at h
    cases h
    exact .scored hlaunches hload rfl hresult rfl rfl

/-- The caps do not depend on what was read of a case. -/
theorem caps_of_loads (g : Grader) {c c' : Case} (h : c.Loads c') : g.caps c' = g.caps c := by
  rw [h.rest]
  funext stream
  cases stream <;> rfl

/-- A case whose exchange ends with an outcome is scored. -/
theorem Launches.exists_grade {spec : LaunchSpec} {process : π} {c₁ c₂ : Case} {input : Bytes}
    {run : Exchange.Run} {outcome : Outcome} (h : g.Launches s c w spec process c₁)
    (hload : g.load (s.launch spec w).2.files c₁ = (.ok input, c₂))
    (hrun : Exchange.run (s.engage process input (s.launch spec w).2).1 spec.limits.wallTime
      (g.caps c₂) false input = some run) (hended : run.result = .ok outcome) :
    ∃ graded, g.grade s c w =
        some (graded, s.release process (s.engage process input (s.launch spec w).2).2) ∧
      graded.launch = some ⟨spec, true, some run⟩ ∧ graded.outcome = some outcome := by
  obtain ⟨hprepared, time, hlaunched⟩ := h
  rw [grade]
  simp only [hprepared, hlaunched, interact, hload, hrun, hended, Option.bind_eq_bind,
    Option.bind_some]
  exact ⟨_, rfl, rfl, rfl⟩

/-- Judging ends where the case cannot be prepared. -/
theorem grade_of_prepare_error {fault : GradeFault} {c' : Case}
    (h : g.prepare w.files c = (.error fault, c')) :
    g.grade s c w = some (.ofFault fault c' none 0, w) := by
  rw [grade, h]

/-- Judging ends where the launch ends and what to give to the program cannot be loaded. -/
theorem exists_grade_of_load_error {spec : LaunchSpec} {started : Started π} {c' : Case}
    (hprepare : g.prepare w.files c = (.ok spec, c'))
    (hlaunch : (s.launch spec w).1.bound spec.limits.wallTime = some started)
    (hload : ∀ input c'', g.load (s.launch spec w).2.files c' ≠ (.ok input, c'')) :
    ∃ p, g.grade s c w = some p := by
  rw [grade]
  simp only [hprepare, hlaunch, Option.bind_eq_bind, Option.bind_some]
  rcases started.result with fault | process
  · exact ⟨_, rfl⟩
  · simp only [interact]
    rcases hloaded : g.load (s.launch spec w).2.files c' with ⟨fault | input, c''⟩
    · exact ⟨_, rfl⟩
    · exact absurd hloaded (hload input c'')

end Grader

/-! ### Solutions -/

namespace Solution

variable {ε π : Type} {s : Solution} {c c' : Case} {files : FileTree}

/-- **The flags of a comparison**: those of the exit, or else a wrong answer for any output but the
expected one. -/
def comparedFlags (limits : Limits) (expected : Bytes) (outcome : Outcome) : Flags :=
  let flags := judgeExit outcome.usage limits outcome.overflow.isSome
  if flags.isEmpty then
    if outcome.stdout = expected then .empty else Flags.empty.insert .wrongAnswer
  else flags

/-- The exit never says that the answer is wrong. -/
theorem contains_judgeExit_wrongAnswer (usage : Usage) (limits : Limits) (overflow : Bool) :
    (judgeExit usage limits overflow).contains .wrongAnswer = false := by
  cases overflow with
  | true => rfl
  | false =>
    rw [Bool.eq_false_iff]
    exact fun h ↦ contains_judgeExit.1 h

/-- A wrong answer is never one flag among others. -/
theorem toList_comparedFlags {limits : Limits} {expected : Bytes} {outcome : Outcome}
    (h : (comparedFlags limits expected outcome).contains .wrongAnswer = true) :
    (comparedFlags limits expected outcome).toList = [.wrongAnswer] := by
  revert h
  rw [comparedFlags]
  split
  · split
    · exact fun h ↦ nomatch h
    · exact fun _ ↦ rfl
  · intro h
    rw [contains_judgeExit_wrongAnswer] at h
    cases h

/-- A case is prepared for a solution if it says what to expect and has limits. -/
theorem prepare_eq_ok_iff {spec : LaunchSpec} :
    s.prepare files c = (.ok spec, c') ↔ s.spec? c = some spec ∧ c' = (c.expected files).2 := by
  have hspec : (s.prepare files c).1.toOption = s.spec? c := s.preparesAs files c
  have hcase : (s.prepare files c).2 = (c.expected files).2 := by
    rw [prepare]
    split <;> simp_all
  rw [← hspec, ← hcase]
  rcases s.prepare files c with ⟨fault | spec', c''⟩
  · simp [Except.toOption]
  · simp [Except.toOption, eq_comm]

/-- **What is loaded includes the expected output**, whether it was at hand or is read now. -/
theorem firstExpected_of_load {input : Bytes} (hknown : c.data.expected ≠ none)
    (h : load files c = (.ok input, c')) :
    ∃ expected, c.firstExpected [files] = some expected ∧ c'.firstExpected [] = some expected := by
  rw [load, loadInput] at h
  rcases hinput : c.input files with ⟨cause | content, c₁⟩
  · simp only [hinput] at h
    cases congrArg Prod.fst h
  have hc₁ : c₁ = (c.input files).2 := by rw [hinput]
  have hread : (c₁.expected files).1 ≠ none :=
    Case.expected_ne_none (by rw [hc₁]; exact hknown) files
  have hfirst := c₁.bind_expected files
  have hkept := c₁.firstExpected_expected files []
  have hsame : c₁.firstExpected [files] = c.firstExpected [files] := by rw [hc₁]; rfl
  rw [hsame] at hfirst hkept
  simp only [hinput, Except.mapError] at h
  rcases hexpected : c₁.expected files with ⟨- | fault | expected, c₂⟩
  · exact absurd (congrArg Prod.fst hexpected) hread
  · simp only [hexpected] at h
    cases congrArg Prod.fst h
  · simp only [hexpected] at h hfirst hkept
    cases h
    exact ⟨expected, hfirst.symm, hkept.trans hfirst.symm⟩

/-- What is loaded is the input, where the expected output can be read. -/
theorem exists_load_of_firstExpected {input expected : Bytes}
    (hinput : (c.input files).1 = .ok input) (h : c.firstExpected [files] = some expected) :
    ∃ c', load files c = (.ok input, c') := by
  have hread : ((c.input files).2.expected files).1 = some (.ok expected) := by
    have hfirst := (c.input files).2.bind_expected files
    rw [Case.firstExpected_input, h] at hfirst
    obtain ⟨answer, hanswer, hok⟩ := Option.bind_eq_some_iff.1 hfirst
    rw [hanswer, toOption_eq_some_iff.1 hok]
  rw [load, loadInput]
  rcases hloaded : c.input files with ⟨result, c₁⟩
  rw [hloaded] at hinput hread
  obtain rfl : result = .ok input := hinput
  rcases hexpected : c₁.expected files with ⟨answer, c₂⟩
  rw [hexpected] at hread
  obtain rfl : answer = some (.ok expected) := hread
  simp only [Except.mapError, hexpected]
  exact ⟨c₂, rfl⟩

/-- **Scoring is a comparison** where the expected output is at hand and the case has limits. -/
theorem score_of_firstExpected {limits : Limits} {expected : Bytes}
    (hlimits : caseLimits s.limits c = .ok limits) (h : c.firstExpected [] = some expected)
    (files : FileTree) (outcome : Outcome) :
    s.score files c outcome = (verdict (comparedFlags limits expected outcome) c outcome, c) := by
  rw [score, hlimits, comparedFlags]
  simp only [Case.expected_of_firstExpected h]
  rcases hempty : (judgeExit outcome.usage limits outcome.overflow.isSome).isEmpty with - | -
  · rfl
  · have hflags : judgeExit outcome.usage limits outcome.overflow.isSome = .empty :=
      of_decide_eq_true hempty
    rw [hflags]
    simp only [eq_comm (a := expected)]
    rfl

theorem caseLimits_of_loads (h : c.Loads c') (limits : Limits) :
    caseLimits limits c' = caseLimits limits c := by
  rw [caseLimits, caseLimits, h.rest]

theorem verdict_of_loads (h : c.Loads c') (flags : Flags) (outcome : Outcome) :
    verdict flags c' outcome = verdict flags c outcome := by
  rw [verdict, verdict, h.rest]

/-- **An outcome that is compared** with the expected output as it was read first, before the launch
or else right after it. -/
structure Compares (s : Solution) (sandbox : Sandbox ε π) (c : Case) (w : World ε)
    (graded : Graded) (outcome : Outcome) (spec : LaunchSpec) (expected : Bytes) : Prop where
  /-- It is the outcome of the program that was launched. -/
  launched : ∃ run, graded.launch = some ⟨spec, true, some run⟩ ∧ run.result = .ok outcome
  /-- The program had the limits of the case. -/
  scaled : s.limits.scaled c.data.settings.wallTimeFactor = .ok spec.limits
  /-- That output was expected. -/
  first : c.firstExpected [w.files, (sandbox.launch spec w).2.files] = some expected
  /-- The verdict is that of the comparison. -/
  verdict : graded.verdict = verdict (comparedFlags spec.limits expected outcome) c outcome
  /-- What was expected is at hand from now on. -/
  kept : graded.case.firstExpected [] = some expected

variable {sandbox : Sandbox ε π} {w w' : World ε} {graded : Graded} {outcome : Outcome}

/-- **Whatever has an outcome is compared**; there is no other way for it to be scored. -/
theorem exists_compares (h : s.grader.grade sandbox c w = some (graded, w'))
    (houtcome : graded.outcome = some outcome) :
    ∃ spec expected, s.Compares sandbox c w graded outcome spec expected := by
  cases Grader.ending_of_grade h with
  | faulted fault verdict outcome => cases outcome.symm.trans houtcome
  | @scored spec process c₁ input c₂ run result launches loaded launch ended outcome verdict =>
    obtain rfl : result = _ := Option.some.inj (outcome.symm.trans houtcome)
    obtain ⟨hspec, hc₁⟩ := prepare_eq_ok_iff.1 launches.prepared
    obtain ⟨-, limits, hscaled, hlaunched⟩ := spec?_eq_some_iff.1 hspec
    have hlimits : spec.limits = limits := by rw [hlaunched]
    rw [← hlimits] at hscaled
    -- one reading before the launch and one after it, of which the first that succeeds counts
    obtain ⟨expected, hfirst, hkept⟩ :=
      firstExpected_of_load (expected_ne_none_of_prepare launches.prepared) loaded
    rw [hc₁, Case.firstExpected_expected] at hfirst
    have hloads : c.Loads c₂ := by
      have hprepare := s.keeps.prepare w.files c
      have hload := s.keeps.load (sandbox.launch spec w).2.files c₁
      rw [launches.prepared] at hprepare
      rw [loaded] at hload
      exact hprepare.trans hload
    have hscore : (graded.verdict, graded.case) =
        (Solution.verdict (comparedFlags spec.limits expected result) c₂ result, c₂) := by
      refine verdict.trans (score_of_firstExpected ?_ hkept w'.files result)
      rw [caseLimits_of_loads hloads, caseLimits, hscaled]
      rfl
    obtain ⟨hverdict, hcase⟩ := Prod.mk.inj hscore
    refine ⟨spec, expected, ⟨run, launch, ended⟩, hscaled, hfirst, ?_, ?_⟩
    · rw [hverdict, verdict_of_loads hloads]
    · rw [hcase, hkept]

/-- **A case has an outcome** if its program is launched, its input and its expected output can be
read, and the exchange ends with one. -/
theorem exists_grade_of_run {spec : LaunchSpec} {process : π} {time : Nat} {expected input : Bytes}
    {run : Exchange.Run} (hspec : s.spec? c = some spec)
    (hlaunch : (sandbox.launch spec w).1.bound spec.limits.wallTime = some ⟨time, .ok process⟩)
    (hfirst : c.firstExpected [w.files, (sandbox.launch spec w).2.files] = some expected)
    (hinput : (c.input (sandbox.launch spec w).2.files).1 = .ok input)
    (hrun : Exchange.run (sandbox.engage process input (sandbox.launch spec w).2).1
      spec.limits.wallTime (s.grader.caps c) false input = some run)
    (hended : run.result = .ok outcome) :
    ∃ graded, s.grader.grade sandbox c w = some (graded, sandbox.release process
        (sandbox.engage process input (sandbox.launch spec w).2).2) ∧
      graded.launch = some ⟨spec, true, some run⟩ ∧ graded.outcome = some outcome := by
  have hlaunches : s.grader.Launches sandbox c w spec process (c.expected w.files).2 :=
    ⟨prepare_eq_ok_iff.2 ⟨hspec, rfl⟩, time, hlaunch⟩
  rw [← Case.input_expected w.files] at hinput
  rw [← Case.firstExpected_expected] at hfirst
  obtain ⟨c₂, hload⟩ := exists_load_of_firstExpected hinput hfirst
  have hcaps : s.grader.caps c₂ = s.grader.caps c := by
    have hloads := s.keeps.load (sandbox.launch spec w).2.files (c.expected w.files).2
    rw [show s.grader.load _ (c.expected w.files).2 = _ from hload] at hloads
    exact s.grader.caps_of_loads ((Case.Loads.of_expected w.files c).trans hloads)
  rw [← hcaps] at hrun
  exact hlaunches.exists_grade hload hrun hended

/-- Without an outcome a fault is the verdict. -/
theorem exists_fault (h : s.grader.grade sandbox c w = some (graded, w'))
    (houtcome : graded.outcome = none) : ∃ fault : GradeFault, graded.verdict = fault.verdict := by
  cases Grader.ending_of_grade h with
  | faulted fault verdict outcome => exact ⟨fault, verdict⟩
  | scored launches loaded launch ended outcome verdict => cases outcome.symm.trans houtcome

/-- Judging ends where there is nothing to compare with, if the launch does. -/
theorem exists_grade_of_firstExpected_eq_none
    (h : ∀ spec, s.spec? c = some spec →
      c.firstExpected [w.files, (sandbox.launch spec w).2.files] = none ∧
        ∃ started, (sandbox.launch spec w).1.bound spec.limits.wallTime = some started) :
    ∃ p, s.grader.grade sandbox c w = some p := by
  rcases hprepare : s.prepare w.files c with ⟨fault | spec, c'⟩
  · exact ⟨_, Grader.grade_of_prepare_error hprepare⟩
  obtain ⟨hspec, rfl⟩ := prepare_eq_ok_iff.1 hprepare
  obtain ⟨hnone, started, hstarted⟩ := h spec hspec
  refine Grader.exists_grade_of_load_error hprepare hstarted fun input c'' hload ↦ ?_
  obtain ⟨expected, hfirst, -⟩ :=
    firstExpected_of_load (expected_ne_none_of_prepare hprepare) hload
  rw [Case.firstExpected_expected, hnone] at hfirst
  cases hfirst

/-- An outcome means that the expected output was read around the launch of the case. -/
theorem outcome_eq_none (h : s.grader.grade sandbox c w = some (graded, w'))
    (hunread : ∀ spec, s.spec? c = some spec →
      c.firstExpected [w.files, (sandbox.launch spec w).2.files] = none) :
    graded.outcome = none := by
  rw [Option.eq_none_iff_forall_ne_some]
  intro outcome houtcome
  obtain ⟨spec, expected, hcompares⟩ := exists_compares h houtcome
  obtain ⟨run, hlaunch, -⟩ := hcompares.launched
  have hspec : s.spec? c = some spec :=
    (s.preparesAs w.files c).symm.trans (congrArg _ (Grader.prepare_of_launch h hlaunch))
  cases (hunread spec hspec).symm.trans hcompares.first

/-- **What a solution's verdict says**, whatever the sandbox does to the files.

If there is an outcome, it is that of the launched program, and the expected output could be read
before or after the launch. The verdict has the usage of the outcome. Its flags are those of the
exit, if there are any; otherwise there is none, or only a wrong answer, as the output equals what
was read first or not. If there is no outcome, the verdict is a runtime error without a usage.

A case that says nothing about the output, or whose expected output could not be read, has no
outcome, so it is never a wrong answer. -/
theorem grade_compares (s : Solution) (sandbox : Sandbox ε π) (c : Case) (w : World ε) :
    (∀ {graded w'}, s.grader.grade sandbox c w = some (graded, w') →
      (∀ outcome, graded.outcome = some outcome → ∃ spec run expected,
        graded.launch = some ⟨spec, true, some run⟩ ∧ run.result = .ok outcome ∧
        s.limits.scaled c.data.settings.wallTimeFactor = .ok spec.limits ∧
        c.firstExpected [w.files, (sandbox.launch spec w).2.files] = some expected ∧
        graded.verdict = verdict graded.verdict.flags c outcome ∧
        graded.verdict.usage = some outcome.usage ∧
        let exitFlags := judgeExit outcome.usage spec.limits outcome.overflow.isSome
        (exitFlags ≠ .empty → graded.verdict.flags = exitFlags) ∧
        (exitFlags = .empty → graded.verdict.flags.toList =
          if outcome.stdout = expected then [] else [.wrongAnswer])) ∧
      (graded.outcome = none →
        graded.verdict.flags.toList = [.runtimeError] ∧ graded.verdict.usage = none) ∧
      (graded.verdict.flags.contains .wrongAnswer = true →
        graded.verdict.flags.toList = [.wrongAnswer] ∧ graded.outcome ≠ none) ∧
      ((∀ spec, s.spec? c = some spec →
        c.firstExpected [w.files, (sandbox.launch spec w).2.files] = none) →
          graded.outcome = none)) ∧
    (c.data.expected = none → ∃ graded,
      s.grader.grade sandbox c w = some (graded, w) ∧ graded.outcome = none) ∧
    ((∀ spec, s.spec? c = some spec →
      c.firstExpected [w.files, (sandbox.launch spec w).2.files] = none ∧
        ∃ started, (sandbox.launch spec w).1.bound spec.limits.wallTime = some started) →
      ∃ graded w', s.grader.grade sandbox c w = some (graded, w') ∧ graded.outcome = none) := by
  refine ⟨fun {graded w'} h ↦ ⟨fun outcome houtcome ↦ ?_, fun hnone ↦ ?_, fun hwrong ↦ ?_,
    outcome_eq_none h⟩, fun hmissing ↦ ?_, fun hunread ↦ ?_⟩
  · obtain ⟨spec, expected, hcompares⟩ := exists_compares h houtcome
    obtain ⟨run, hlaunch, hended⟩ := hcompares.launched
    have hflags : graded.verdict.flags = comparedFlags spec.limits expected outcome := by
      rw [hcompares.verdict]
      rfl
    refine ⟨spec, run, expected, hlaunch, hended, hcompares.scaled, hcompares.first, ?_, ?_,
      fun hexit ↦ ?_, fun hexit ↦ ?_⟩
    · rw [hflags]
      exact hcompares.verdict
    · rw [hcompares.verdict]
      rfl
    · rw [hflags, comparedFlags, Flags.isEmpty, decide_eq_false hexit, if_neg Bool.false_ne_true]
    · rw [hflags, comparedFlags, hexit, if_pos (by decide)]
      split <;> rfl
  · obtain ⟨fault, hverdict⟩ := exists_fault h hnone
    rw [hverdict]
    exact ⟨rfl, rfl⟩
  · rcases houtcome : graded.outcome with - | outcome
    · -- a fault has another flag
      obtain ⟨fault, hverdict⟩ := exists_fault h houtcome
      rw [hverdict] at hwrong
      cases hwrong
    · obtain ⟨spec, expected, hcompares⟩ := exists_compares h houtcome
      rw [hcompares.verdict] at hwrong ⊢
      exact ⟨toList_comparedFlags hwrong, Option.some_ne_none outcome⟩
  · have hprepare : s.grader.prepare w.files c = (.error (.noExpectedOutput c.position), c) := by
      show s.prepare w.files c = _
      rw [prepare, Case.expected, hmissing]
    exact ⟨_, Grader.grade_of_prepare_error hprepare, rfl⟩
  · obtain ⟨⟨graded, w'⟩, h⟩ := exists_grade_of_firstExpected_eq_none hunread
    exact ⟨graded, w', h, outcome_eq_none h fun spec hspec ↦ (hunread spec hspec).1⟩

/-! ### An expected output that is overwritten -/

/-- A solution with a second of CPU time. -/
def attempt : Solution where
  executable := .precompiled "solve" []
  limits := .ofTime (.ofMillis 1000) 1000

/-- A case whose expected output is in a file. -/
def filedCase : Case :=
  { Validator.emptyCase with
    data := { Validator.emptyCase.data with expected := some (.ofPath ⟨"/out"⟩) } }

/-- Nothing but that file. -/
def outFile (content : Bytes) : FileTree where
  entries := [(["out"], .file content false)]
  current := []

/-- A process that writes a `b`. -/
def writesB : Exchange.Behaviour :=
  { Validator.prompt with
    output
      | .stdout => some [(0, .data [98]), (1, .ended)]
      | .stderr => some [(1, .ended)] }

/-- A sandbox that puts an `a` into the file at the launch, and a `b` while the program runs. -/
def overwriting : Sandbox Unit Unit where
  launch _ w := (⟨some 0, .ok ()⟩, { w with files := outFile [97] })
  engage _ _ w := (writesB, { w with files := outFile [98] })
  release _ w := w

/-- It runs within three seconds, and without a flag under any memory limit that it keeps. -/
theorem exists_run_writesB : ∃ r outcome,
    Exchange.run writesB (.ofMillis 3000) (attempt.grader.caps filedCase) false [] = some r ∧
      r.result = .ok outcome ∧ outcome.stdout = [98] ∧ ∀ memory, 10 < memory →
        judgeExit outcome.usage ⟨.ofMillis 1000, memory, .ofMillis 3000⟩ outcome.overflow.isSome =
          .empty := by
  have htimeline : Exchange.timeline writesB [] = [(0, .inputEnded .noPipe),
      (0, .output .stdout (.data [98])), (1, .output .stdout .ended),
      (1, .output .stderr .ended)] := by
    simp [Exchange.timeline, writesB, Validator.prompt, Exchange.feed, Exchange.outputEvents,
      Exchange.notLater]
  obtain ⟨r, outcome, hrun, hended, hstdout, hover, husage⟩ : ∃ r outcome,
      Exchange.run writesB (.ofMillis 3000) (attempt.grader.caps filedCase) false [] = some r ∧
      r.result = .ok outcome ∧ outcome.stdout = [98] ∧ outcome.overflow = none ∧
      outcome.usage = ⟨.exited 0, .ofMillis 1, .ofMillis 1, 10⟩ := by
    rw [Exchange.run, htimeline]
    exact ⟨_, _, rfl, rfl, rfl, rfl, rfl⟩
  refine ⟨r, outcome, hrun, hended, hstdout, fun memory hmemory ↦ ?_⟩
  have hclean : Clean outcome.usage ⟨.ofMillis 1000, memory, .ofMillis 3000⟩ := by
    have hwall : Duration.ofMillis 1 < .ofMillis 3000 := by decide
    have hcpu : Duration.ofMillis 1 < .ofMillis 1000 := by decide
    rw [husage]
    exact ⟨rfl, hwall, hcpu, hmemory⟩
  rw [hover]
  exact of_decide_eq_true (isEmpty_judgeExit.2 ⟨rfl, hclean⟩)

/-- The `b` comes too late: the output is compared with the `a`, which was read before. -/
theorem grade_compares_overwriting : ∃ graded w',
    attempt.grader.grade overwriting filedCase ⟨default, ()⟩ = some (graded, w') ∧
      w'.files = outFile [98] ∧ (∃ outcome, graded.outcome = some outcome ∧
        outcome.stdout = [98]) ∧ graded.verdict.flags.toList = [.wrongAnswer] := by
  obtain ⟨r, outcome, hrun, hended, hstdout, hclean⟩ := exists_run_writesB
  have hexit := hclean 1000 (by decide)
  have hlimits : caseLimits attempt.limits filedCase = .ok Validator.threefold :=
    Validator.caseLimits_of_scaled (v := Validator.checker) Validator.scaled_checker
  have hspec : attempt.spec? filedCase =
      some (launchSpec attempt.executable filedCase [] Validator.threefold) := by
    rw [spec?, hlimits]
    rfl
  -- the file is not there before the launch, and an `a` is in it right after
  have hfirst : filedCase.firstExpected [default, outFile [97]] = some [97] := rfl
  obtain ⟨graded, hgrade, hlaunch, houtcome⟩ : ∃ graded,
      attempt.grader.grade overwriting filedCase ⟨default, ()⟩ =
        some (graded, ⟨outFile [98], ()⟩) ∧
      graded.launch = some ⟨launchSpec attempt.executable filedCase [] Validator.threefold, true,
        some r⟩ ∧ graded.outcome = some outcome :=
    exists_grade_of_run hspec (Arrival.bound_immediate _ _) hfirst rfl hrun hended
  obtain ⟨hcompares, -⟩ := grade_compares attempt overwriting filedCase ⟨default, ()⟩
  obtain ⟨hscored, -⟩ := hcompares hgrade
  obtain ⟨spec, run, expected, hlaunched, -, -, hfirst, -, -, -, hequal⟩ := hscored outcome houtcome
  obtain rfl : expected = [97] := Option.some.inj (hfirst.symm.trans rfl)
  obtain rfl : spec = launchSpec attempt.executable filedCase [] Validator.threefold := by
    cases hlaunch.symm.trans hlaunched
    rfl
  refine ⟨graded, _, hgrade, rfl, ⟨outcome, houtcome, hstdout⟩, ?_⟩
  rw [hequal hexit, hstdout]
  rfl

end Solution

end ContestJudge
