import ContestJudge.Proofs.Case.History
import ContestJudge.Proofs.Grading.Comparison
import ContestJudge.Session.Checking

/-!
# One content for each case

While a case is judged, the files may change at every step: a launch, an exchange and the release of
a process are all free to do so. But what was read of the case once is held by it from then on. So
the input that the program is given, the output that it is compared with, and what is shown of a
wrong answer in the end belong to one and the same content of each file.

* `DataSource.answers_ofPath` — of one source in files that change, this is known already; a source
  that has answered once holds its answer.
* `GivesInput.exists_given` — an outcome is that of a process that was given the input that the case
  holds. It is shown of every grader that loads the input and changes nothing else
  (`Grader.GivesInput`), and validators and solutions are such.
* `Solution.exists_given_compares` — the process that was given the input is the one whose output is
  compared, with what the case holds.
* `data_read_once` — all of this together, up to what is shown (`JudgedCase.line_of_wrongAnswer?`).

A case is handed on from one step to the next, and each hands on a case that is the same but for
what it has read (`Case.Loads`). What a case holds is kept along that, so no step needs to be looked
into again once it is known to keep its case.
-/

namespace ContestJudge

open Text (Bytes)

variable {ε π : Type}

/-! ### Cases that hold their data -/

namespace Case

variable {c c' : Case} {files : FileTree} {input expected : Bytes}

/-- A case holds an expected output, whatever becomes of its file. -/
def HoldsExpected (c : Case) (expected : Bytes) : Prop :=
  ∃ source, c.data.expected = some source ∧ source.Holds expected

theorem holdsExpected_iff : c.HoldsExpected expected ↔ c.firstExpected [] = some expected := by
  rw [firstExpected, Option.bind_eq_some_iff]
  simp only [HoldsExpected, DataSource.holds_iff, DataSource.firstRead_nil]

/-- What the input was read as is its content in the case that is left. -/
theorem holds_of_input (h : (c.input files).1 = .ok input) :
    (c.input files).2.data.input.Holds input := by
  have hbytes : (c.data.input.bytes files).1 = .ok input := h
  show (c.data.input.bytes files).2.Holds input
  rw [DataSource.bytes_eq_access] at hbytes ⊢
  exact DataSource.holds_of_access hbytes

theorem holdsExpected_of_expected (h : (c.expected files).1 = some (.ok expected)) :
    (c.expected files).2.HoldsExpected expected := by
  rw [Case.expected] at h ⊢
  rcases hsource : c.data.expected with - | source
  · simp only [hsource] at h
    cases h
  · simp only [hsource] at h ⊢
    refine ⟨_, rfl, ?_⟩
    have hbytes : (source.bytes files).1 = .ok expected := Option.some.inj h
    rw [DataSource.bytes_eq_access] at hbytes ⊢
    exact DataSource.holds_of_access hbytes

theorem Loads.holdsExpected (h : c.Loads c') (hheld : c.HoldsExpected expected) :
    c'.HoldsExpected expected := by
  obtain ⟨source, hsource, hholds⟩ := hheld
  have hrel := h.expected
  rw [hsource] at hrel
  rcases hsource' : c'.data.expected with - | source'
  · rw [hsource'] at hrel
    cases hrel
  · rw [hsource'] at hrel
    cases hrel with
    | some hloads => exact ⟨source', hsource', hloads.holds hholds⟩

end Case

/-! ### Graders that give the input -/

/-- A grader gives the program the input: it leaves the input alone before the launch, and what it
loads then is what the input is read as. -/
structure Grader.GivesInput (g : Grader) : Prop where
  prepare : ∀ files (c : Case), (g.prepare files c).2.data.input = c.data.input
  load : ∀ {files} {c c' : Case} {input}, g.load files c = (.ok input, c') →
    (c.input files).1 = .ok input ∧ (c.input files).2.Loads c'

/-- **A process that was given the input.** The outcome is that of an exchange with a process that
was launched for the case. It was given the input as it was held by the case, or else as it was read
after the launch, and the case holds that input from now on. -/
structure Graded.Given (graded : Graded) (g : Grader) (s : Sandbox ε π) (c : Case) (w : World ε)
    (outcome : Outcome) (spec : LaunchSpec) (input : Bytes) : Prop where
  /-- The process was launched, and its exchange went as it went with that input. -/
  exchange : ∃ process time run,
    (s.launch spec w).1.bound spec.limits.wallTime = some ⟨time, .ok process⟩ ∧
    Exchange.run (s.engage process input (s.launch spec w).2).1 spec.limits.wallTime (g.caps c)
      false input = some run ∧
    run.result = .ok outcome ∧ graded.launch = some ⟨spec, true, some run⟩
  /-- That was the input. -/
  first : c.data.input.firstRead [(s.launch spec w).2.files] = some input
  /-- It is so from now on. -/
  holds : graded.case.data.input.Holds input

namespace Grader

variable {g : Grader} {s : Sandbox ε π} {c : Case} {w w' : World ε} {graded : Graded}
  {outcome : Outcome}

/-- **Whatever has an outcome was given the input.** -/
theorem GivesInput.exists_given (hgives : g.GivesInput) (hkeeps : g.Keeps)
    (h : g.grade s c w = some (graded, w')) (houtcome : graded.outcome = some outcome) :
    ∃ spec input, graded.Given g s c w outcome spec input := by
  cases ending_of_grade h with
  | faulted fault verdict none => cases none.symm.trans houtcome
  | @scored spec process c₁ input c₂ run result launches loaded launch ended some verdict =>
    obtain rfl : result = outcome := Option.some.inj (some.symm.trans houtcome)
    obtain ⟨time, hlaunched⟩ := launches.launched
    have hprepare : c.Loads c₁ := by
      have hloads := hkeeps.prepare w.files c
      rwa [launches.prepared] at hloads
    have hinput : c₁.data.input = c.data.input := by
      have hsame := hgives.prepare w.files c
      rwa [launches.prepared] at hsame
    obtain ⟨hread, hloads⟩ := hgives.load loaded
    have hcaps : g.caps c₂ = g.caps c :=
      g.caps_of_loads (hprepare.trans ((Case.Loads.of_input _ c₁).trans hloads))
    obtain ⟨t, hinteract⟩ := launches.exists_interact h
    simp only [interact, loaded, Option.bind_eq_bind, Option.bind_eq_some_iff] at hinteract
    obtain ⟨run', hrun, hinteract⟩ := hinteract
    have hsame : run' = run := by
      rcases hresult : run'.result with fault | outcome <;> simp only [hresult] at hinteract <;>
        cases hinteract <;> cases launch <;> rfl
    rw [hsame, hcaps] at hrun
    refine ⟨spec, input, ⟨process, time, run, hlaunched, hrun, ended, launch⟩, ?_, ?_⟩
    · rw [← hinput, ← DataSource.toOption_bytes]
      exact toOption_eq_some_iff.2 hread
    · have hcase : graded.case = (g.score w'.files c₂ result).2 := congrArg Prod.snd verdict
      have hscore := hkeeps.score w'.files c₂ result
      rw [← hcase] at hscore
      exact (hloads.trans hscore).input.holds (Case.holds_of_input hread)

end Grader

theorem loadInput_eq_ok {files : FileTree} {c c' : Case} {input : Bytes}
    (h : loadInput files c = (.ok input, c')) :
    (c.input files).1 = .ok input ∧ c' = (c.input files).2 := by
  rw [loadInput] at h
  rcases hread : c.input files with ⟨cause | content, left⟩
  · rw [hread] at h
    cases congrArg Prod.fst h
  · rw [hread] at h
    cases h
    exact ⟨rfl, rfl⟩

theorem Validator.givesInput (v : Validator) : v.grader.GivesInput where
  prepare _ _ := rfl
  load {files c c' input} h := by
    obtain ⟨hread, rfl⟩ := loadInput_eq_ok h
    exact ⟨hread, .refl _⟩

theorem Solution.givesInput (s : Solution) : s.grader.GivesInput where
  prepare files c := by
    have hexpected : (c.expected files).2.data.input = c.data.input := by
      rw [Case.expected]
      split <;> rfl
    show (s.prepare files c).2.data.input = _
    rw [prepare]
    split <;> simp_all
  load {files c c' input} h := by
    have hload : Solution.load files c = (.ok input, c') := h
    rw [Solution.load] at hload
    rcases hread : loadInput files c with ⟨fault | content, c₁⟩
    · rw [hread] at hload
      cases congrArg Prod.fst hload
    obtain ⟨hinput, rfl⟩ := loadInput_eq_ok hread
    simp only [hread] at hload
    have hloads := Case.Loads.of_expected files (c.input files).2
    split at hload
    · cases congrArg Prod.fst hload
    · next left hexpected =>
      cases hload
      rw [hexpected] at hloads
      exact ⟨hinput, hloads⟩

/-! ### One content -/

/-- **What is shown of a wrong answer** is what the case holds, and what came out. -/
theorem JudgedCase.line_of_wrongAnswer? {j : JudgedCase} {outcome : Outcome} {expected : Bytes}
    {line : Console.Line} (houtcome : j.graded.outcome = some outcome)
    (hheld : j.graded.case.HoldsExpected expected) (h : j.wrongAnswer? = some line) :
    line = .wrongAnswer j.id j.graded.verdict expected outcome.stdout := by
  obtain ⟨source, hsource, hholds⟩ := hheld
  rw [wrongAnswer?] at h
  split at h
  · cases h
  · simp only [houtcome, hsource, DataSource.holds_iff.1 hholds, Option.bind_eq_bind,
      Option.bind_some] at h
    exact (Option.some.inj h).symm

/-- The process that was given the input is the one whose output is compared. -/
theorem Solution.exists_given_compares {s : Solution} {sandbox : Sandbox ε π} {c : Case}
    {w w' : World ε} {graded : Graded} {outcome : Outcome}
    (h : s.grader.grade sandbox c w = some (graded, w'))
    (houtcome : graded.outcome = some outcome) :
    ∃ spec input expected, graded.Given s.grader sandbox c w outcome spec input ∧
      s.Compares sandbox c w graded outcome spec expected := by
  obtain ⟨spec, input, hgiven⟩ := s.givesInput.exists_given s.keeps h houtcome
  obtain ⟨spec', expected, hcompares⟩ := exists_compares h houtcome
  obtain ⟨process, time, run, -, -, -, hlaunch⟩ := hgiven.exchange
  obtain ⟨run', hlaunch', -⟩ := hcompares.launched
  cases hlaunch.symm.trans hlaunch'
  exact ⟨spec, input, expected, hgiven, hcompares⟩

/-- **What is read once stays the same.**

A source reads as the files do, and each call before the first that succeeds fails as the file has
it and leaves the source as it was. The first call that succeeds answers with the content of the
file at that moment, and every later call with the same, whatever became of the file.

So what a case was read as once it holds, through all that validators and solutions make of it.
An outcome is that of a process that was given the input that the case holds. The output of a
solution is compared with the expected output that the case holds, and if it is shown as a wrong
answer, it is shown with that. -/
theorem data_read_once :
    (∀ (source : DataSource) (files : FileTree), source.bytes files = source.access files.read) ∧
    (∀ (source : DataSource) read fault, (source.access read).1 = .error fault →
      (source.access read).2 = source ∧ ∃ path, source = .ofPath path ∧ read path = .error fault) ∧
    (∀ path read events, ∃ failed later,
      DataSource.readings path read events = failed ++ later ∧
      (∀ answer ∈ failed, ∃ fault, answer = .error fault) ∧
      (later = [] ∧ (DataSource.ofPath path).answers read events = failed ∨
        ∃ content rest, later = .ok content :: rest ∧
          (DataSource.ofPath path).answers read events =
            failed ++ .ok content :: rest.map fun _ ↦ .ok content)) ∧
    (∀ (c c' : Case) (files : FileTree),
      (∀ input, (c.input files).1 = .ok input → (c.input files).2.Loads c' →
        c'.data.input.Holds input) ∧
      ∀ expected, (c.expected files).1 = some (.ok expected) → (c.expected files).2.Loads c' →
        c'.HoldsExpected expected) ∧
    (∀ (v : Validator) (sandbox : Sandbox ε π) c w graded w',
      v.grader.grade sandbox c w = some (graded, w') → c.Loads graded.case ∧
        ∀ outcome, graded.outcome = some outcome →
          ∃ spec input, graded.Given v.grader sandbox c w outcome spec input) ∧
    ∀ (s : Solution) (sandbox : Sandbox ε π) c w graded w',
      s.grader.grade sandbox c w = some (graded, w') → c.Loads graded.case ∧
        ∀ outcome, graded.outcome = some outcome → ∃ spec input expected,
          graded.Given s.grader sandbox c w outcome spec input ∧
          s.Compares sandbox c w graded outcome spec expected ∧
          graded.case.HoldsExpected expected ∧
          ∀ id line, (⟨id, graded⟩ : JudgedCase).wrongAnswer? = some line →
            line = .wrongAnswer id graded.verdict expected outcome.stdout := by
  refine ⟨fun source files ↦ source.bytes_eq_access files,
    fun source read fault ↦ DataSource.access_of_error, DataSource.answers_ofPath,
    fun c c' files ↦ ⟨fun input hread hloads ↦ ?_, fun expected hread hloads ↦ ?_⟩,
    fun v sandbox c w graded w' h ↦ ⟨v.keeps.loads h, fun outcome houtcome ↦ ?_⟩,
    fun s sandbox c w graded w' h ↦ ⟨s.keeps.loads h, fun outcome houtcome ↦ ?_⟩⟩
  · exact hloads.input.holds (Case.holds_of_input hread)
  · exact hloads.holdsExpected (Case.holdsExpected_of_expected hread)
  · exact v.givesInput.exists_given v.keeps h houtcome
  · obtain ⟨spec, input, expected, hgiven, hcompares⟩ := s.exists_given_compares h houtcome
    have hheld : graded.case.HoldsExpected expected := Case.holdsExpected_iff.2 hcompares.kept
    exact ⟨spec, input, expected, hgiven, hcompares, hheld,
      fun id line hline ↦ JudgedCase.line_of_wrongAnswer? houtcome hheld hline⟩

namespace Solution

/-- The file appears at the launch and is overwritten while the program runs: what it held at the
launch is what is expected, then and later. -/
theorem data_read_once_overwriting :
    (DataSource.ofPath ⟨"/out"⟩).answers (default : FileTree).read [.call,
        .change (outFile [97]).read, .call, .change (outFile [98]).read, .call,
        .change (default : FileTree).read, .call] =
      [.error (.action .readFile ⟨"/out"⟩ .notFound), .ok [97], .ok [97], .ok [97]] ∧
    ∃ graded w', attempt.grader.grade overwriting filedCase ⟨default, ()⟩ = some (graded, w') ∧
      w'.files = outFile [98] ∧ graded.case.HoldsExpected [97] := by
  refine ⟨by rfl, ?_⟩
  obtain ⟨r, outcome, hrun, hended, -⟩ := exists_run_writesB
  have hlimits : caseLimits attempt.limits filedCase = .ok Validator.threefold :=
    Validator.caseLimits_of_scaled (v := Validator.checker) Validator.scaled_checker
  have hspec : attempt.spec? filedCase =
      some (launchSpec attempt.executable filedCase [] Validator.threefold) := by
    rw [spec?, hlimits]
    rfl
  have hfirst : filedCase.firstExpected [default, outFile [97]] = some [97] := rfl
  obtain ⟨graded, hgrade, -, houtcome⟩ : ∃ graded,
      attempt.grader.grade overwriting filedCase ⟨default, ()⟩ =
        some (graded, ⟨outFile [98], ()⟩) ∧
      graded.launch = some ⟨launchSpec attempt.executable filedCase [] Validator.threefold, true,
        some r⟩ ∧ graded.outcome = some outcome :=
    exists_grade_of_run hspec (Arrival.bound_immediate _ _) hfirst rfl hrun hended
  obtain ⟨-, -, -, -, -, hsolution⟩ := data_read_once (ε := Unit) (π := Unit)
  obtain ⟨-, houtcomes⟩ := hsolution attempt overwriting filedCase ⟨default, ()⟩ graded _ hgrade
  obtain ⟨spec, input, expected, -, hcompares, hheld, -⟩ := houtcomes outcome houtcome
  obtain rfl : expected = [97] := Option.some.inj (hcompares.first.symm.trans rfl)
  exact ⟨graded, _, hgrade, rfl, hheld⟩

end Solution

end ContestJudge
