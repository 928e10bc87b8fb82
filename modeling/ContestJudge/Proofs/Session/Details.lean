import ContestJudge.CommandLine.Execution
import ContestJudge.Proofs.Console.Details
import ContestJudge.Proofs.Fallible
import ContestJudge.Proofs.Grading.Comparison
import ContestJudge.Proofs.Grading.HeldOpen
import ContestJudge.Proofs.Session.Judging

/-!
# Which wrong answers are shown in full

While the cases of a problem are judged, what will be shown of the wrong answers is collected, under
three conditions: that the verdict is a wrong answer, that there is an outcome, and that the
expected output is at hand. The first implies the other two, so nothing is lost.

* `judgeEach_turns` — a judged case was judged at its turn, in the world that those before it left;
* `wrongAnswers_shown` — which cases are shown in full, and with what (`JudgedCase.Shows`);
* `Session.check_details` — so the lines and the exit code of a check agree with its record.

That a wrong answer has an outcome and an expected output rests on `Solution.exists_compares`: the
flag of a wrong answer comes from a comparison and from nowhere else, and what was compared is kept
in the case. What the printed text shows of it is said on every palette by `Console.ShowsDetails`,
with the bytes that were expected and those that came out, so nothing here depends on how bytes are
made visible.

The lines are collected while cases are judged and printed after all of them. So their order is that
of the cases, and each case has one line at the most (`forall₂_filter_filterMap`).
-/

namespace ContestJudge

open Console (Line)

variable {ε π σ : Type}

/-! ### Cases at their turn -/

/-- **A case is judged at its turn**: `c` is the case at its place among `cases`, and it is judged
in the world `w₁` that the cases before it leave behind. -/
structure JudgedCase.AtTurn (judge : CaseJudge ε) (number : Nat) (cases : List Case) (w : World ε)
    (c : Case) (w₁ : World ε) (judged : JudgedCase) : Prop where
  turn : ∃ front rest graded, cases = front ++ c :: rest ∧ Threads judge front w graded w₁ ∧
    judged.id = ⟨number + front.length, c.batch, c.position⟩
  judged : ∃ w₂, judge c w₁ = some (judged.graded, w₂)

/-- **Every case is judged at its turn.** -/
theorem judgeEach_turns {judge : CaseJudge ε} {watch : Watcher σ} {number : Nat} {cases : List Case}
    {seen seen' : σ} {w w' : World ε} {judged : List JudgedCase}
    (h : judgeEach judge watch number cases seen w = some (judged, seen', w')) :
    ∀ j ∈ judged, ∃ c w₁, j.AtTurn judge number cases w c w₁ := by
  induction cases generalizing number seen w judged with
  | nil =>
    cases h
    intro j hj
    cases hj
  | cons c rest ih =>
    rw [judgeEach_cons] at h
    obtain ⟨⟨graded, w₁⟩, hgraded, h⟩ := Option.bind_eq_some_iff.1 h
    obtain ⟨⟨more, seen'', w''⟩, hmore, h⟩ := Option.map_eq_some_iff.1 h
    cases h
    rw [List.forall_mem_cons]
    refine ⟨⟨c, w, ⟨[], rest, [], rfl, .nil, rfl⟩, w₁, hgraded⟩, fun j hj ↦ ?_⟩
    obtain ⟨c', w₂, ⟨front, rest', gradeds, rfl, hfront, hid⟩, hjudged⟩ := ih hmore j hj
    -- its turn comes one case later
    refine ⟨c', w₂, ⟨c :: front, rest', graded :: gradeds, rfl, .cons hgraded hfront, ?_⟩, hjudged⟩
    rw [hid, List.length_cons, Nat.add_right_comm, Nat.add_assoc]

/-! ### Wrong answers -/

/-- What is shown while some wrong answers are collected. -/
theorem foldl_collectWrongAnswers (judged : List JudgedCase) (shown : List Line) :
    judged.foldl collectWrongAnswers shown = shown ++ judged.filterMap JudgedCase.wrongAnswer? := by
  induction judged generalizing shown with
  | nil => exact (List.append_nil shown).symm
  | cons c rest ih =>
    rw [List.foldl_cons, ih, collectWrongAnswers, List.append_assoc, List.filterMap_cons]
    cases c.wrongAnswer? <;> rfl

/-- What is kept of some elements of a list, and what is made of them. -/
theorem forall₂_filter_filterMap {α β : Type} {f : α → Option β} {keep : α → Bool}
    {R : α → β → Prop} {l : List α} (hkept : ∀ a ∈ l, keep a = true → ∃ b, f a = some b ∧ R a b)
    (hothers : ∀ a ∈ l, keep a = false → f a = none) :
    List.Forall₂ R (l.filter keep) (l.filterMap f) := by
  induction l with
  | nil => exact .nil
  | cons a rest ih =>
    rw [List.forall_mem_cons] at hkept hothers
    have hrest := ih hkept.2 hothers.2
    rcases hkeep : keep a with - | -
    · rw [List.filter_cons_of_neg (by simp [hkeep]), List.filterMap_cons_none (hothers.1 hkeep)]
      exact hrest
    · obtain ⟨b, hb, hR⟩ := hkept.1 hkeep
      rw [List.filter_cons_of_pos hkeep, List.filterMap_cons_some hb]
      exact .cons hR hrest

namespace Solution

variable {s : Solution} {sandbox : Sandbox ε π} {c : Case} {w w' : World ε} {graded : Graded}

/-- A comparison is a wrong answer only for another output. -/
theorem ne_of_comparedFlags {limits : Limits} {expected : Text.Bytes} {outcome : Outcome}
    (h : (comparedFlags limits expected outcome).contains .wrongAnswer = true) :
    outcome.stdout ≠ expected := by
  rintro rfl
  rw [comparedFlags, if_pos rfl] at h
  split at h
  · cases h
  · rw [contains_judgeExit_wrongAnswer] at h
    cases h

/-- **A wrong answer** is the output of a run that differs from what it was compared with. -/
theorem exists_of_wrongAnswer (h : s.grader.grade sandbox c w = some (graded, w'))
    (hcode : graded.verdict.code = .wrongAnswer) :
    ∃ outcome spec expected, graded.outcome = some outcome ∧
      s.Compares sandbox c w graded outcome spec expected ∧ outcome.stdout ≠ expected := by
  rcases houtcome : graded.outcome with - | outcome
  · -- the verdict on a fault has another code
    obtain ⟨fault, hverdict⟩ := exists_fault h houtcome
    rw [hverdict] at hcode
    cases hcode
  obtain ⟨spec, expected, hcompares⟩ := exists_compares h houtcome
  have hflag : graded.verdict.flags.contains .wrongAnswer = true := by
    rcases hempty : graded.verdict.flags.isEmpty with - | -
    · rw [← hcode]
      exact Flags.contains_primary hempty
    · have haccepted : graded.verdict.code = .accepted := Flags.primary_of_isEmpty hempty
      cases haccepted.symm.trans hcode
  rw [hcompares.verdict] at hflag
  exact ⟨outcome, spec, expected, rfl, hcompares, ne_of_comparedFlags hflag⟩

end Solution

/-- **What is shown of a wrong answer.** The case `c` was run at its turn, with some outcome. What
is shown is which case it is, its verdict, the expected output that it was compared with, and the
output; and the text that is printed for it, on any palette, has all of these. -/
def JudgedCase.Shows (s : Solution) (sandbox : Sandbox ε π) (cases : List Case) (w : World ε)
    (judged : JudgedCase) (line : Line) : Prop :=
  ∃ c w₁ outcome spec expected,
    judged.AtTurn (s.grader.grade sandbox) 1 cases w c w₁ ∧
    judged.graded.outcome = some outcome ∧
    s.Compares sandbox c w₁ judged.graded outcome spec expected ∧
    outcome.stdout ≠ expected ∧
    line = .wrongAnswer judged.id judged.graded.verdict expected outcome.stdout ∧
    ∀ palette, Console.ShowsDetails palette judged.id judged.graded.verdict expected outcome.stdout
      (line.text palette)

/-- **Every wrong answer is shown**, and nothing else is. -/
theorem wrongAnswers_shown {s : Solution} {sandbox : Sandbox ε π} {cases : List Case}
    {w : World ε} {judged : List JudgedCase}
    (h : ∀ j ∈ judged, ∃ c w₁, j.AtTurn (s.grader.grade sandbox) 1 cases w c w₁) :
    List.Forall₂ (JudgedCase.Shows s sandbox cases w)
      (judged.filter fun j ↦ j.graded.verdict.code = .wrongAnswer)
      (judged.filterMap JudgedCase.wrongAnswer?) := by
  refine forall₂_filter_filterMap (fun j hj hcode ↦ ?_) (fun j _ hcode ↦ ?_)
  · have hcode := of_decide_eq_true hcode
    obtain ⟨c, w₁, hturn⟩ := h j hj
    obtain ⟨w₂, hgrade⟩ := hturn.judged
    obtain ⟨outcome, spec, expected, houtcome, hcompares, hdiffers⟩ :=
      Solution.exists_of_wrongAnswer hgrade hcode
    refine ⟨.wrongAnswer j.id j.graded.verdict expected outcome.stdout, ?_,
      c, w₁, outcome, spec, expected, hturn, houtcome, hcompares, hdiffers, rfl,
      fun palette ↦ Console.showsDetails_wrongAnswer palette _ _ _ _⟩
    obtain ⟨source, hsource, hkept⟩ := Option.bind_eq_some_iff.1 hcompares.kept
    rw [DataSource.firstRead_nil] at hkept
    simp [JudgedCase.wrongAnswer?, hcode, houtcome, hsource, hkept]
  · rw [JudgedCase.wrongAnswer?, if_pos (of_decide_eq_false hcode)]

/-! ### Checks -/

/-- Whether a line shows a wrong answer in full. -/
def Console.Line.isWrongAnswer : Line → Bool
  | .wrongAnswer .. => true
  | _ => false

theorem JudgedRun.isWrongAnswer_of_mem_lines {runs : List JudgedRun} {line : Line}
    (h : line ∈ runs.flatMap lines) : line.isWrongAnswer = false := by
  obtain ⟨run, -, hline⟩ := List.mem_flatMap.1 h
  rw [JudgedRun.lines, List.mem_append, Option.mem_toList, Option.map_eq_some_iff,
    List.mem_map] at hline
  obtain ⟨batch, -, rfl⟩ | ⟨c, -, rfl⟩ := hline
  · rfl
  · rfl

theorem Record.failed_iff {r : Record} :
    r.failed = true ↔ ∃ e ∈ r.entries, e.2.flags.toList ≠ [] := by
  simp [failed, Verdict.isAccepted, Flags.toList_eq_nil_iff]

namespace Check

variable {c : Check}

/-- **A check fails exactly if some case has a flag.** -/
theorem exitCode_eq_one_iff :
    c.exitCode = 1 ↔ ∃ e ∈ (JudgedRun.record c.runs).entries, e.2.flags.toList ≠ [] := by
  rw [exitCode, ← Record.failed_iff]
  split
  · next hfailed => exact iff_of_true rfl hfailed
  · next hpassed => exact iff_of_false Nat.zero_ne_one hpassed

theorem exitCode_eq_zero_iff :
    c.exitCode = 0 ↔ ∀ e ∈ (JudgedRun.record c.runs).entries, e.2.flags.toList = [] := by
  have hfailed : ¬(JudgedRun.record c.runs).failed = true ↔
      ∀ e ∈ (JudgedRun.record c.runs).entries, e.2.flags.toList = [] := by
    simp [Record.failed_iff]
  rw [exitCode, ← hfailed]
  split
  · next hyes => exact iff_of_false Nat.one_ne_zero (not_not_intro hyes)
  · next hno => exact iff_of_true rfl hno

/-- Nothing else that a check shows is a wrong answer in full. -/
theorem filter_isWrongAnswer (h : ∀ line ∈ c.wrongAnswers, line.isWrongAnswer = true) :
    c.lines.filter (·.isWrongAnswer) = c.wrongAnswers := by
  have hruns : (c.runs.flatMap JudgedRun.lines).filter (·.isWrongAnswer) = [] := by
    rw [List.filter_eq_nil_iff]
    intro line hline
    rw [JudgedRun.isWrongAnswer_of_mem_lines hline]
    exact Bool.false_ne_true
  rw [lines, List.filter_append, List.filter_append, List.filter_cons_of_neg (by exact nofun),
    hruns, List.filter_eq_self.2 h]
  exact List.append_nil _

end Check

theorem JudgedCase.isWrongAnswer_of_wrongAnswer? {j : JudgedCase} {line : Line}
    (h : j.wrongAnswer? = some line) : line.isWrongAnswer = true := by
  rw [wrongAnswer?] at h
  split at h
  · cases h
  · simp only [Option.bind_eq_bind, Option.bind_eq_some_iff] at h
    obtain ⟨outcome, -, source, -, expected, -, hline⟩ := h
    cases hline
    rfl

namespace CommandLine

theorem execute_check {i : Invocation} {near : Surroundings} {sandbox : Sandbox ε π}
    {runner : CommandRunner ε} {session : Session ε π} {problem : String} {program : Path}
    {w : World ε} (hcommand : i.command = .check problem program)
    (hsession : openSession near sandbox runner i.settings w.files = .ok session) :
    i.execute near sandbox runner w = ((session.check problem program w).mapError .check).map
      (·.map fun p ↦ (⟨p.1.lines, p.1.exitCode⟩, p.2)) := by
  rw [Invocation.execute, hcommand]
  simp only [hsession]
  show ((session.check problem program w).mapError Failure.check).bind _ = _
  rcases session.check problem program w with fault | ended <;> rfl

end CommandLine

namespace Session

variable {s : Session ε π} {id : String} {program : Path} {w w' : World ε} {p : CheckPlan}
  {check : Check}

theorem check_of_plan (hplan : s.planCheck id program w.files = .ok p) :
    s.check id program w = .ok ((judgeCases ((solution p).grader.grade s.sandbox)
      collectWrongAnswers p.cases [] w).map fun q ↦
        (⟨id, p.program, q.1, q.2.1⟩, q.2.2)) := by
  rw [Session.check, hplan, Option.map_eq_bind]
  rfl

/-- **What a check shows, and how it ends.** Once a check is planned, it ends if judging each case
does. Then the cases were judged in order, and the record has the verdict of each of them.

The wrong answers are shown in full after all cases, in order: each case whose reported code is a
wrong answer once, with its verdict, with what it was compared with when it was run, and with what
came out then, as the text that is printed says; and no other case. The exit code, also on the
command line, is one if some case has a flag, whatever flag that is, and zero otherwise. -/
theorem check_details (hplan : s.planCheck id program w.files = .ok p) :
    ((∀ c w, ∃ q, (solution p).grader.grade s.sandbox c w = some q) →
      ∃ q, s.check id program w = .ok (some q)) ∧
    ∀ {check w'}, s.check id program w = .ok (some (check, w')) →
      let judged := JudgedRun.allCases check.runs
      let record := JudgedRun.record check.runs
      Threads ((solution p).grader.grade s.sandbox) p.cases.cases w (judged.map (·.graded)) w' ∧
      record.entries = judged.map (fun j ↦ (j.id, j.graded.verdict)) ∧
      check.lines = .checkHeader check.program.text id :: check.runs.flatMap JudgedRun.lines ++
        check.wrongAnswers ++ [.checkSummary record] ∧
      check.lines.filter (·.isWrongAnswer) = check.wrongAnswers ∧
      List.Forall₂ (JudgedCase.Shows (solution p) s.sandbox p.cases.cases w)
        (judged.filter fun j ↦ j.graded.verdict.code = .wrongAnswer) check.wrongAnswers ∧
      (check.exitCode = 1 ↔ ∃ e ∈ record.entries, e.2.flags.toList ≠ []) ∧
      (check.exitCode = 0 ↔ ∀ e ∈ record.entries, e.2.flags.toList = []) ∧
      ∀ {i : CommandLine.Invocation} {near sandbox runner}, i.command = .check id program →
        CommandLine.openSession near sandbox runner i.settings w.files = .ok s →
          i.execute near sandbox runner w = .ok (some (⟨check.lines, check.exitCode⟩, w')) := by
  refine ⟨fun hends ↦ ?_, fun {check w'} hcheck ↦ ?_⟩
  · obtain ⟨q, hq⟩ := exists_judgeEach hends 1 p.cases.cases [] w
    rw [← judgeCases_eq _ collectWrongAnswers] at hq
    obtain ⟨q', hq', -⟩ := Option.map_eq_some_iff.1 hq
    rw [check_of_plan hplan, hq']
    exact ⟨_, rfl⟩
  · have hplanned := check_of_plan hplan
    rw [hcheck] at hplanned
    obtain ⟨⟨runs, shown, w''⟩, hjudged, hq⟩ :=
      Option.map_eq_some_iff.1 (Except.ok.inj hplanned).symm
    cases hq
    have heach := judgeCases_eq ((solution p).grader.grade s.sandbox) collectWrongAnswers p.cases
      [] w
    rw [hjudged] at heach
    obtain ⟨hthreads, -, hshown⟩ := judgeEach_spec heach.symm
    rw [foldl_collectWrongAnswers, List.nil_append] at hshown
    have hdetails := wrongAnswers_shown (judgeEach_turns heach.symm)
    rw [← hshown] at hdetails
    have hlines : ∀ line ∈ shown, line.isWrongAnswer = true := by
      intro line hline
      rw [hshown] at hline
      obtain ⟨j, -, hj⟩ := List.mem_filterMap.1 hline
      exact JudgedCase.isWrongAnswer_of_wrongAnswer? hj
    refine ⟨hthreads, JudgedRun.entries_record runs, rfl, Check.filter_isWrongAnswer hlines,
      hdetails, Check.exitCode_eq_one_iff, Check.exitCode_eq_zero_iff, fun hcommand hsession ↦ ?_⟩
    · rw [CommandLine.execute_check hcommand hsession, hcheck]
      rfl

/-! ### A wrong answer -/

/-- A problem with one case, and a program. -/
def singleFiles : FileTree where
  entries := [(["p"], .directory),
    (["p", "problem.toml"], .file (Text.Utf8.encode
      "time_limit = 1\n[[test_cases]]\nin = 'i'\nout = 'o'\n") false),
    (["p", "i"], .file [] false), (["p", "o"], .file [97] false), (["solve"], .file [] true)]
  current := []

/-- A session in which every program writes a `b`. -/
def writingB : Session Unit Unit where
  settings := {}
  problems := .ofList [("p", ⟨"/p"⟩)]
  executors := .builtin
  sandbox := .uniform Solution.writesB
  runner := fun _ _ w ↦ (.notStarted "", w)

/-- What is to be known of a case so that it is judged as a wrong answer. -/
structure ExpectsA (limits : Limits) (files : FileTree) (c : Case) : Prop where
  limits : (caseLimits limits c).toOption = some ⟨.ofMillis 1000, 536870912, .ofMillis 3000⟩
  expected : c.firstExpected [files, files] = some [97]
  input : (c.input files).1.toOption = some []
  outputLimit : c.data.settings.outputLimit = 25165824

instance (limits : Limits) (files : FileTree) (c : Case) : Decidable (ExpectsA limits files c) :=
  decidable_of_iff
    ((caseLimits limits c).toOption = some ⟨.ofMillis 1000, 536870912, .ofMillis 3000⟩ ∧
      c.firstExpected [files, files] = some [97] ∧ (c.input files).1.toOption = some [] ∧
      c.data.settings.outputLimit = 25165824)
    ⟨fun ⟨h₁, h₂, h₃, h₄⟩ ↦ ⟨h₁, h₂, h₃, h₄⟩, fun ⟨h₁, h₂, h₃, h₄⟩ ↦ ⟨h₁, h₂, h₃, h₄⟩⟩

/-- The plan has one case, which expects an `a`. -/
theorem exists_plan_writingB : ∃ p c, writingB.planCheck "p" ⟨"/solve"⟩ singleFiles = .ok p ∧
    p.cases.cases = [c] ∧ ExpectsA p.limits singleFiles c := by
  have hplan : (writingB.planCheck "p" ⟨"/solve"⟩ singleFiles).toOption.map (fun p ↦
      p.cases.cases.map fun c ↦ decide (ExpectsA p.limits singleFiles c)) = some [true] := by
    decide +kernel
  obtain ⟨p, hp, hcases⟩ := Option.map_eq_some_iff.1 hplan
  obtain ⟨c, hc, hexpects⟩ := List.map_eq_singleton_iff.1 hcases
  exact ⟨p, c, toOption_eq_some_iff.1 hp, hc, of_decide_eq_true hexpects⟩

/-- The program writes a `b`. -/
theorem exists_grade_writingB {p : CheckPlan} {c : Case} (h : ExpectsA p.limits singleFiles c) :
    ∃ graded outcome, (solution p).grader.grade writingB.sandbox c ⟨singleFiles, ()⟩ =
        some (graded, ⟨singleFiles, ()⟩) ∧
      graded.outcome = some outcome ∧ outcome.stdout = [98] ∧
      graded.verdict.flags.toList = [.wrongAnswer] := by
  obtain ⟨r, outcome, hrun, hended, hstdout, hclean⟩ := Solution.exists_run_writesB
  have hlimits := toOption_eq_some_iff.1 h.limits
  have hspec : (solution p).spec? c = some (launchSpec (solution p).executable c []
      ⟨.ofMillis 1000, 536870912, .ofMillis 3000⟩) := by
    obtain ⟨source, hsource, -⟩ := Option.bind_eq_some_iff.1 h.expected
    rw [Solution.spec?, hsource, solution, hlimits]
    rfl
  have hcaps : (solution p).grader.caps c = Solution.attempt.grader.caps Solution.filedCase := by
    funext stream
    cases stream with
    | stdout => exact h.outputLimit
    | stderr => rfl
  rw [← hcaps] at hrun
  obtain ⟨graded, hgrade, hlaunch, houtcome⟩ : ∃ graded,
      (solution p).grader.grade writingB.sandbox c ⟨singleFiles, ()⟩ =
        some (graded, ⟨singleFiles, ()⟩) ∧
      graded.launch = some ⟨launchSpec (solution p).executable c []
        ⟨.ofMillis 1000, 536870912, .ofMillis 3000⟩, true, some r⟩ ∧
      graded.outcome = some outcome :=
    Solution.exists_grade_of_run hspec (Arrival.bound_immediate _ _) h.expected
      (toOption_eq_some_iff.1 h.input) hrun hended
  refine ⟨graded, outcome, hgrade, houtcome, hstdout, ?_⟩
  obtain ⟨spec, expected, hcompares⟩ := Solution.exists_compares hgrade houtcome
  obtain ⟨run, hlaunched, -⟩ := hcompares.launched
  cases hlaunch.symm.trans hlaunched
  obtain rfl : expected = [97] := Option.some.inj (hcompares.first.symm.trans h.expected)
  rw [hcompares.verdict]
  show (Solution.comparedFlags ⟨.ofMillis 1000, 536870912, .ofMillis 3000⟩ [97] outcome).toList = _
  rw [Solution.comparedFlags, hclean _ (by decide), if_pos (by decide), hstdout]
  rfl

/-- The check ends with a failure, and the wrong answer is shown in full: an `a` was expected, and a
`b` came out, and both are in the text that is printed. -/
theorem check_details_writingB : ∃ check w',
    writingB.check "p" ⟨"/solve"⟩ ⟨singleFiles, ()⟩ = .ok (some (check, w')) ∧
      check.exitCode = 1 ∧ ∃ id verdict, id.number = 1 ∧ verdict.flags.toList = [.wrongAnswer] ∧
        check.wrongAnswers = [.wrongAnswer id verdict [97] [98]] ∧
        ∀ palette, Console.ShowsDetails palette id verdict [97] [98]
          ((Line.wrongAnswer id verdict [97] [98]).text palette) := by
  obtain ⟨p, c, hplan, hcases, hexpects⟩ := exists_plan_writingB
  obtain ⟨graded, outcome, hgrade, houtcome, hstdout, hflags⟩ := exists_grade_writingB hexpects
  obtain ⟨-, hdetails⟩ := check_details (w := ⟨singleFiles, ()⟩) hplan
  obtain ⟨check, w', hcheck⟩ : ∃ check w',
      writingB.check "p" ⟨"/solve"⟩ ⟨singleFiles, ()⟩ = .ok (some (check, w')) := by
    have hjudged := judgeCases_eq ((solution p).grader.grade writingB.sandbox) collectWrongAnswers
      p.cases [] ⟨singleFiles, ()⟩
    rw [hcases, judgeEach_cons, hgrade, Option.bind_some, judgeEach, Option.map_some] at hjudged
    obtain ⟨q, hq, -⟩ := Option.map_eq_some_iff.1 hjudged
    rw [check_of_plan (w := ⟨singleFiles, ()⟩) hplan, hq]
    exact ⟨_, _, rfl⟩
  obtain ⟨hthreads, hentries, -, -, hshown, hexit, -⟩ := hdetails hcheck
  rw [hcases] at hthreads
  -- there is one judged case, and it is shown
  obtain ⟨j, hj, rfl⟩ : ∃ j, JudgedRun.allCases check.runs = [j] ∧ j.graded = graded := by
    generalize hgradeds : (JudgedRun.allCases check.runs).map (·.graded) = gradeds at hthreads
    cases hthreads with
    | cons first rest =>
      cases rest
      cases hgrade.symm.trans first
      exact List.map_eq_singleton_iff.1 hgradeds
  have hcode : j.graded.verdict.code = .wrongAnswer := by
    rw [Verdict.code, Flags.primary, hflags]
    rfl
  simp only [hj, List.filter_cons, hcode, decide_true, if_true, List.filter_nil] at hshown
  obtain ⟨line, lines, hline, hlines, hwrong⟩ := List.forall₂_cons_left_iff.1 hshown
  rw [List.forall₂_nil_left_iff.1 hlines] at hwrong
  obtain ⟨c', w₁, o, spec, expected, ⟨⟨front, rest, gradeds, hfront, hbefore, hid⟩, -⟩, ho,
    hcompares, -, rfl, htext⟩ := hline
  rw [hcases] at hfront
  obtain ⟨rfl, rfl, rfl⟩ : front = [] ∧ c' = c ∧ rest = [] := by
    rcases front with - | ⟨first, front⟩
    · cases hfront
      exact ⟨rfl, rfl, rfl⟩
    · exact absurd (List.cons.inj hfront).2.symm (by simp)
  cases hbefore
  obtain rfl : expected = [97] := Option.some.inj (hcompares.first.symm.trans hexpects.expected)
  obtain rfl : o = outcome := Option.some.inj (ho.symm.trans houtcome)
  rw [hstdout] at hwrong htext
  refine ⟨check, w', hcheck, hexit.2 ?_, j.id, j.graded.verdict, by rw [hid]; rfl, hflags, hwrong,
    htext⟩
  rw [hentries, hj]
  exact ⟨_, List.mem_singleton_self _, by rw [hflags]; exact List.cons_ne_nil _ _⟩

end Session

end ContestJudge
