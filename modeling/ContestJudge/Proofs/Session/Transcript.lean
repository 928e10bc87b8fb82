import ContestJudge.Proofs.Grading.Comparison
import ContestJudge.Proofs.Grading.HeldOpen
import ContestJudge.Proofs.Session.Headers
import ContestJudge.Proofs.Text.Breaks
import ContestJudge.Proofs.Text.Numerals
import Mathlib.Algebra.Ring.Nat

/-!
# Lines on the screen

The line of a case may take several lines on the screen: it repeats the feedback as it stands, and
the feedback of a validator is what the program wrote. The blanks at its end are removed, and a line
feed before something visible is not among them.

* `feeds_caseLine` — the line of a case has the line feeds of its feedback, and no others.
  Everything else in it is numbers, labels and descriptions, for each of which there is a lemma that
  says so.
* `feeds_judgeOutcome` — the feedback on an outcome has a line feed exactly if the captured stream
  has one that something visible follows. A fault becomes feedback too, cut to its beginning
  (`feeds_cutDiagnostic`).
* `case_lines_break` — so how many lines a whole validation takes, and when these are more than its
  cases and headers.
* `line_forged` — a validator that accepts a case, and writes the line of another that failed.

Line feeds are counted (`Text.feeds`), since counts add up when texts are joined. Without colours a
style changes nothing; with them it would add texts of its own, which have no line feeds either, but
that is not claimed here.
-/

namespace ContestJudge

open Console (Line Palette Style)

/-- How many line feeds a text has. -/
def Text.feeds (text : String) : Nat := text.toList.count '\n'

namespace Text

@[simp] theorem feeds_append (a b : String) : feeds (a ++ b) = feeds a + feeds b := by
  rw [feeds, String.toList_append, List.count_append, feeds, feeds]

theorem feeds_eq_zero_iff {text : String} : feeds text = 0 ↔ '\n' ∉ text.toList :=
  List.count_eq_zero

theorem feeds_pos_iff {text : String} : 0 < feeds text ↔ '\n' ∈ text.toList :=
  List.count_pos_iff

theorem feeds_join (texts : List String) : feeds (String.join texts) = (texts.map feeds).sum := by
  rw [feeds, String.toList_join, List.count_flatMap]
  rfl

theorem feeds_natText (n : Nat) : feeds (toString n) = 0 := by
  rw [feeds_eq_zero_iff]
  intro h
  exact absurd (isDigit_of_mem_toString h) (by decide)

theorem feeds_intText (n : Int) : feeds (toString n) = 0 := by
  obtain ⟨sign, m, hsign, htext⟩ := exists_intText n
  rw [htext, feeds_append, feeds_natText]
  rcases hsign with rfl | rfl <;> decide

end Text

open Text (feeds feeds_append)

theorem feeds_signalName {signal : Int} {name : String} (h : signalName? signal = some name) :
    feeds name = 0 := by
  obtain ⟨front, rest, hnames, -⟩ := List.lookup_eq_some_iff.1 h
  have hall : ∀ p ∈ front ++ (signal, name) :: rest, feeds p.2 = 0 := by
    rw [← hnames]
    decide
  exact hall _ (List.mem_append_right front List.mem_cons_self)

/-- The descriptions of codes take one line. -/
theorem feeds_describe (code : Code) (status : Option ExitStatus) :
    feeds (code.describe status) = 0 := by
  have hparts : feeds "exited with code " = 0 ∧ feeds "killed by signal " = 0 ∧
      feeds " (" = 0 ∧ feeds ")" = 0 := by
    decide
  obtain ⟨hexited, hkilled, hopen, hclose⟩ := hparts
  cases code with
  | invalidReturn =>
    rcases status with - | n | signal
    · decide
    · show feeds ("exited with code " ++ toString n) = 0
      rw [feeds_append, hexited, Text.feeds_intText]
    · show feeds "exited with non-zero code" = 0
      decide
  | runtimeError =>
    rcases status with - | n | signal
    · decide
    · show feeds "runtime error" = 0
      decide
    · unfold Code.describe
      rcases hname : signalName? signal with - | name
      · simp only [hname]
        show feeds ("killed by signal " ++ toString signal) = 0
        rw [feeds_append, hkilled, Text.feeds_intText]
      · simp only [hname]
        show feeds ("killed by signal " ++ toString signal ++ " (" ++ name ++ ")") = 0
        simp only [feeds_append, hkilled, Text.feeds_intText, hopen, hclose, feeds_signalName hname]
  | outputLimit | wallTimeLimit | timeLimit | memoryLimit | wrongAnswer | accepted =>
    unfold Code.describe
    dsimp only
    decide

namespace Console

variable {palette : Palette}

/-- Without colours a style changes nothing. -/
theorem Style.apply_of_plain (h : palette.colors = false) (s : Style) (text : String) :
    s.apply palette text = text :=
  if_pos (.inl (by rw [h]; rfl))

theorem feeds_padLeft (width : Nat) (text : String) : feeds (padLeft width text) = feeds text := by
  have hblanks (n : Nat) : feeds (String.ofList (List.replicate n ' ')) = 0 := by
    rw [Text.feeds_eq_zero_iff, String.toList_ofList]
    intro h
    exact absurd (List.eq_of_mem_replicate h) (by decide)
  rw [padLeft, feeds_append, hblanks, Nat.zero_add]

theorem feeds_codeLabel (h : palette.colors = false) (code : Code) :
    feeds (codeLabel palette code) = 0 := by
  rw [codeLabel]
  simp only [Style.apply_of_plain h]
  cases code <;> decide

/-- **The line of a case has the line feeds of its feedback.** -/
theorem feeds_caseLine (h : palette.colors = false) (id : CaseId) (verdict : Verdict) :
    feeds (caseLine palette id verdict) = feeds verdict.feedback := by
  have hindent : feeds (if id.batch.isSome then "  " else "") = 0 := by
    cases id.batch.isSome <;> decide
  have hstart : feeds "Test case " = 0 := by decide
  have hblank : feeds " " = 0 := by decide
  simp only [caseLine, Style.apply_of_plain h, feeds_append, hindent, hstart, hblank,
    feeds_padLeft, Text.feeds_natText, feeds_codeLabel h, Nat.zero_add]
  split
  · next hempty =>
    rw [String.isEmpty_iff.1 hempty]
  · have hopen : feeds " (" = 0 := by decide
    have hclose : feeds ")" = 0 := by decide
    simp only [feeds_append, hopen, hclose, Nat.zero_add, Nat.add_zero]

/-- A transcript has the line feeds of its lines. -/
theorem feeds_transcript (palette : Palette) (lines : List Line) :
    feeds (transcript palette lines) = (lines.map fun line ↦ feeds (line.text palette)).sum := by
  rw [transcript, Text.feeds_join, List.map_map]
  rfl

theorem feeds_batchHeader (h : palette.colors = false) (batch : Nat) :
    feeds ((Line.batchHeader batch).text palette) = 1 := by
  have htext : (Line.batchHeader batch).text palette =
      (boldStyle .yellow).apply palette ("Batch #" ++ toString batch) ++ "\n" := rfl
  have hstart : feeds "Batch #" = 0 ∧ feeds "\n" = 1 := by decide
  rw [htext, Style.apply_of_plain h]
  simp only [feeds_append, Text.feeds_natText, hstart]

theorem feeds_caseStatus (h : palette.colors = false) (id : CaseId) (verdict : Verdict) :
    feeds ((Line.caseStatus id verdict).text palette) = feeds verdict.feedback + 1 := by
  have htext : (Line.caseStatus id verdict).text palette =
      caseLine palette id verdict ++ "\n" := rfl
  have hend : feeds "\n" = 1 := by decide
  rw [htext, feeds_append, feeds_caseLine h, hend]

end Console

/-! ### Feedback -/

/-- **The feedback on an outcome** has the line feeds of the stream that something visible follows.
-/
theorem feeds_judgeOutcome (outcome : Outcome) (limits : Limits) (stream : OutputStream)
    (points : Float) :
    0 < feeds (judgeOutcome outcome limits stream points).feedback ↔
      ∃ front rest, outcome.captured stream = front ++ Text.Utf8.feed :: rest ∧
        Text.display rest ≠ "" := by
  rw [← Text.feed_mem_display_iff, ← Text.feeds_pos_iff]
  simp only [judgeOutcome, Verdict.ofFlags]
  split
  · next hempty =>
    have hnone : feeds "" = 0 := by decide
    rw [feeds_describe, String.isEmpty_iff.1 hempty, hnone]
  · exact Iff.rfl

/-- A diagnostic is cut, so that only the line feeds at its start are left. -/
theorem feeds_cutDiagnostic (diagnostic : String) :
    0 < feeds (Verdict.cutDiagnostic diagnostic) ↔
      '\n' ∈ diagnostic.toList.take Verdict.diagnosticLimit := by
  rw [Text.feeds_pos_iff, Verdict.cutDiagnostic]
  split
  · rw [String.toList_append, String.toList_ofList, List.mem_append]
    exact or_iff_left (by decide)
  · next hshort => rw [List.take_of_length_le (Nat.le_of_not_lt hshort)]

/-! ### Runs -/

namespace JudgedRun

variable {palette : Palette}

theorem feeds_lines (h : palette.colors = false) (run : JudgedRun) :
    feeds (Console.transcript palette run.lines) = run.batch.toList.length + run.cases.length +
      (run.cases.map fun c ↦ feeds c.graded.verdict.feedback).sum := by
  have hheader : ((run.batch.map Line.batchHeader).toList.map fun line ↦
      feeds (line.text palette)).sum = run.batch.toList.length := by
    cases run.batch with
    | none => rfl
    | some b => exact Console.feeds_batchHeader h b
  have hcases : ((run.cases.map JudgedCase.line).map fun line ↦ feeds (line.text palette)).sum =
      run.cases.length + (run.cases.map fun c ↦ feeds c.graded.verdict.feedback).sum := by
    induction run.cases with
    | nil => rfl
    | cons c rest ih =>
      have hline : feeds (c.line.text palette) = feeds c.graded.verdict.feedback + 1 :=
        Console.feeds_caseStatus h c.id c.graded.verdict
      simp only [List.map_cons, List.sum_cons, List.length_cons, ih, hline]
      omega
  rw [Console.feeds_transcript, lines_eq, List.map_append, List.sum_append, hheader, hcases,
    Nat.add_assoc]

theorem feeds_transcript (h : palette.colors = false) (runs : List JudgedRun) :
    feeds (Console.transcript palette (runs.flatMap lines)) =
      (runs.filterMap (·.batch)).length + (allCases runs).length +
        ((allCases runs).map fun c ↦ feeds c.graded.verdict.feedback).sum := by
  induction runs with
  | nil => rfl
  | cons run rest ih =>
    have hrun := feeds_lines h run
    have hbatch : ((run :: rest).filterMap (·.batch)).length =
        run.batch.toList.length + (rest.filterMap (·.batch)).length := by
      rw [List.filterMap_cons]
      cases run.batch with
      | none => exact (Nat.zero_add _).symm
      | some b => exact Nat.add_comm _ _
    have hcases : allCases (run :: rest) = run.cases ++ allCases rest := List.flatMap_cons
    rw [Console.feeds_transcript] at ih hrun
    rw [Console.feeds_transcript, List.flatMap_cons, List.map_append, List.sum_append, ih, hrun,
      hbatch, hcases, List.length_append, List.map_append, List.sum_append]
    omega

end JudgedRun

/-- **What a validator writes is shown as it stands.** Whatever it writes to its feedback stream, a
line feed that something visible follows becomes part of the feedback; and a fault becomes feedback
with the line feeds at its start. -/
theorem Validator.feeds_feedback {ε π : Type} {v : Validator} {s : Sandbox ε π} {c : Case}
    {w w' : World ε} {graded : Graded} (h : v.grader.grade s c w = some (graded, w')) :
    (∀ outcome, graded.outcome = some outcome →
      (0 < feeds graded.verdict.feedback ↔ ∃ front rest,
        outcome.captured v.feedback = front ++ Text.Utf8.feed :: rest ∧ Text.display rest ≠ "")) ∧
    (graded.outcome = none → ∃ fault : GradeFault, graded.verdict = fault.verdict ∧
      (0 < feeds graded.verdict.feedback ↔
        '\n' ∈ fault.message.toList.take Verdict.diagnosticLimit)) := by
  obtain ⟨result, -, hfollows⟩ := exists_follows h
  rw [hfollows.outcome, hfollows.verdict]
  rcases result with fault | ⟨limits, outcome⟩
  · exact ⟨nofun, fun _ ↦ ⟨fault, rfl, feeds_cutDiagnostic fault.message⟩⟩
  · refine ⟨fun outcome' houtcome ↦ ?_, nofun⟩
    obtain rfl : outcome = outcome' := Option.some.inj houtcome
    exact feeds_judgeOutcome outcome limits v.feedback c.data.points

/-- **How many lines the cases of a problem take** on a screen without colours. The line of a case
has the line feeds of its feedback. A validator's feedback has one exactly if its feedback stream
has one that something visible follows, or if the start of the fault has one that it ended with.
Judging shows one line for each case and for each header of a batch, and one more for each line feed
in some feedback; so it shows just the former exactly if no feedback has a line feed. -/
theorem case_lines_break {palette : Palette} (hplain : palette.colors = false) :
    (∀ id verdict, feeds (Console.caseLine palette id verdict) = feeds verdict.feedback) ∧
    (∀ {ε π : Type} {v : Validator} {s : Sandbox ε π} {c : Case} {w w' : World ε} {graded : Graded},
      v.grader.grade s c w = some (graded, w') →
        (∀ outcome, graded.outcome = some outcome →
          (0 < feeds graded.verdict.feedback ↔ ∃ front rest,
            outcome.captured v.feedback = front ++ Text.Utf8.feed :: rest ∧
              Text.display rest ≠ "")) ∧
        (graded.outcome = none → ∃ fault : GradeFault, graded.verdict = fault.verdict ∧
          (0 < feeds graded.verdict.feedback ↔
            '\n' ∈ fault.message.toList.take Verdict.diagnosticLimit))) ∧
    ∀ {ε σ : Type} {judge : CaseJudge ε} {watch : Watcher σ} {tree : CaseTree} {seen seen' : σ}
      {w w' : World ε} {runs : List JudgedRun},
      judgeCases judge watch tree seen w = some (runs, seen', w') →
        let judged := JudgedRun.allCases runs
        let shown := Console.transcript palette (runs.flatMap JudgedRun.lines)
        let headers := runs.filterMap (·.batch)
        feeds shown = headers.length + tree.cases.length +
          (judged.map fun j ↦ feeds j.graded.verdict.feedback).sum ∧
        (feeds shown = headers.length + tree.cases.length ↔
          ∀ j ∈ judged, '\n' ∉ j.graded.verdict.feedback.toList) := by
  refine ⟨Console.feeds_caseLine hplain, Validator.feeds_feedback,
    fun {ε σ judge watch tree seen seen' w w' runs} h ↦ ?_⟩
  have heach := judgeCases_eq judge watch tree seen w
  rw [h] at heach
  obtain ⟨-, hids, -⟩ := judgeEach_spec heach.symm
  -- no case is left out, so there are as many judged cases as cases
  have hlength : (JudgedRun.allCases runs).length = tree.cases.length := by
    have hlengths := congrArg List.length hids
    rw [List.length_map, List.length_mapIdx] at hlengths
    exact hlengths
  have hfeeds := JudgedRun.feeds_transcript hplain runs
  rw [hlength] at hfeeds
  refine ⟨hfeeds, ?_⟩
  rw [hfeeds, Nat.add_eq_left, List.sum_eq_zero_iff_forall_eq_nat, List.forall_mem_map]
  simp only [Text.feeds_eq_zero_iff]

/-! ### A validator that writes two lines -/

namespace Validator

/-- What reads like the rest of the line of a case and the line of another. -/
def forgery : Text.Bytes :=
  [111, 107, 41, 10, 84, 101, 115, 116, 32, 99, 97, 115, 101, 32, 32, 50, 32, 73, 82, 32, 32, 40,
    98, 97, 100]

theorem display_forgery : Text.display forgery = "ok)\nTest case  2 IR  (bad" := by
  decide +kernel

/-- A process that accepts, and writes that. -/
def forger : Exchange.Behaviour :=
  { prompt with
    output
      | .stdout => some [(1, .ended)]
      | .stderr => some [(0, .data forgery), (1, .ended)] }

/-- A screen without colours. -/
def plainScreen : Palette := ⟨false, false, none⟩

/-- What it uses. -/
def forgerUsage : Usage := ⟨.exited 0, .ofMillis 1, .ofMillis 1, 10⟩

/-- The case is accepted, with what the process wrote as feedback. -/
theorem exists_grade_forger : ∃ graded w' outcome,
    checker.grader.grade (.uniform forger) emptyCase default = some (graded, w') ∧
      graded.outcome = some outcome ∧ outcome.captured .stderr = forgery ∧
      graded.verdict = .ofFlags .empty "ok)\nTest case  2 IR  (bad" 5 (some forgerUsage) := by
  have htimeline : Exchange.timeline forger [] = [(0, .inputEnded .noPipe),
      (0, .output .stderr (.data forgery)), (1, .output .stdout .ended),
      (1, .output .stderr .ended)] := by
    simp [Exchange.timeline, forger, prompt, Exchange.feed, Exchange.outputEvents,
      Exchange.notLater]
  obtain ⟨r, outcome, hrun, hended, hstderr, hover, husage⟩ : ∃ r outcome,
      Exchange.run forger threefold.wallTime (checker.grader.caps emptyCase) false [] = some r ∧
      r.result = .ok outcome ∧ outcome.captured .stderr = forgery ∧ outcome.overflow = none ∧
      outcome.usage = forgerUsage := by
    rw [Exchange.run, htimeline]
    exact ⟨_, _, rfl, rfl, rfl, rfl, rfl⟩
  have hruns : checker.Runs (.uniform forger) emptyCase default (checkerSpec emptyCase) () r :=
    ⟨⟨prepares_checker rfl rfl, 0, Arrival.bound_immediate _ _⟩, [], rfl, hrun⟩
  obtain ⟨graded, w', hgrade, hfollows⟩ := (Course.scored hruns hended).exists_grade
  refine ⟨graded, w', outcome, hgrade, hfollows.outcome, hstderr, ?_⟩
  have hflags : judgeExit forgerUsage threefold false = .empty := by decide
  have hverdict : graded.verdict = judgeOutcome outcome threefold .stderr 5 := hfollows.verdict
  rw [hverdict, judgeOutcome]
  simp only [hstderr, display_forgery, husage, hover]
  show Verdict.ofFlags (judgeExit forgerUsage threefold false) _ 5 _ = _
  rw [hflags]
  rfl

/-- The line of the case takes two lines, because something visible follows the line feed that the
process wrote. -/
theorem case_lines_break_forger : ∃ graded w',
    checker.grader.grade (.uniform forger) emptyCase default = some (graded, w') ∧
      0 < feeds (Console.caseLine plainScreen ⟨1, none, 1⟩ graded.verdict) := by
  obtain ⟨graded, w', outcome, hgrade, houtcome, hstderr, -⟩ := exists_grade_forger
  have hplain : plainScreen.colors = false := rfl
  obtain ⟨hline, hvalidator, -⟩ := case_lines_break hplain
  obtain ⟨hfeedback, -⟩ := hvalidator hgrade
  refine ⟨graded, w', hgrade, ?_⟩
  rw [hline, hfeedback outcome houtcome]
  exact ⟨[111, 107, 41], forgery.drop 4, hstderr, by decide +kernel⟩

/-- **A validator can forge the line of another case.** What is shown of the one case that it
accepted is what would be shown of two cases, the second of which failed. -/
theorem line_forged : ∃ graded w' accepted failed,
    checker.grader.grade (.uniform forger) emptyCase default = some (graded, w') ∧
      failed.code = .invalidReturn ∧
      '\n' ∈ (Console.caseLine plainScreen ⟨1, none, 1⟩ graded.verdict).toList ∧
      Console.transcript plainScreen [.caseStatus ⟨1, none, 1⟩ graded.verdict] =
        Console.transcript plainScreen
          [.caseStatus ⟨1, none, 1⟩ accepted, .caseStatus ⟨2, none, 2⟩ failed] := by
  obtain ⟨graded, w', outcome, hgrade, -, -, hverdict⟩ := exists_grade_forger
  refine ⟨graded, w', .ofFlags .empty "ok" 5 none,
    .ofFlags (Flags.empty.insert .invalidReturn) "bad" 0 none, hgrade, rfl, ?_, ?_⟩
  · rw [hverdict]
    decide +kernel
  · rw [hverdict]
    decide +kernel

end Validator

end ContestJudge
