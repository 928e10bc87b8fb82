import ContestJudge.Proofs.Text.Breaks
import ContestJudge.Proofs.Text.Numerals
import ContestJudge.Proofs.Verdict.Flags

/-!
# The feedback on an outcome

Feedback is what a process wrote to one stream, without the blanks at its end, or else a description
of the reported code. Which of the two it is depends on whether the stream shows anything: bytes
that are malformed do, and blanks alone do not (`ShowsNothing`).

* `exists_blanks`, `endsVisibly_display` — what is shown of bytes is their text up to blanks at its
  end, and it does not end in one. Both together determine it.
* `describes_describe` — how a code is described, one rule for each way (`Describes`). The
  descriptions that name no status are for codes whose status is not known.
* `raised_of_primary` — an exit code or a signal is reported only when it is there, so on an outcome
  the status is always named (`Describes.specific`).
* `judgeOutcome_feedback` — so what the feedback on an outcome says (`FeedbackOn`), and that the
  other stream has no part in it.

Feedback is empty exactly if the case is accepted and its stream shows nothing, since every other
code has a description (`Describes.eq_empty_iff`).
-/

namespace ContestJudge

namespace Text

variable {bytes : Bytes} {front rest text : String} {c : Char}

/-! ### Blanks at the end -/

/-- Captured bytes that show nothing: their text is blank. -/
def ShowsNothing (bytes : Bytes) : Prop := ∀ c ∈ (Utf8.decodeLossy bytes).toList, isBlank c = true

/-- A text that does not end in a blank. -/
def EndsVisibly (text : String) : Prop := ∀ c, text.toList.getLast? = some c → isBlank c = false

instance (text : String) : Decidable (EndsVisibly text) :=
  decidable_of_iff (text.toList.getLast?.all (!isBlank ·) = true) <| by
    rw [EndsVisibly]
    cases text.toList.getLast? <;> simp

theorem display_eq_empty_iff_showsNothing : display bytes = "" ↔ ShowsNothing bytes := by
  rw [display_eq_empty_iff, List.rdropWhile_eq_nil_iff]
  rfl

/-- What is shown is what was written, up to blanks at its end. -/
theorem exists_blanks (bytes : Bytes) : ∃ blanks : List Char, (∀ c ∈ blanks, isBlank c = true) ∧
    (Utf8.decodeLossy bytes).toList = (display bytes).toList ++ blanks := by
  refine ⟨(Utf8.decodeLossy bytes).toList.rtakeWhile isBlank, fun c ↦ List.mem_rtakeWhile_imp, ?_⟩
  rw [toList_display, List.rdropWhile_append_rtakeWhile]

theorem endsVisibly_display (bytes : Bytes) : EndsVisibly (display bytes) := by
  intro c hc
  rw [toList_display] at hc
  have hne : (Utf8.decodeLossy bytes).toList.rdropWhile isBlank ≠ [] := by
    intro h
    rw [h] at hc
    exact nomatch hc
  have hvisible := List.rdropWhile_last_not isBlank _ hne
  rw [List.getLast?_eq_some_getLast hne] at hc
  rw [Option.some.inj hc] at hvisible
  exact Bool.eq_false_iff.2 hvisible

theorem EndsVisibly.append (h : EndsVisibly rest) (hne : rest ≠ "") :
    EndsVisibly (front ++ rest) := by
  intro c hc
  have hrest : rest.toList ≠ [] := mt String.toList_eq_nil_iff.1 hne
  rw [String.toList_append, List.getLast?_append, List.getLast?_eq_some_getLast hrest,
    Option.some_or] at hc
  exact h c (List.getLast?_eq_some_getLast hrest ▸ hc)

/-- Digits are visible. -/
theorem not_isBlank_of_isDigit (h : c.isDigit = true) : isBlank c = false := by
  have hrange : 48 ≤ c.toNat ∧ c.toNat ≤ 57 := by
    rw [Char.isDigit, Bool.and_eq_true, decide_eq_true_iff, decide_eq_true_iff] at h
    exact h
  rw [isBlank]
  simp only [Bool.or_eq_false_iff, Bool.and_eq_false_iff, decide_eq_false_iff_not]
  omega

theorem endsVisibly_natText (n : Nat) : EndsVisibly (toString n) := fun _ hc ↦
  not_isBlank_of_isDigit (isDigit_of_mem_toString (List.mem_of_getLast? hc))

theorem natText_ne_empty (n : Nat) : toString n ≠ "" :=
  fun h ↦ toString_ne_nil n (String.toList_eq_nil_iff.2 h)

/-- A numeral ends in a digit, and it is not empty. -/
theorem endsVisibly_intText (n : Int) : EndsVisibly (toString n) ∧ toString n ≠ "" := by
  obtain ⟨sign, m, -, htext⟩ := exists_intText n
  rw [htext]
  refine ⟨(endsVisibly_natText m).append (natText_ne_empty m), fun h ↦ ?_⟩
  exact natText_ne_empty m (String.append_eq_empty_iff.1 h).2

theorem ne_of_not_prefix (h : ¬front.toList <+: text.toList) : front ++ rest ≠ text := by
  rintro rfl
  rw [String.toList_append] at h
  exact h (List.prefix_append _ _)

end Text

open Text (ShowsNothing EndsVisibly)

/-! ### Descriptions -/

/-- How a signal is named, behind its number. -/
def signalNote (signal : Int) : String := (signalName? signal).elim "" fun name ↦ s!" ({name})"

/-- The descriptions that do not go by a status. -/
def fixedDescriptions : List String :=
  ["output limit exceeded", "wall time limit exceeded", "time limit exceeded",
    "memory limit exceeded", "wrong answer"]

/-- **How a code is described**, one rule for each way. -/
inductive Describes (code : Code) (status : Option ExitStatus) : String → Prop
  | nothing : code = .accepted → Describes code status ""
  | fixed {text : String} : code ≠ .accepted → text ∈ fixedDescriptions →
      Describes code status text
  | exited (n : Int) : code = .invalidReturn → status = some (.exited n) →
      Describes code status s!"exited with code {n}"
  | unknownExit : code = .invalidReturn → (∀ n, status ≠ some (.exited n)) →
      Describes code status "exited with non-zero code"
  | killed (signal : Int) : code = .runtimeError → status = some (.signaled signal) →
      Describes code status (s!"killed by signal {signal}" ++ signalNote signal)
  | unknownSignal : code = .runtimeError → (∀ signal, status ≠ some (.signaled signal)) →
      Describes code status "runtime error"

theorem describe_signaled (signal : Int) :
    Code.runtimeError.describe (some (.signaled signal)) =
      s!"killed by signal {signal}" ++ signalNote signal := by
  unfold Code.describe signalNote
  dsimp only
  cases signalName? signal with
  | none => exact String.append_empty.symm
  | some name => simp [String.append_assoc]

theorem describes_describe (code : Code) (status : Option ExitStatus) :
    Describes code status (code.describe status) := by
  cases code with
  | accepted => exact .nothing rfl
  | invalidReturn =>
    rcases status with - | n | signal
    · exact .unknownExit rfl nofun
    · exact .exited n rfl rfl
    · exact .unknownExit rfl nofun
  | runtimeError =>
    rcases status with - | n | signal
    · exact .unknownSignal rfl nofun
    · exact .unknownSignal rfl nofun
    · rw [describe_signaled]
      exact .killed signal rfl rfl
  | outputLimit | wallTimeLimit | timeLimit | memoryLimit | wrongAnswer =>
    refine .fixed nofun ?_
    unfold Code.describe
    dsimp only
    decide

namespace Describes

variable {code : Code} {status : Option ExitStatus} {text : String}

/-- Descriptions do not end in blanks. -/
theorem endsVisibly (h : Describes code status text) : EndsVisibly text := by
  cases h with
  | nothing | unknownExit | unknownSignal => decide
  | fixed _ hfixed => exact (by decide : ∀ text ∈ fixedDescriptions, EndsVisibly text) _ hfixed
  | exited n =>
    obtain ⟨hvisible, hne⟩ := Text.endsVisibly_intText n
    exact hvisible.append hne
  | killed signal =>
    rw [signalNote]
    cases signalName? signal with
    | none =>
      obtain ⟨hvisible, hne⟩ := Text.endsVisibly_intText signal
      rw [Option.elim_none, String.append_empty]
      exact hvisible.append hne
    | some name =>
      have hclose : EndsVisibly ")" := by decide
      exact (hclose.append (by decide)).append fun h ↦
        absurd (String.append_eq_empty_iff.1 h).2 (by decide)

/-- Only what is accepted needs no description. -/
theorem eq_empty_iff (h : Describes code status text) : text = "" ↔ code = .accepted := by
  cases h with
  | nothing hcode => exact iff_of_true rfl hcode
  | fixed hcode hfixed =>
    exact iff_of_false ((by decide : ∀ text ∈ fixedDescriptions, text ≠ "") _ hfixed) hcode
  | exited n hcode =>
    exact iff_of_false (Text.ne_of_not_prefix (by decide)) (hcode ▸ nofun)
  | killed signal hcode =>
    rw [String.append_assoc]
    exact iff_of_false (Text.ne_of_not_prefix (by decide)) (hcode ▸ nofun)
  | unknownExit hcode | unknownSignal hcode => exact iff_of_false (by decide) (hcode ▸ nofun)

/-- A code that its status explains is described by it. -/
theorem specific (h : Describes code status text)
    (hexited : code = .invalidReturn → ∃ n, status = some (.exited n))
    (hkilled : code = .runtimeError → ∃ signal, status = some (.signaled signal)) :
    text ≠ "exited with non-zero code" ∧ text ≠ "runtime error" := by
  cases h with
  | nothing => decide
  | fixed _ hfixed =>
    exact (by decide : ∀ text ∈ fixedDescriptions,
      text ≠ "exited with non-zero code" ∧ text ≠ "runtime error") _ hfixed
  | exited n => exact ⟨Text.ne_of_not_prefix (by decide), Text.ne_of_not_prefix (by decide)⟩
  | killed signal =>
    rw [String.append_assoc]
    exact ⟨Text.ne_of_not_prefix (by decide), Text.ne_of_not_prefix (by decide)⟩
  | unknownExit hcode hunknown =>
    obtain ⟨n, hstatus⟩ := hexited hcode
    exact absurd hstatus (hunknown n)
  | unknownSignal hcode hunknown =>
    obtain ⟨signal, hstatus⟩ := hkilled hcode
    exact absurd hstatus (hunknown signal)

end Describes

/-! ### What is reported -/

variable {usage : Usage} {limits : Limits} {overflow : Bool} {code : Code}

/-- **What is reported was raised**, unless a cap was overrun. -/
theorem raised_of_primary (h : (judgeExit usage limits overflow).primary = code)
    (haccepted : code ≠ .accepted) (hoverflow : code ≠ .outputLimit) :
    Raised usage limits code := by
  have hcontains := Flags.contains_primary_of_ne (h ▸ haccepted)
  rw [h] at hcontains
  cases overflow with
  | true => exact absurd (contains_judgeExit_overflow.1 hcontains) hoverflow
  | false => exact contains_judgeExit.1 hcontains

/-- **What the feedback on an outcome says.** -/
structure FeedbackOn (outcome : Outcome) (stream : OutputStream) (verdict : Verdict) : Prop where
  /-- What the stream shows is told as it was written, up to the blanks at its end. -/
  shown : ¬ShowsNothing (outcome.captured stream) →
    verdict.feedback ≠ "" ∧ ∃ blanks : List Char, (∀ c ∈ blanks, Text.isBlank c = true) ∧
      (Text.Utf8.decodeLossy (outcome.captured stream)).toList = verdict.feedback.toList ++ blanks
  /-- Otherwise the reported code is described. -/
  described : ShowsNothing (outcome.captured stream) →
    verdict.feedback = verdict.code.describe (some outcome.usage.status)
  visible_end : EndsVisibly verdict.feedback
  /-- Nothing is told only of an accepted run that shows nothing. -/
  silent : verdict.feedback = "" ↔
    verdict.isAccepted = true ∧ ShowsNothing (outcome.captured stream)
  /-- A description names the exit code, -/
  exited : ShowsNothing (outcome.captured stream) → verdict.code = .invalidReturn →
    ∃ n, outcome.usage.status = .exited n ∧ n ≠ 0 ∧ verdict.feedback = s!"exited with code {n}"
  /-- or else the signal. -/
  killed : ShowsNothing (outcome.captured stream) → verdict.code = .runtimeError →
    ∃ signal, outcome.usage.status = .signaled signal ∧
      verdict.feedback = s!"killed by signal {signal}" ++ signalNote signal
  /-- No description leaves the status open. -/
  specific : ShowsNothing (outcome.captured stream) →
    verdict.feedback ≠ "exited with non-zero code" ∧ verdict.feedback ≠ "runtime error"

theorem code_eq_accepted_iff {verdict : Verdict} :
    verdict.code = .accepted ↔ verdict.isAccepted = true := by
  refine ⟨fun h ↦ ?_, Flags.primary_of_isEmpty⟩
  by_contra hflags
  have hcontains := Flags.contains_primary (Bool.eq_false_iff.2 hflags)
  have hcode : verdict.flags.primary = .accepted := h
  rw [hcode, Flags.contains_accepted] at hcontains
  exact nomatch hcontains

/-- What the other stream holds instead. -/
def Outcome.withOther (outcome : Outcome) (bytes : Text.Bytes) : OutputStream → Outcome
  | .stdout => { outcome with stderr := bytes }
  | .stderr => { outcome with stdout := bytes }

theorem judgeOutcome_withOther (outcome : Outcome) (bytes : Text.Bytes) (limits : Limits)
    (stream : OutputStream) (points : Float) :
    judgeOutcome (outcome.withOther bytes stream) limits stream points =
      judgeOutcome outcome limits stream points := by
  cases stream <;> rfl

section Outcome

variable (outcome : Outcome) (limits : Limits) (stream : OutputStream) (points : Float)

theorem code_judgeOutcome : (judgeOutcome outcome limits stream points).code =
    (judgeExit outcome.usage limits outcome.overflow.isSome).primary := rfl

theorem feedback_judgeOutcome : (judgeOutcome outcome limits stream points).feedback =
    if (Text.display (outcome.captured stream)).isEmpty then
      (judgeOutcome outcome limits stream points).code.describe (some outcome.usage.status)
    else Text.display (outcome.captured stream) := by
  rw [code_judgeOutcome, judgeOutcome, Verdict.ofFlags]

variable {outcome stream}

theorem feedback_of_shows (h : ¬ShowsNothing (outcome.captured stream)) :
    (judgeOutcome outcome limits stream points).feedback =
      Text.display (outcome.captured stream) := by
  rw [feedback_judgeOutcome,
    if_neg (mt String.isEmpty_iff.1 (mt Text.display_eq_empty_iff_showsNothing.1 h))]

theorem feedback_of_showsNothing (h : ShowsNothing (outcome.captured stream)) :
    (judgeOutcome outcome limits stream points).feedback =
      (judgeOutcome outcome limits stream points).code.describe (some outcome.usage.status) := by
  rw [feedback_judgeOutcome,
    if_pos (String.isEmpty_iff.2 (Text.display_eq_empty_iff_showsNothing.2 h))]

end Outcome

/-- **The feedback on an outcome** is what the process wrote to the stream that it is taken from, or
else the description of the reported code. What the process wrote to the other stream changes nothing
about the verdict. -/
theorem judgeOutcome_feedback (outcome : Outcome) (limits : Limits) (stream : OutputStream)
    (points : Float) :
    FeedbackOn outcome stream (judgeOutcome outcome limits stream points) ∧
      ∀ bytes, judgeOutcome (outcome.withOther bytes stream) limits stream points =
        judgeOutcome outcome limits stream points := by
  have hshown := @feedback_of_shows outcome limits stream points
  have hdescribed := @feedback_of_showsNothing outcome limits stream points
  have hreported := code_judgeOutcome outcome limits stream points
  refine ⟨?_, fun bytes ↦ judgeOutcome_withOther outcome bytes limits stream points⟩
  generalize judgeOutcome outcome limits stream points = verdict at hshown hdescribed hreported ⊢
  have hexited : verdict.code = .invalidReturn → ∃ n, outcome.usage.status = .exited n ∧ n ≠ 0 :=
    fun hcode ↦ raised_of_primary (hreported.symm.trans hcode) nofun nofun
  have hkilled : verdict.code = .runtimeError → ∃ signal, outcome.usage.status = .signaled signal :=
    fun hcode ↦ (raised_of_primary (hreported.symm.trans hcode) nofun nofun).1
  have hdescription := describes_describe verdict.code (some outcome.usage.status)
  refine ⟨fun h ↦ ?_, hdescribed, ?_, ?_, fun h hcode ↦ ?_, fun h hcode ↦ ?_, fun h ↦ ?_⟩
  · rw [hshown h]
    exact ⟨mt Text.display_eq_empty_iff_showsNothing.1 h, Text.exists_blanks _⟩
  · by_cases h : ShowsNothing (outcome.captured stream)
    · rw [hdescribed h]
      exact hdescription.endsVisibly
    · rw [hshown h]
      exact Text.endsVisibly_display _
  · by_cases h : ShowsNothing (outcome.captured stream)
    · rw [hdescribed h, hdescription.eq_empty_iff, code_eq_accepted_iff, and_iff_left h]
    · rw [hshown h, Text.display_eq_empty_iff_showsNothing]
      exact ⟨fun hnothing ↦ absurd hnothing h, fun hnothing ↦ absurd hnothing.2 h⟩
  · obtain ⟨n, hstatus, hn⟩ := hexited hcode
    refine ⟨n, hstatus, hn, ?_⟩
    rw [hdescribed h, hcode, hstatus]
    rfl
  · obtain ⟨signal, hstatus⟩ := hkilled hcode
    refine ⟨signal, hstatus, ?_⟩
    rw [hdescribed h, hcode, hstatus, describe_signaled]
  · rw [hdescribed h]
    refine hdescription.specific (fun hcode ↦ ?_) fun hcode ↦ ?_
    · obtain ⟨n, hstatus, -⟩ := hexited hcode
      exact ⟨n, congrArg some hstatus⟩
    · obtain ⟨signal, hstatus⟩ := hkilled hcode
      exact ⟨signal, congrArg some hstatus⟩

/-- A process that wrote half a character to one stream and blanks to the other, and crashed. -/
def crashed : Outcome :=
  ⟨[0xE2, 0x82], [0x20, 0x0A], none, ⟨.signaled 11, .ofMillis 10, .ofMillis 20, 1000⟩⟩

/-- Half a character is shown. Blanks are not, and the signal is named instead. -/
theorem judgeOutcome_feedback_crashed :
    (judgeOutcome crashed (.ofTime (.ofSeconds 1) 4096) .stdout 1).feedback ≠ "" ∧
      (judgeOutcome crashed (.ofTime (.ofSeconds 1) 4096) .stderr 1).feedback =
        "killed by signal 11 (SIGSEGV)" := by
  have hhalf : ¬ShowsNothing (crashed.captured .stdout) := by
    rw [← Text.display_eq_empty_iff_showsNothing]
    decide +kernel
  have hblank : ShowsNothing (crashed.captured .stderr) := by
    rw [← Text.display_eq_empty_iff_showsNothing]
    decide +kernel
  obtain ⟨signal, hstatus, hfeedback⟩ :=
    (judgeOutcome_feedback crashed (.ofTime (.ofSeconds 1) 4096) .stderr 1).1.killed hblank
      (by decide)
  obtain rfl : 11 = signal := ExitStatus.signaled.inj hstatus
  refine ⟨((judgeOutcome_feedback crashed _ .stdout 1).1.shown hhalf).1, hfeedback.trans ?_⟩
  decide +kernel

end ContestJudge
