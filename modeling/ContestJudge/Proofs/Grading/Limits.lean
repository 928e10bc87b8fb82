import ContestJudge.Proofs.Grading.Acceptance
import ContestJudge.Proofs.Grading.Launches

/-!
# The limits that a case is judged under

The limits of a case are worked out twice: when its launch is prepared and again when the outcome is
scored. Both times they are the limits of the validator with the wall time factor of the case, and
they fail at the same factors. So where these limits are known to exist, a case is launched and
scored under them and no verdict says that they do not (`Validator.judgedUnder`).

That a verdict says so can be read off its feedback: no other fault is worded alike
(`GradeFault.head?_message_iff`), and a scored outcome has a usage
(`GradeFault.exists_of_verdict_eq` puts both together). Their wording begins with a letter with
which no other fault begins, and a cut diagnostic keeps it (`Verdict.head?_cutDiagnostic`). So it is
enough to look at the first letter, and the texts behind it, which name paths and programs, need not
be compared.
-/

namespace ContestJudge

/-! ### The wording of faults -/

theorem head?_append_of_head? {a b : String} {initial : Char} (h : a.toList.head? = some initial) :
    (a ++ b).toList.head? = some initial := by
  rw [String.toList_append, List.head?_append, h, Option.some_or]

theorem Template.ArgumentFault.head?_message (fault : ArgumentFault) :
    fault.message.toList.head? = some 'I' ∨ fault.message.toList.head? = some 'U' := by
  cases fault with
  | template fault => exact .inl (head?_append_of_head? (by decide))
  | unbalancedQuotes line =>
    exact .inr (head?_append_of_head? (head?_append_of_head? (by decide)))

theorem LaunchFault.head?_message (fault : LaunchFault) :
    ∃ initial ∈ ['P', 'F', 'L'], fault.message.toList.head? = some initial := by
  cases fault with
  | programNotFound program =>
    exact ⟨'P', by decide, head?_append_of_head? (head?_append_of_head? (by decide))⟩
  | notStarted program message =>
    exact ⟨'F', by decide,
      head?_append_of_head? (head?_append_of_head? (head?_append_of_head? (by decide)))⟩
  | setup cause => exact ⟨'F', by decide, head?_append_of_head? (by decide)⟩
  | noDirectory message => exact ⟨'F', by decide, head?_append_of_head? (by decide)⟩
  | timedOut after => exact ⟨'L', by decide, head?_append_of_head? (by decide)⟩

theorem Exchange.Fault.head?_message (fault : Fault) : fault.message.toList.head? = some 'F' := by
  cases fault with
  | communication message => exact head?_append_of_head? (by decide)
  | reaping message => exact head?_append_of_head? (by decide)

theorem WallTimeFault.head?_message (fault : WallTimeFault) :
    fault.message.toList.head? = some 'W' :=
  head?_append_of_head? (head?_append_of_head? (head?_append_of_head? (by decide)))

/-- **Faults of the wall time limit are told by the first letter** of their wording. -/
theorem GradeFault.head?_message_iff {fault : GradeFault} :
    fault.message.toList.head? = some 'W' ↔ ∃ cause, fault = .wallTime cause := by
  constructor
  · intro h
    cases fault with
    | arguments cause =>
      have hcause : cause.message.toList.head? = some 'W' := h
      obtain hinitial | hinitial := cause.head?_message
      · rw [hinitial] at hcause
        cases hcause
      · rw [hinitial] at hcause
        cases hcause
    | wallTime cause => exact ⟨cause, rfl⟩
    | launch cause =>
      have hcause : cause.message.toList.head? = some 'W' := h
      obtain ⟨initial, hmem, hinitial⟩ := cause.head?_message
      rw [hinitial] at hcause
      cases hcause
      exact absurd hmem (by decide)
    | exchange cause =>
      have hcause : cause.message.toList.head? = some 'W' := h
      rw [cause.head?_message] at hcause
      cases hcause
    | testData cause =>
      have hinitial : (GradeFault.testData cause).message.toList.head? = some 'C' :=
        head?_append_of_head? (by decide)
      rw [hinitial] at h
      cases h
    | noExpectedOutput position =>
      have hinitial : (GradeFault.noExpectedOutput position).message.toList.head? = some 'N' :=
        head?_append_of_head? (by decide)
      rw [hinitial] at h
      cases h
  · rintro ⟨cause, rfl⟩
    exact cause.head?_message

/-- A diagnostic that is cut keeps its first letter. -/
theorem Verdict.head?_cutDiagnostic (diagnostic : String) :
    (cutDiagnostic diagnostic).toList.head? = diagnostic.toList.head? := by
  rw [cutDiagnostic]
  split
  case isTrue hlong =>
    obtain ⟨initial, rest, hdiagnostic⟩ : ∃ initial rest, diagnostic.toList = initial :: rest :=
      List.exists_cons_of_length_pos (Nat.zero_lt_of_lt hlong)
    rw [hdiagnostic]
    refine head?_append_of_head? ?_
    rw [String.toList_ofList, diagnosticLimit, List.take_succ_cons]
    rfl
  case isFalse => rfl

/-- **No other fault has the verdict of a wall time limit** that does not exist. -/
theorem GradeFault.exists_of_verdict_eq {fault : GradeFault} {cause : WallTimeFault}
    (h : fault.verdict = (GradeFault.wallTime cause).verdict) :
    ∃ cause, fault = .wallTime cause := by
  have hfeedback : Verdict.cutDiagnostic fault.message =
      Verdict.cutDiagnostic (GradeFault.wallTime cause).message := congrArg Verdict.feedback h
  rw [← head?_message_iff, ← Verdict.head?_cutDiagnostic, hfeedback, Verdict.head?_cutDiagnostic]
  exact cause.head?_message

/-! ### Judging under limits -/

section Launched

variable {ε π : Type} {g : Grader} {s : Sandbox ε π} {c : Case} {w w' : World ε} {graded : Graded}
  {launch : LaunchRecord}

theorem Grader.spec_of_interact {spec : LaunchSpec} {process : π} {time : Nat}
    (h : g.interact s spec process time c w = some (graded, w'))
    (hlaunch : graded.launch = some launch) : launch.spec = spec := by
  rw [interact] at h
  rcases hload : g.load w.files c with ⟨fault | input, c'⟩
  · simp only [hload] at h
    cases h
    cases hlaunch
    rfl
  · simp only [hload, Option.bind_eq_bind, Option.bind_eq_some_iff] at h
    obtain ⟨r, -, h⟩ := h
    rcases hresult : r.result with fault | outcome
    · simp only [hresult] at h
      cases h
      cases hlaunch
      rfl
    · simp only [hresult] at h
      cases h
      cases hlaunch
      rfl

/-- What is launched for a case is what was prepared. -/
theorem Grader.prepare_of_launch (h : g.grade s c w = some (graded, w'))
    (hlaunch : graded.launch = some launch) : (g.prepare w.files c).1 = .ok launch.spec := by
  rw [grade] at h
  rcases hprepare : g.prepare w.files c with ⟨fault | spec, c'⟩
  · simp only [hprepare] at h
    cases h
    cases hlaunch
  simp only [hprepare, Option.bind_eq_bind, Option.bind_eq_some_iff] at h
  obtain ⟨started, -, h⟩ := h
  rcases hresult : started.result with fault | process
  · simp only [hresult] at h
    cases h
    cases hlaunch
    rfl
  · simp only [hresult] at h
    rw [spec_of_interact h hlaunch]

end Launched

/-- **A case that is judged under some limits**: it is launched under them, its outcome is scored by
them, and the verdict does not say that they do not exist. -/
structure Graded.Under (limits : Limits) (stream : OutputStream) (points : Float)
    (graded : Graded) : Prop where
  launched : ∀ launch, graded.launch = some launch → launch.spec.limits = limits
  scored : ∀ outcome, graded.outcome = some outcome →
    graded.verdict = judgeOutcome outcome limits stream points
  exist : ∀ cause, graded.verdict ≠ (GradeFault.wallTime cause).verdict

namespace Validator

variable {ε π : Type} {v : Validator} {s : Sandbox ε π} {c : Case} {w w' : World ε}

/-- **A case with a wall time limit is judged under it.** -/
theorem judgedUnder {limits : Limits} {graded : Graded}
    (hscaled : v.limits.scaled c.data.settings.wallTimeFactor = .ok limits)
    (h : v.grader.grade s c w = some (graded, w')) :
    graded.Under limits v.feedback c.data.points := by
  obtain ⟨result, hcourse, hfollows⟩ := exists_follows h
  refine ⟨fun launch hlaunch ↦ ?_, fun outcome houtcome ↦ ?_, fun cause hverdict ↦ ?_⟩
  · have hspec : v.spec? c = some launch.spec :=
      congrArg Except.toOption (Grader.prepare_of_launch h hlaunch)
    obtain ⟨arguments, limits', -, hlimits, hlaunched⟩ := spec?_eq_some_iff.1 hspec
    obtain rfl : limits = limits' := Except.ok.inj (hscaled.symm.trans hlimits)
    rw [hlaunched]
  · rw [hfollows.outcome] at houtcome
    cases hcourse with
    | scored ran ended =>
      obtain rfl := Except.ok.inj (hscaled.symm.trans ran.scaled)
      obtain rfl := Option.some.inj houtcome
      exact hfollows.verdict
    | _ => cases houtcome
  · rw [hfollows.verdict] at hverdict
    cases hcourse with
    | scored ran ended => cases congrArg Verdict.usage hverdict
    | unscaled resolved failed => cases hscaled.symm.trans failed
    | _ =>
      obtain ⟨cause', hfault⟩ := GradeFault.exists_of_verdict_eq hverdict
      cases hfault

end Validator

end ContestJudge
