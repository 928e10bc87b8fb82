import ContestJudge.Verdict.Judge

/-!
# Which flags a run raises

`judgeExit` builds a set of flags step by step. Here it is compared with a statement of each flag by
itself: `Raised usage limits code` says when a run that overran no cap raises `code`, and
`contains_judgeExit` that these are exactly its flags. A run is clean (`Clean`) if it raises none,
and nothing else has no flags (`isEmpty_judgeExit`).

The sets of flags are finite and small, so facts about all of them go by cases on the code; what is
said about their order goes by the order of `Code.all` (`Flags.rank_primary_le`). The reported code
is the first flag in this order, so it is a flag if there is one (`Flags.contains_primary`), and no
flag takes precedence over it.

A run that overran a cap is judged by that alone, whatever else it did
(`contains_judgeExit_overflow`). So `Raised` need not speak of caps.
-/

namespace ContestJudge

/-! ### Sets of flags -/

namespace Flags

variable {f : Flags} {c : Code}

/-- There is no flag exactly if no code is among the flags. -/
theorem isEmpty_iff : f.isEmpty = true ↔ ∀ c, f.contains c = false := by
  rw [isEmpty, decide_eq_true_iff]
  constructor
  · rintro rfl c
    cases c <;> rfl
  · intro h
    obtain ⟨outputLimit, wallTimeLimit, timeLimit, memoryLimit, invalidReturn, runtimeError,
      wrongAnswer⟩ := f
    obtain rfl : outputLimit = false := h .outputLimit
    obtain rfl : wallTimeLimit = false := h .wallTimeLimit
    obtain rfl : timeLimit = false := h .timeLimit
    obtain rfl : memoryLimit = false := h .memoryLimit
    obtain rfl : invalidReturn = false := h .invalidReturn
    obtain rfl : runtimeError = false := h .runtimeError
    obtain rfl : wrongAnswer = false := h .wrongAnswer
    rfl

theorem toList_eq_nil_iff : f.toList = [] ↔ f.isEmpty = true := by
  rw [isEmpty_iff]
  constructor
  · intro h c
    refine Bool.eq_false_iff.2 fun hc ↦ ?_
    have hmem := mem_toList.2 hc
    rw [h] at hmem
    cases hmem
  · exact fun h ↦ List.filter_eq_nil_iff.2 fun c _ ↦ by simp [h c]

/-- Flags are listed by their rank. -/
theorem pairwise_toList (f : Flags) : f.toList.Pairwise fun c d ↦ c.rank < d.rank := by
  have hall : Code.all.Pairwise fun c d ↦ c.rank < d.rank := by decide
  exact hall.filter _

/-- Without a flag the reported code is `accepted`. -/
theorem primary_of_isEmpty (h : f.isEmpty = true) : f.primary = .accepted := by
  rw [primary, toList_eq_nil_iff.2 h]
  rfl

/-- **The reported code is a flag**, if there is one. -/
theorem contains_primary (h : f.isEmpty = false) : f.contains f.primary = true := by
  rcases hlist : f.toList with - | ⟨first, rest⟩
  · rw [toList_eq_nil_iff.1 hlist] at h
    cases h
  · rw [primary, hlist, ← mem_toList, hlist]
    exact List.mem_cons_self

/-- A reported code that is not `accepted` is a flag. -/
theorem contains_primary_of_ne (h : f.primary ≠ .accepted) : f.contains f.primary = true :=
  contains_primary (Bool.eq_false_iff.2 (mt primary_of_isEmpty h))

/-- **The reported code takes precedence** over every flag. -/
theorem rank_primary_le (h : f.contains c = true) : f.primary.rank ≤ c.rank := by
  have hmem := mem_toList.2 h
  have hsorted := f.pairwise_toList
  rw [primary]
  generalize f.toList = codes at hmem hsorted
  rcases codes with - | ⟨first, rest⟩
  · cases hmem
  · rcases List.mem_cons.1 hmem with rfl | hrest
    · exact Nat.le_refl _
    · exact Nat.le_of_lt ((List.pairwise_cons.1 hsorted).1 c hrest)

end Flags

/-! ### From usage to flags -/

variable {usage : Usage} {limits : Limits} {code : Code}

/-- A run reaches one of its limits. -/
def ReachesLimit (usage : Usage) (limits : Limits) : Prop :=
  limits.wallTime ≤ usage.wallTime ∨ limits.time ≤ usage.cpuTime ∨ limits.memory ≤ usage.peakMemory

instance (usage : Usage) (limits : Limits) : Decidable (ReachesLimit usage limits) :=
  inferInstanceAs (Decidable (_ ∨ _ ∨ _))

/-- **When a run raises a flag** that overran no cap. -/
def Raised (usage : Usage) (limits : Limits) : Code → Prop
  | .wallTimeLimit => limits.wallTime ≤ usage.wallTime
  | .timeLimit => limits.time ≤ usage.cpuTime
  | .memoryLimit => limits.memory ≤ usage.peakMemory
  | .invalidReturn => ∃ n, usage.status = .exited n ∧ n ≠ 0
  | .runtimeError => (∃ signal, usage.status = .signaled signal) ∧ ¬ReachesLimit usage limits
  | .outputLimit | .wrongAnswer | .accepted => False

/-- A run that exits with zero and stays below its limits. -/
structure Clean (usage : Usage) (limits : Limits) : Prop where
  status : usage.status = .exited 0
  wallTime : usage.wallTime < limits.wallTime
  cpuTime : usage.cpuTime < limits.time
  peakMemory : usage.peakMemory < limits.memory

/-- The flags for the limits that a run reaches. -/
def limitFlags (usage : Usage) (limits : Limits) : Flags where
  wallTimeLimit := limits.wallTime ≤ usage.wallTime
  timeLimit := limits.time ≤ usage.cpuTime
  memoryLimit := limits.memory ≤ usage.peakMemory

theorem isEmpty_limitFlags :
    (limitFlags usage limits).isEmpty = true ↔ ¬ReachesLimit usage limits := by
  simp [limitFlags, Flags.isEmpty, Flags.empty, ReachesLimit]

theorem judgeExit_of_exited {n : Int} (h : usage.status = .exited n) :
    judgeExit usage limits false =
      if n = 0 then limitFlags usage limits
      else (limitFlags usage limits).insert .invalidReturn := by
  simp only [judgeExit, h]
  rfl

theorem judgeExit_of_signaled {signal : Int} (h : usage.status = .signaled signal) :
    judgeExit usage limits false =
      if (limitFlags usage limits).isEmpty then (limitFlags usage limits).insert .runtimeError
      else limitFlags usage limits := by
  simp only [judgeExit, h]
  rfl

/-- **The flags of a run that overran no cap** are those that it raises. -/
theorem contains_judgeExit :
    (judgeExit usage limits false).contains code = true ↔ Raised usage limits code := by
  rcases hstatus : usage.status with n | signal
  · rw [judgeExit_of_exited hstatus]
    split
    · next hn => cases code <;> simp [Raised, hstatus, hn, Flags.contains, limitFlags]
    · next hn => cases code <;> simp [Raised, hstatus, hn, Flags.insert, Flags.contains, limitFlags]
  · rw [judgeExit_of_signaled hstatus]
    split
    · next hempty =>
      have hnone := isEmpty_limitFlags.1 hempty
      cases code <;> simp [Raised, hstatus, hnone, Flags.insert, Flags.contains, limitFlags]
    · next hreached =>
      have hsome := Decidable.not_not.1 (mt isEmpty_limitFlags.2 hreached)
      cases code <;> simp [Raised, hstatus, hsome, Flags.contains, limitFlags]

/-- A run that overran a cap is judged by that alone. -/
theorem contains_judgeExit_overflow :
    (judgeExit usage limits true).contains code = true ↔ code = .outputLimit := by
  cases code <;> simp [judgeExit, Flags.insert, Flags.empty, Flags.contains]

/-- A run is clean exactly if it raises nothing. -/
theorem clean_iff : Clean usage limits ↔ ∀ code, ¬Raised usage limits code := by
  constructor
  · rintro ⟨hstatus, hwall, hcpu, hmemory⟩ code hraised
    cases code with
    | wallTimeLimit => exact Nat.not_le.2 hwall hraised
    | timeLimit => exact Nat.not_le.2 hcpu hraised
    | memoryLimit => exact Nat.not_le.2 hmemory hraised
    | invalidReturn =>
      obtain ⟨n, hexit, hn⟩ := hraised
      rw [hstatus] at hexit
      cases hexit
      exact hn rfl
    | runtimeError =>
      obtain ⟨⟨signal, hsignal⟩, -⟩ := hraised
      rw [hstatus] at hsignal
      cases hsignal
    | outputLimit | wrongAnswer | accepted => exact hraised
  · intro h
    have hwall := Nat.not_le.1 (h .wallTimeLimit)
    have hcpu := Nat.not_le.1 (h .timeLimit)
    have hmemory := Nat.not_le.1 (h .memoryLimit)
    refine ⟨?_, hwall, hcpu, hmemory⟩
    rcases hstatus : usage.status with n | signal
    · rcases Decidable.em (n = 0) with rfl | hn
      · rfl
      · exact absurd ⟨n, hstatus, hn⟩ (h .invalidReturn)
    · -- a signal that no limit explains is a flag of its own
      refine absurd ⟨⟨signal, hstatus⟩, ?_⟩ (h .runtimeError)
      rintro (hreached | hreached | hreached)
      · exact h .wallTimeLimit hreached
      · exact h .timeLimit hreached
      · exact h .memoryLimit hreached

/-- **No flag means a clean run** that overran no cap. -/
theorem isEmpty_judgeExit {overflow : Bool} :
    (judgeExit usage limits overflow).isEmpty = true ↔ overflow = false ∧ Clean usage limits := by
  cases overflow with
  | true => simp [judgeExit, Flags.isEmpty, Flags.empty, Flags.insert]
  | false =>
    rw [Flags.isEmpty_iff, clean_iff]
    simp only [true_and, ← contains_judgeExit, Bool.not_eq_true]

end ContestJudge
