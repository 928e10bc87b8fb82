import ContestJudge.Proofs.Verdict.Flags

/-!
# More usage is no better

When a run uses more, or is allowed less, it reaches every limit that it reached before. So of its
flags it can only lose the one for a signal, which counts as long as no limit explains it
(`Raised.of_noBetter`); and then the limit that explains it takes precedence over it. Every flag is
therefore kept or outranked (`Raised.exists_of_noBetter`), and with the flags the code that is
reported (`judgeExit_of_noBetter`).

Two runs are compared that ended in the same way (`NoBetter`). Runs that ended in different ways are
not compared: one that is killed where the other one exits may well be judged better.
-/

namespace ContestJudge

variable {usage usage' : Usage} {limits limits' : Limits} {code : Code}

/-- **A run that is no better** than another one: it ended in the same way, used no less of anything
and was allowed no more of it. -/
structure NoBetter (usage : Usage) (limits : Limits) (usage' : Usage) (limits' : Limits) :
    Prop where
  status : usage'.status = usage.status
  cpuTime : usage.cpuTime ≤ usage'.cpuTime
  wallTime : usage.wallTime ≤ usage'.wallTime
  peakMemory : usage.peakMemory ≤ usage'.peakMemory
  cpuLimit : limits'.time ≤ limits.time
  wallLimit : limits'.wallTime ≤ limits.wallTime
  memoryLimit : limits'.memory ≤ limits.memory

/-- What reaches a limit goes on to reach it. -/
theorem Duration.reaches_trans {limit limit' used used' : Duration} (hlimit : limit' ≤ limit)
    (hreached : limit ≤ used) (hused : used ≤ used') : limit' ≤ used' :=
  Nat.le_trans hlimit (Nat.le_trans hreached hused)

/-- **A run that is no better raises what the other one raises**, but for a signal. -/
theorem Raised.of_noBetter (h : NoBetter usage limits usage' limits')
    (hraised : Raised usage limits code) (hsignal : code ≠ .runtimeError) :
    Raised usage' limits' code := by
  cases code with
  | wallTimeLimit => exact Duration.reaches_trans h.wallLimit hraised h.wallTime
  | timeLimit => exact Duration.reaches_trans h.cpuLimit hraised h.cpuTime
  | memoryLimit => exact Nat.le_trans h.memoryLimit (Nat.le_trans hraised h.peakMemory)
  | invalidReturn =>
    obtain ⟨n, hexit, hn⟩ := hraised
    exact ⟨n, h.status.trans hexit, hn⟩
  | runtimeError => exact absurd rfl hsignal
  | outputLimit | wrongAnswer | accepted => exact hraised.elim

/-- The flag of a limit takes precedence over that of a signal. -/
theorem ReachesLimit.exists_raised (h : ReachesLimit usage limits) :
    ∃ code, Raised usage limits code ∧ code.rank < Code.runtimeError.rank := by
  rcases h with hwall | hcpu | hmemory
  · exact ⟨.wallTimeLimit, hwall, by decide⟩
  · exact ⟨.timeLimit, hcpu, by decide⟩
  · exact ⟨.memoryLimit, hmemory, by decide⟩

/-- **Every flag is kept or outranked** in a run that is no better. -/
theorem Raised.exists_of_noBetter (h : NoBetter usage limits usage' limits')
    (hraised : Raised usage limits code) :
    ∃ code', Raised usage' limits' code' ∧ code'.rank ≤ code.rank := by
  by_cases hsignal : code = .runtimeError
  · subst hsignal
    -- now that it has reached a limit, the signal may no longer count
    by_cases hreached : ReachesLimit usage' limits'
    · obtain ⟨code', hraised', hrank⟩ := hreached.exists_raised
      exact ⟨code', hraised', Nat.le_of_lt hrank⟩
    · obtain ⟨⟨signal, hstatus⟩, -⟩ := hraised
      exact ⟨.runtimeError, ⟨⟨signal, h.status.trans hstatus⟩, hreached⟩, Nat.le_refl _⟩
  · exact ⟨code, hraised.of_noBetter h hsignal, Nat.le_refl _⟩

theorem Code.rank_le_accepted (code : Code) : code.rank ≤ Code.accepted.rank := by
  cases code <;> decide

/-- The flags of a run that is no better keep or outrank every flag. -/
theorem exists_contains_of_noBetter (h : NoBetter usage limits usage' limits') {overflow : Bool}
    (hcontains : (judgeExit usage limits overflow).contains code = true) :
    ∃ code', (judgeExit usage' limits' overflow).contains code' = true ∧
      code'.rank ≤ code.rank := by
  cases overflow with
  | true =>
    have hcode := contains_judgeExit_overflow.1 hcontains
    exact ⟨code, contains_judgeExit_overflow.2 hcode, Nat.le_refl _⟩
  | false =>
    obtain ⟨code', hraised, hrank⟩ := (contains_judgeExit.1 hcontains).exists_of_noBetter h
    exact ⟨code', contains_judgeExit.2 hraised, hrank⟩

/-- **More usage is no better.** A run that is no better than another one keeps its flags, but for
that of a signal. The code that is reported for it takes the same precedence or a higher one, and it
fails if the other one does. -/
theorem judgeExit_of_noBetter (h : NoBetter usage limits usage' limits') (overflow : Bool) :
    (∀ code, code ≠ .runtimeError → (judgeExit usage limits overflow).contains code = true →
        (judgeExit usage' limits' overflow).contains code = true) ∧
      (judgeExit usage' limits' overflow).primary.rank ≤
        (judgeExit usage limits overflow).primary.rank ∧
      ((judgeExit usage limits overflow).isEmpty = false →
        (judgeExit usage' limits' overflow).isEmpty = false) := by
  refine ⟨fun code hsignal hcontains ↦ ?_, ?_, fun hfails ↦ ?_⟩
  · cases overflow with
    | true => exact contains_judgeExit_overflow.2 (contains_judgeExit_overflow.1 hcontains)
    | false =>
      exact contains_judgeExit.2 ((contains_judgeExit.1 hcontains).of_noBetter h hsignal)
  · by_cases haccepted : (judgeExit usage limits overflow).primary = .accepted
    · rw [haccepted]
      exact Code.rank_le_accepted _
    · obtain ⟨code', hcontains, hrank⟩ :=
        exists_contains_of_noBetter h (Flags.contains_primary_of_ne haccepted)
      exact Nat.le_trans (Flags.rank_primary_le hcontains) hrank
  · obtain ⟨code', hcontains, -⟩ := exists_contains_of_noBetter h (Flags.contains_primary hfails)
    refine Bool.eq_false_iff.2 fun hempty ↦ ?_
    exact Bool.false_ne_true ((Flags.isEmpty_iff.1 hempty code').symm.trans hcontains)

/-- Killed by a signal. -/
def killedEarly : Usage := ⟨.signaled 9, .ofMillis 10, .ofMillis 20, 1000⟩

/-- Killed by the same signal, past a limit on the wall clock. -/
def killedLate : Usage := ⟨.signaled 9, .ofMillis 10, .ofSeconds 3, 1000⟩

/-- When the limit on the wall clock explains the signal, the signal no longer counts, but what is
reported takes precedence over it. -/
theorem judgeExit_of_noBetter_killed :
    NoBetter killedEarly (.ofTime (.ofSeconds 1) 4096) killedLate (.ofTime (.ofSeconds 1) 4096) ∧
      (judgeExit killedEarly (.ofTime (.ofSeconds 1) 4096) false).toList = [.runtimeError] ∧
      (judgeExit killedLate (.ofTime (.ofSeconds 1) 4096) false).toList = [.wallTimeLimit] ∧
      (judgeExit killedLate (.ofTime (.ofSeconds 1) 4096) false).primary.rank ≤
        Code.runtimeError.rank := by
  have hworse : NoBetter killedEarly (.ofTime (.ofSeconds 1) 4096) killedLate
      (.ofTime (.ofSeconds 1) 4096) :=
    ⟨rfl, by decide, by decide, by decide, by decide, by decide, by decide⟩
  exact ⟨hworse, by decide, by decide, (judgeExit_of_noBetter hworse false).2.1⟩

end ContestJudge
