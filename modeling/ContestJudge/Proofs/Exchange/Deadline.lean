import ContestJudge.Exchange.Run

/-!
# The deadline on the clock

The clock of an exchange ticks in whole milliseconds, while a wall time limit is a number of
nanoseconds. So the deadline falls on the first tick that is no earlier than the limit and the grace
time together (`ceilMillis_le_iff`).

* `deadlineOf_budget_eq_some_iff` — a span that the clock can hold has exactly that deadline; the
  cap on sums of durations plays no part in it.
* `deadlineOf_budget_le_iff` — what is in time can be said in nanoseconds, without rounding.
* `le_ofMillis_of_deadline` — a process that is killed at the deadline has used up its limit.

Spans that reach beyond the end of the clock have no deadline, and exchanges under them are not
bounded by anything. `WithinClock` rules them out where that matters; the limits that can be written
down in practice are within the clock by far.
-/

namespace ContestJudge

namespace Duration

theorem le_iff {a b : Duration} : a ≤ b ↔ a.nanoseconds ≤ b.nanoseconds := Iff.rfl

@[simp] theorem nanoseconds_ofMillis (t : Nat) : (ofMillis t).nanoseconds = t * 1000000 := rfl

/-- The milliseconds that cover a duration are the **least** that do. -/
theorem ceilMillis_le_iff {d : Duration} {t : Nat} : d.ceilMillis ≤ t ↔ d ≤ ofMillis t := by
  rw [le_iff, nanoseconds_ofMillis, ceilMillis]
  omega

theorem le_ofMillis_ceilMillis (d : Duration) : d ≤ ofMillis d.ceilMillis :=
  ceilMillis_le_iff.1 (Nat.le_refl _)

/-- Whole milliseconds are covered by themselves. -/
@[simp] theorem ceilMillis_ofMillis (t : Nat) : (ofMillis t).ceilMillis = t := by
  rw [ceilMillis, nanoseconds_ofMillis]
  omega

end Duration

namespace Exchange

/-- The clock can hold a wall time limit together with the grace time. -/
def WithinClock (wallTime : Duration) : Prop := (budget wallTime).seconds < clockEnd

instance (wallTime : Duration) : Decidable (WithinClock wallTime) :=
  inferInstanceAs (Decidable ((budget wallTime).seconds < clockEnd))

theorem deadlineOf_budget_eq_some_iff {wallTime : Duration} {d : Nat} :
    deadlineOf (budget wallTime) = some d ↔
      WithinClock wallTime ∧ (budget wallTime).ceilMillis = d := by
  unfold deadlineOf WithinClock
  split <;> simp [*]

theorem deadlineOf_of_withinClock {wallTime : Duration} (h : WithinClock wallTime) :
    deadlineOf (budget wallTime) = some (budget wallTime).ceilMillis :=
  deadlineOf_budget_eq_some_iff.2 ⟨h, rfl⟩

/-- **Within the clock nothing is capped**: the budget is the sum of limit and grace time. -/
theorem nanoseconds_budget {wallTime : Duration} (h : WithinClock wallTime) :
    (budget wallTime).nanoseconds = wallTime.nanoseconds + grace.nanoseconds := by
  have hclock : (budget wallTime).nanoseconds / 1000000000 < clockEnd := h
  have hend : clockEnd = 9223372036854775808 := by decide
  have hlongest : Duration.longest.nanoseconds = 18446744073709551615999999999 := by decide
  simp only [budget, Duration.addCapped] at hclock ⊢
  omega

/-- **The deadline is the first millisecond** at which the limit and the grace time are over. -/
theorem deadlineOf_budget_le_iff {wallTime : Duration} {d t : Nat}
    (h : deadlineOf (budget wallTime) = some d) :
    d ≤ t ↔ wallTime.nanoseconds + grace.nanoseconds ≤ t * 1000000 := by
  obtain ⟨hclock, rfl⟩ := deadlineOf_budget_eq_some_iff.1 h
  rw [Duration.ceilMillis_le_iff, Duration.le_iff, nanoseconds_budget hclock,
    Duration.nanoseconds_ofMillis]

/-- **The deadline spares nobody**: whoever lives until then has used up the wall time limit. -/
theorem le_ofMillis_of_deadline {wallTime : Duration} {d : Nat}
    (h : deadlineOf (budget wallTime) = some d) : wallTime ≤ .ofMillis d := by
  obtain ⟨hclock, rfl⟩ := deadlineOf_budget_eq_some_iff.1 h
  have hcover := Duration.le_ofMillis_ceilMillis (budget wallTime)
  rw [Duration.le_iff, nanoseconds_budget hclock] at hcover
  rw [Duration.le_iff]
  omega

end Exchange

end ContestJudge
