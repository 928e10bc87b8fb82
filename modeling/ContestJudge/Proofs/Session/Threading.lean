import Mathlib.Data.List.Forall2

/-!
# One thing after the other

A session does things one after the other, each in the world that the one before left behind.
`Threads` says what that comes to: everything is done once, in order, with an answer for each.

A step may have no answer, and then nothing after it is done. So a list of things is done, or there
is a first one that got stuck in the world that those before it left (`Threads.exists_or_stuck`).
What each step keeps of the world, and says of its answer, holds of the whole (`Threads.invariant`).
-/

namespace ContestJudge

variable {α β ω : Type}

/-- **Each thing is done once, in order**, from the world that the one before left behind. -/
inductive Threads (step : α → ω → Option (β × ω)) : List α → ω → List β → ω → Prop
  /-- Nothing is left to do. -/
  | nil {w} : Threads step [] w [] w
  /-- The first thing is done, and then the others. -/
  | cons {x xs y ys w₁ w₂ w₃} (first : step x w₁ = some (y, w₂)) (rest : Threads step xs w₂ ys w₃) :
      Threads step (x :: xs) w₁ (y :: ys) w₃

namespace Threads

variable {step : α → ω → Option (β × ω)} {xs xs' : List α} {ys : List β} {w w' : ω}

/-- **Two lists are done one after the other.** -/
theorem append_iff : Threads step (xs ++ xs') w ys w' ↔
    ∃ ys₁ w₁ ys₂, Threads step xs w ys₁ w₁ ∧ Threads step xs' w₁ ys₂ w' ∧ ys = ys₁ ++ ys₂ := by
  constructor
  · intro h
    induction xs generalizing w ys with
    | nil => exact ⟨[], w, ys, .nil, h, rfl⟩
    | cons x xs ih =>
      cases h with
      | cons first rest =>
        obtain ⟨ys₁, w₁, ys₂, hfront, hback, rfl⟩ := ih rest
        exact ⟨_, w₁, ys₂, .cons first hfront, hback, rfl⟩
  · rintro ⟨ys₁, w₁, ys₂, hfront, hback, rfl⟩
    induction hfront with
    | nil => exact hback
    | cons first rest ih => exact .cons first (ih hback)

/-- **Everything is done, or something has no answer** in the world that those before it left. -/
theorem exists_or_stuck (step : α → ω → Option (β × ω)) (xs : List α) (w : ω) :
    (∃ ys w', Threads step xs w ys w') ∨ ∃ front x rest ys w₁,
      xs = front ++ x :: rest ∧ Threads step front w ys w₁ ∧ step x w₁ = none := by
  induction xs generalizing w with
  | nil => exact .inl ⟨[], w, .nil⟩
  | cons x xs ih =>
    rcases hfirst : step x w with - | ⟨y, w₁⟩
    · exact .inr ⟨[], x, xs, [], w, rfl, .nil, hfirst⟩
    rcases ih w₁ with ⟨ys, w', h⟩ | ⟨front, x', rest, ys, w₂, rfl, h, hstuck⟩
    · exact .inl ⟨y :: ys, w', .cons hfirst h⟩
    · exact .inr ⟨x :: front, x', rest, y :: ys, w₂, rfl, .cons hfirst h, hstuck⟩

/-- **What every step keeps** holds at the end, and what it says of its answer holds of them all. -/
theorem invariant {I : ω → Prop} {R : α → β → Prop}
    (hstep : ∀ {x w y w'}, I w → step x w = some (y, w') → I w' ∧ R x y)
    (h : Threads step xs w ys w') (hw : I w) : I w' ∧ List.Forall₂ R xs ys := by
  induction h with
  | nil => exact ⟨hw, .nil⟩
  | cons first rest ih =>
    obtain ⟨hnext, hfirst⟩ := hstep hw first
    obtain ⟨hlast, hrest⟩ := ih hnext
    exact ⟨hlast, .cons hfirst hrest⟩

theorem forall₂ {R : α → β → Prop} (hstep : ∀ {x w y w'}, step x w = some (y, w') → R x y)
    (h : Threads step xs w ys w') : List.Forall₂ R xs ys := by
  induction h with
  | nil => exact .nil
  | cons first rest ih => exact .cons (hstep first) ih

end Threads

end ContestJudge
