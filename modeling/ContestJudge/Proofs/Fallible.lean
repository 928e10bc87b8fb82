import Mathlib.Tactic.Common

/-!
# Computations that may fail

A computation in steps succeeds exactly when all of its steps do, and what every step keeps holds at
its end (`foldlM_invariant`). A run over a list fails at the first step that does
(`foldlM_eq_error_iff`), so nothing is known of the steps behind it.

Where several things can be wrong at once, `Reports` says which is told: a computation is given with
the list of all its faults, in the order of its checks, and fails with the first of them. Faults of
steps that are bound together stand one after the other (`Reports.bind`), also those of a step that
is never reached, so the list does not depend on where the computation stops.
-/

namespace ContestJudge

variable {ε ε' α β σ : Type _}

theorem toBool_eq_true_iff {x : Except ε α} : x.toBool = true ↔ ∃ a, x = .ok a := by
  rcases x with e | a
  · exact ⟨nofun, nofun⟩
  · exact ⟨fun _ ↦ ⟨a, rfl⟩, fun _ ↦ rfl⟩

theorem toOption_eq_some_iff {x : Except ε α} {a : α} : x.toOption = some a ↔ x = .ok a := by
  rcases x with e | a'
  · exact ⟨nofun, nofun⟩
  · exact ⟨fun h ↦ congrArg Except.ok (Option.some.inj h), fun h ↦ congrArg some (Except.ok.inj h)⟩

/-- A computation in two steps succeeds when both of them do. -/
theorem bind_eq_ok_iff {x : Except ε α} {f : α → Except ε β} {b : β} :
    (x >>= f) = .ok b ↔ ∃ a, x = .ok a ∧ f a = .ok b := by
  rcases x with e | a
  · exact ⟨nofun, fun ⟨_, h, _⟩ ↦ nomatch h⟩
  · exact ⟨fun h ↦ ⟨a, rfl, h⟩, fun ⟨_, h, hf⟩ ↦ Except.ok.inj h ▸ hf⟩

/-- A computation in two steps fails when one of them does. -/
theorem bind_eq_error_iff {x : Except ε α} {f : α → Except ε β} {e : ε} :
    (x >>= f) = .error e ↔ x = .error e ∨ ∃ a, x = .ok a ∧ f a = .error e := by
  rcases x with e' | a
  · exact ⟨fun h ↦ .inl (congrArg Except.error (Except.error.inj h)),
      fun h ↦ h.elim (fun h ↦ congrArg Except.error (Except.error.inj h)) nofun⟩
  · exact ⟨fun h ↦ .inr ⟨a, rfl, h⟩,
      fun h ↦ h.elim nofun fun ⟨_, h, hf⟩ ↦ Except.ok.inj h ▸ hf⟩

/-- Renaming a fault plays no part in when a computation succeeds. -/
theorem mapError_eq_ok_iff {x : Except ε α} {rename : ε → ε'} {a : α} :
    x.mapError rename = .ok a ↔ x = .ok a := by
  rcases x with e | a'
  · exact ⟨nofun, nofun⟩
  · exact ⟨fun h ↦ congrArg Except.ok (Except.ok.inj h),
      fun h ↦ congrArg Except.ok (Except.ok.inj h)⟩

theorem mapError_eq_error_iff {x : Except ε α} {rename : ε → ε'} {e' : ε'} :
    x.mapError rename = .error e' ↔ ∃ e, x = .error e ∧ rename e = e' := by
  rcases x with e | a
  · exact ⟨fun h ↦ ⟨e, rfl, Except.error.inj h⟩,
      fun ⟨_, h, hrename⟩ ↦ congrArg Except.error (Except.error.inj h ▸ hrename)⟩
  · exact ⟨nofun, nofun⟩

theorem map_eq_ok_iff {x : Except ε α} {f : α → β} {b : β} :
    x.map f = .ok b ↔ ∃ a, x = .ok a ∧ f a = b := by
  rcases x with e | a
  · exact ⟨nofun, nofun⟩
  · exact ⟨fun h ↦ ⟨a, rfl, Except.ok.inj h⟩,
      fun ⟨_, h, hf⟩ ↦ congrArg Except.ok (Except.ok.inj h ▸ hf)⟩

theorem map_eq_error_iff {x : Except ε α} {f : α → β} {e : ε} :
    x.map f = .error e ↔ x = .error e := by
  rcases x with e' | a
  · exact ⟨fun h ↦ congrArg Except.error (Except.error.inj h),
      fun h ↦ congrArg Except.error (Except.error.inj h)⟩
  · exact ⟨nofun, nofun⟩

/-- Steps that leave nothing behind succeed when each of them does. -/
theorem forM_eq_ok_iff {step : α → Except ε PUnit} {l : List α} :
    l.forM step = .ok ⟨⟩ ↔ ∀ a ∈ l, step a = .ok ⟨⟩ := by
  rw [List.forM_eq_forM]
  induction l with
  | nil => exact iff_of_true rfl nofun
  | cons a rest ih =>
    rw [List.forM_cons, bind_eq_ok_iff, List.forall_mem_cons, ← ih]
    constructor
    · rintro ⟨⟨⟩, hfirst, hrest⟩
      exact ⟨hfirst, hrest⟩
    · rintro ⟨hfirst, hrest⟩
      exact ⟨⟨⟩, hfirst, hrest⟩

/-- Each result comes from one of the elements. -/
theorem exists_of_mem_mapM {f : α → Except ε β} {l : List α} {results : List β}
    (h : l.mapM f = .ok results) {b : β} (hb : b ∈ results) : ∃ a ∈ l, f a = .ok b := by
  induction l generalizing results with
  | nil =>
    obtain rfl := Except.ok.inj h
    exact absurd hb List.not_mem_nil
  | cons a rest ih =>
    rw [List.mapM_cons] at h
    obtain ⟨first, hfirst, h⟩ := bind_eq_ok_iff.1 h
    obtain ⟨others, hothers, h⟩ := bind_eq_ok_iff.1 h
    obtain rfl := Except.ok.inj h
    rcases List.mem_cons.1 hb with rfl | hb
    · exact ⟨a, List.mem_cons_self, hfirst⟩
    · obtain ⟨a', ha', hresult⟩ := ih hothers hb
      exact ⟨a', List.mem_cons_of_mem _ ha', hresult⟩

/-- Each element has its result. -/
theorem forall₂_of_mapM {f : α → Except ε β} {l : List α} {results : List β}
    (h : l.mapM f = .ok results) : List.Forall₂ (fun a b ↦ f a = .ok b) l results := by
  induction l generalizing results with
  | nil =>
    obtain rfl := Except.ok.inj h
    exact .nil
  | cons a rest ih =>
    rw [List.mapM_cons] at h
    obtain ⟨first, hfirst, h⟩ := bind_eq_ok_iff.1 h
    obtain ⟨others, hothers, h⟩ := bind_eq_ok_iff.1 h
    obtain rfl := Except.ok.inj h
    exact .cons hfirst (ih hothers)

/-- What a relation says of the items on its right holds of them all. -/
theorem forall_mem_of_forall₂ {R : α → β → Prop} {P : β → Prop} {l : List α}
    {l' : List β} (hR : ∀ a b, R a b → P b) (h : List.Forall₂ R l l') : ∀ b ∈ l', P b := by
  induction h with
  | nil => exact nofun
  | cons hab _ ih => exact List.forall_mem_cons.2 ⟨hR _ _ hab, ih⟩

/-- If every element has a result, so has the list. -/
theorem exists_mapM {f : α → Except ε β} {l : List α} (h : ∀ a ∈ l, ∃ b, f a = .ok b) :
    ∃ results, l.mapM f = .ok results := by
  induction l with
  | nil => exact ⟨[], rfl⟩
  | cons a rest ih =>
    obtain ⟨hfirst, hrest⟩ := List.forall_mem_cons.1 h
    obtain ⟨first, hfirst⟩ := hfirst
    obtain ⟨others, hothers⟩ := ih hrest
    refine ⟨first :: others, ?_⟩
    rw [List.mapM_cons]
    exact bind_eq_ok_iff.2 ⟨first, hfirst, bind_eq_ok_iff.2 ⟨others, hothers, rfl⟩⟩

theorem length_of_mapM {f : α → Except ε β} {l : List α} {results : List β}
    (h : l.mapM f = .ok results) : results.length = l.length := by
  induction l generalizing results with
  | nil =>
    obtain rfl := Except.ok.inj h
    rfl
  | cons a rest ih =>
    rw [List.mapM_cons] at h
    obtain ⟨first, _, h⟩ := bind_eq_ok_iff.1 h
    obtain ⟨others, hothers, h⟩ := bind_eq_ok_iff.1 h
    obtain rfl := Except.ok.inj h
    exact congrArg (· + 1) (ih hothers)

/-- **What every step keeps** holds at the end. What is kept may speak of the steps to come. -/
theorem foldlM_invariant {step : σ → α → Except ε σ} {I : List α → σ → Prop}
    (hstep : ∀ {a rest s s'}, I (a :: rest) s → step s a = .ok s' → I rest s') {l : List α}
    {s s' : σ} (hs : I l s) (h : l.foldlM step s = .ok s') : I [] s' := by
  induction l generalizing s with
  | nil =>
    obtain rfl := Except.ok.inj h
    exact hs
  | cons a rest ih =>
    rw [List.foldlM_cons] at h
    obtain ⟨between, hfirst, hrest⟩ := bind_eq_ok_iff.1 h
    exact ih (hstep hs hfirst) hrest

/-- A run fails at the first step that does. -/
theorem foldlM_eq_error_iff {step : σ → α → Except ε σ} {l : List α} {s : σ} {e : ε} :
    l.foldlM step s = .error e ↔ ∃ before a after between, l = before ++ a :: after ∧
      before.foldlM step s = .ok between ∧ step between a = .error e := by
  induction l generalizing s with
  | nil => simp [pure, Except.pure]
  | cons a rest ih =>
    rw [List.foldlM_cons, bind_eq_error_iff]
    constructor
    · rintro (hfirst | ⟨next, hfirst, hrest⟩)
      · exact ⟨[], a, rest, s, rfl, rfl, hfirst⟩
      · obtain ⟨before, bad, after, between, rfl, hbefore, hbad⟩ := ih.1 hrest
        refine ⟨a :: before, bad, after, between, rfl, ?_, hbad⟩
        rw [List.foldlM_cons]
        exact bind_eq_ok_iff.2 ⟨next, hfirst, hbefore⟩
    -- either nothing comes before the step that fails, or the first step succeeds
    · rintro ⟨- | ⟨first, before⟩, bad, after, between, hl, hbefore, hbad⟩
      · obtain ⟨rfl, rfl⟩ := List.cons.inj hl
        obtain rfl := Except.ok.inj hbefore
        exact .inl hbad
      · obtain ⟨rfl, rfl⟩ := List.cons.inj hl
        rw [List.foldlM_cons] at hbefore
        obtain ⟨next, hfirst, hbefore⟩ := bind_eq_ok_iff.1 hbefore
        exact .inr ⟨next, hfirst, ih.2 ⟨before, bad, after, between, rfl, hbefore, hbad⟩⟩

/-! ### The first of some faults -/

/-- A computation that succeeds if there are no faults, and otherwise fails with the first. -/
def Reports (x : Except ε α) : List ε → Prop
  | [] => ∃ a, x = .ok a
  | fault :: _ => x = .error fault

namespace Reports

variable {x : Except ε α} {faults more : List ε}

theorem eq_error_iff (h : Reports x faults) {e : ε} :
    x = .error e ↔ faults.head? = some e := by
  cases faults with
  | nil =>
    obtain ⟨a, rfl⟩ := h
    exact ⟨nofun, nofun⟩
  | cons fault rest =>
    obtain rfl : x = .error fault := h
    exact ⟨fun h ↦ congrArg some (Except.error.inj h),
      fun h ↦ congrArg Except.error (Option.some.inj h)⟩

/-- **Checks in order**: the faults of the first step come before those of the second. -/
theorem bind {f : α → Except ε β} (h : Reports x faults)
    (hf : ∀ a, x = .ok a → Reports (f a) more) : Reports (x >>= f) (faults ++ more) := by
  cases faults with
  | nil =>
    obtain ⟨a, rfl⟩ := h
    exact hf a rfl
  | cons fault rest =>
    obtain rfl : x = .error fault := h
    rfl

/-- A last step that cannot fail adds no faults. -/
theorem bind_pure {f : α → β} (h : Reports x faults) :
    Reports (do return f (← x) : Except ε β) faults := by
  cases faults with
  | nil =>
    obtain ⟨a, rfl⟩ := h
    exact ⟨f a, rfl⟩
  | cons fault rest =>
    obtain rfl : x = .error fault := h
    rfl

end Reports

end ContestJudge
