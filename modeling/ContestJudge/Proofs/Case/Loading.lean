import ContestJudge.Case.Basic

/-!
# Cases whose data is read on the way

The data of a case is read when it is first wanted and kept in the case. So a case changes while it
is judged, but in nothing that anyone could tell: `Case.Loads` says that a case is the same as
before, save for data that was read since.

The relation is an order, so it is carried along a whole session (`Case.Loads.trans`), and each
single access is a step of it (`Case.Loads.of_input`, `Case.Loads.of_expected`). It says nothing of
what was read: that the content is the one that the file had is for those who know the files.
-/

namespace ContestJudge

/-- A source is the same as before, save that it may keep what was read since. -/
structure DataSource.Loads (s s' : DataSource) : Prop where
  path : s'.path? = s.path?
  kept : ∀ content, s.kept? = some content → s'.kept? = some content

namespace DataSource.Loads

variable {s s' s'' : DataSource}

theorem refl (s : DataSource) : s.Loads s := ⟨rfl, fun _ h ↦ h⟩

theorem trans (h : s.Loads s') (h' : s'.Loads s'') : s.Loads s'' :=
  ⟨h'.path.trans h.path, fun content hkept ↦ h'.kept content (h.kept content hkept)⟩

/-- Reading a source keeps it. -/
theorem of_bytes (files : FileTree) (s : DataSource) : s.Loads (s.bytes files).2 := by
  rcases s with content | ⟨path, - | kept⟩
  · exact refl _
  · rw [bytes]
    split <;> exact ⟨rfl, nofun⟩
  · exact refl _

end DataSource.Loads

/-- **A case is the same as before**, save that it may keep data that was read since. -/
structure Case.Loads (c c' : Case) : Prop where
  rest : c' = { c with
    data := { c.data with input := c'.data.input, expected := c'.data.expected } }
  input : c.data.input.Loads c'.data.input
  expected : Option.Rel DataSource.Loads c.data.expected c'.data.expected

namespace Case.Loads

variable {c c' c'' : Case}

theorem refl (c : Case) : c.Loads c := by
  refine ⟨rfl, .refl _, ?_⟩
  cases c.data.expected with
  | none => exact .none
  | some source => exact .some (.refl source)

theorem trans (h : c.Loads c') (h' : c'.Loads c'') : c.Loads c'' := by
  refine ⟨?_, h.input.trans h'.input, ?_⟩
  · rw [h'.rest, h.rest]
  · have hexpected := h.expected
    have hexpected' := h'.expected
    generalize c.data.expected = before at *
    generalize c'.data.expected = between at *
    generalize c''.data.expected = after at *
    cases hexpected with
    | none =>
      cases hexpected'
      exact .none
    | some h =>
      cases hexpected' with
      | some h' => exact .some (h.trans h')

/-- Reading the input keeps the case. -/
theorem of_input (files : FileTree) (c : Case) : c.Loads (c.input files).2 :=
  ⟨rfl, .of_bytes files _, (refl c).expected⟩

/-- Reading the expected output keeps the case. -/
theorem of_expected (files : FileTree) (c : Case) : c.Loads (c.expected files).2 := by
  rw [Case.expected]
  split
  · exact refl c
  · next source hsource =>
    refine ⟨rfl, .refl _, ?_⟩
    rw [hsource]
    exact .some (.of_bytes files source)

end Case.Loads

end ContestJudge
