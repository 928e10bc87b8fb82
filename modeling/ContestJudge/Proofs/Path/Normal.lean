import ContestJudge.Proofs.FileTree.Places
import ContestJudge.Proofs.FileTree.Walking
import ContestJudge.Proofs.Path.Reduction

/-!
# Normal forms

A path and its normal form leave the same remainder, and a remainder is all that a walk and a normal
form depend on. So normal forms keep the meaning of paths. For relative paths they are unique, as a
remainder can be told from where it leads: from the root it leads to its names, and from far enough
below the root it shows how many steps go up (`Remainder.eq_of_endFrom`).

What is called a walk here is what a file tree does that has no links (`walkFrom_of_resolve`): a
walk of the tree that meets no link leads where its steps lead, by induction on the walk, and the
tree reads the same steps in a text as the path does. So a path and its normal form lead to the same
place of such a tree, if both lead anywhere (`resolve_normal`). That both do is not claimed: a
normal form drops steps through directories that may be missing.

Absolute paths are left out of the uniqueness. Steps up from the root lead nowhere else, but they
are written, so `/..` and `/` have two normal forms with the same walk. `normal_canonical` has the
equivalence for relative paths, and everything else for all.
-/

namespace ContestJudge.Path

open FileTree (IsPlace Step Walks isPlace_nil)

variable {p q : Path}

/-! ### Unique normal forms -/

/-- **The steps of a normal form**: a `.` alone, or perhaps the root, then steps up, then names. -/
inductive IsNormal : List Component → Prop
  | current : IsNormal [.current]
  | steps {rooted : Bool} {climbs : Nat} {names : List String} (hnames : ∀ name ∈ names, IsName name)
      (hsome : rooted = true ∨ climbs ≠ 0 ∨ names ≠ []) :
      IsNormal ((bif rooted then [.root] else []) ++
        (List.replicate climbs .parent ++ names.map .name))

theorem isNormal_normalSteps (p : Path) : IsNormal p.normalSteps := by
  rw [normalSteps_eq]
  split
  · exact .current
  next hsome =>
    refine .steps (fun _ ↦ isName_of_mem_names_remainder) ?_
    by_contra hnone
    simp only [not_or, Bool.not_eq_true, not_not] at hnone
    obtain ⟨hrooted, hclimbs, hnames⟩ := hnone
    rw [Remainder.steps, hrooted, hclimbs, hnames] at hsome
    exact hsome rfl

/-- **A remainder can be told from where it leads.** -/
theorem Remainder.eq_of_endFrom {r s : Remainder} (hr : r.rooted = false) (hs : s.rooted = false)
    (h : ∀ start, IsPlace start → r.endFrom start = s.endFrom start) : r = s := by
  have hnames : r.names = s.names := by
    have hroot := h [] isPlace_nil
    rwa [endFrom, endFrom, hr, hs, cond_false, List.take_nil, List.take_nil, List.nil_append,
      List.nil_append] at hroot
  have hclimbs : r.climbs = s.climbs := by
    -- so far down that all steps up can be told apart
    let start := List.replicate (max r.climbs s.climbs) "x"
    have hstart : IsPlace start := by
      intro name hname
      rw [List.eq_of_mem_replicate hname]
      decide
    have hlength := congrArg List.length (h start hstart)
    rw [endFrom, endFrom, hr, hs, hnames] at hlength
    simp only [cond_false, List.length_append, List.length_take, start, List.length_replicate]
      at hlength
    omega
  obtain ⟨rooted, climbs, reversed⟩ := r
  obtain ⟨rooted', climbs', reversed'⟩ := s
  obtain rfl : rooted = rooted' := hr.trans hs.symm
  obtain rfl : climbs = climbs' := hclimbs
  obtain rfl : reversed = reversed' := List.reverse_inj.1 hnames
  rfl

theorem normal_eq_iff : p.normal = q.normal ↔ p.remainder = q.remainder := by
  constructor
  · intro h
    rw [← remainder_normal p, h, remainder_normal]
  · intro h
    rw [normal, normal, normalSteps_eq, normalSteps_eq, h]

/-- A normal form leads where the path leads. -/
theorem walkFrom_normal (start : Place) (p : Path) : p.normal.walkFrom start = p.walkFrom start := by
  rw [walkFrom_eq, walkFrom_eq, remainder_normal]

/-! ### Walks in a tree -/

/-- Where a step of a tree leads from a place, if no link is met. -/
def followStep (place : Place) : Step → Place
  | .up => place.dropLast
  | .stay | .slash => place
  | .into name => place ++ [name]

variable {t : FileTree} {followLast : Bool}

/-- A tree without links. -/
def Linkless (t : FileTree) : Prop := ∀ place target, t.get? place ≠ some (.link target)

/-- A walk that meets no link leads where its steps lead. -/
theorem Linkless.found_of_walks (hlinkless : Linkless t) {links : Nat} {place found : Place}
    {entry : Entry} {path : List Step}
    (h : Walks t followLast links place path (.existing found entry)) :
    found = path.foldl followStep place := by
  generalize hresult : FileTree.Target.existing found entry = result at h
  induction h with
  | done => exact (FileTree.Target.existing.inj hresult).1
  | stay _ ih => exact ih hresult
  | slash _ ih => exact ih hresult
  | up _ ih => exact ih hresult
  | missing => exact nomatch hresult
  | missingSlash => exact nomatch hresult
  | directory _ _ _ ih => exact ih hresult
  | link _ present => exact absurd present (hlinkless _ _)
  | follow _ present => exact absurd present (hlinkless _ _)
  | entry => exact (FileTree.Target.existing.inj hresult).1

/-- The tree and the path read the same steps in a text, apart from those that lead nowhere. -/
theorem foldl_followStep (parts : List (List Char)) (place : Place) :
    (parts.filterMap Step.ofPart).foldl followStep place =
      (parts.filterMap componentOfPart).foldl Component.follow place := by
  induction parts generalizing place with
  | nil => rfl
  | cons part rest ih =>
    rw [List.filterMap_cons, List.filterMap_cons]
    by_cases hempty : part = []
    · rw [Step.ofPart, componentOfPart, if_pos hempty, if_pos (.inl hempty)]
      exact ih place
    · by_cases hcurrent : part = ['.']
      · rw [Step.ofPart, componentOfPart, if_neg hempty, if_pos hcurrent, if_pos (.inr hcurrent)]
        exact ih place
      · rw [Step.ofPart, componentOfPart, if_neg hempty, if_neg hcurrent,
          if_neg (not_or.2 ⟨hempty, hcurrent⟩)]
        by_cases hparent : part = ['.', '.']
        · rw [if_pos hparent, if_pos hparent]
          exact ih _
        · rw [if_neg hparent, if_neg hparent]
          exact ih _

/-- **What a path leads to in a tree without links** lies where its walk ends. -/
theorem walkFrom_of_resolve (hlinkless : Linkless t) {found : Place} {entry : Entry}
    (h : t.resolve followLast p = .ok (.existing found entry)) : found = p.walkFrom t.current := by
  have hwalk := ((FileTree.resolve_eq_ok_iff_walk (FileTree.text_ne_empty_of_resolve h)).1 h).2
  have hfound := hlinkless.found_of_walks (FileTree.walk_eq_ok_iff.1 hwalk)
  have hslash : ∀ place, (if p.text.toList.getLast? = some '/' then [Step.slash] else []).foldl
      followStep place = place := by
    intro place
    split <;> rfl
  have hlead : p.lead.foldl Component.follow t.current =
      if FileTree.startsAtRoot p.text then [] else t.current := by
    have hstart : FileTree.startsAtRoot p.text = p.isAbsolute := rfl
    rw [hstart]
    rcases p.lead_cases with ⟨hroot, hlead⟩ | ⟨hroot, hlead | hlead⟩ <;> rw [hroot, hlead] <;> rfl
  rw [hfound, FileTree.steps, List.foldl_append, hslash, foldl_followStep, walkFrom, components_eq,
    List.foldl_append, hlead]
  rfl

/-- In a tree without links, a path and its normal form lead to the same place, if both lead
anywhere. -/
theorem resolve_normal (hlinkless : Linkless t) {found found' : Place} {entry entry' : Entry}
    (h : t.resolve followLast p = .ok (.existing found entry))
    (h' : t.resolve followLast p.normal = .ok (.existing found' entry')) : found' = found := by
  rw [walkFrom_of_resolve hlinkless h, walkFrom_of_resolve hlinkless h', walkFrom_normal]

/-! ### Both together -/

/-- **Normal forms.** A normal form is written as one and is its own; it leads from every place where
the path leads. Relative paths with the same normal form are those that lead from every directory to
the same place. In a tree without links, the place where a normal form leads is the one where the
path leads, if both lead anywhere. -/
theorem normal_canonical (p q : Path) :
    IsNormal p.normal.components ∧ p.normal = ofComponents p.normal.components ∧
      p.normal.normal = p.normal ∧ (∀ start, p.normal.walkFrom start = p.walkFrom start) ∧
      (p.isAbsolute = false → q.isAbsolute = false →
        (p.normal = q.normal ↔
          ∀ start, IsPlace start → p.walkFrom start = q.walkFrom start)) ∧
      ∀ {t : FileTree} {followLast : Bool} {found found' : Place} {entry entry' : Entry},
        Linkless t → t.resolve followLast p = .ok (.existing found entry) →
          t.resolve followLast p.normal = .ok (.existing found' entry') → found' = found := by
  have hsteps : p.normal.components = p.normalSteps := components_normal_eq p
  refine ⟨hsteps ▸ isNormal_normalSteps p, hsteps ▸ rfl, ?_, fun start ↦ walkFrom_normal start p,
    fun hp hq ↦ ?_, fun hlinkless h h' ↦ resolve_normal hlinkless h h'⟩
  · rw [normal_eq_iff, remainder_normal]
  · simp only [normal_eq_iff, walkFrom_eq]
    constructor
    · exact fun h start _ ↦ by rw [h]
    · exact Remainder.eq_of_endFrom ((rooted_remainder p).trans hp) ((rooted_remainder q).trans hq)

/-- Two ways around that go up once for good, to the same name. -/
theorem normal_canonical_around :
    (⟨"a/../../b"⟩ : Path).normal = ⟨"../b"⟩ ∧ (⟨"./..//c/../b/"⟩ : Path).normal = ⟨"../b"⟩ ∧
      ∀ start, IsPlace start → walkFrom start ⟨"a/../../b"⟩ = walkFrom start ⟨"./..//c/../b/"⟩ := by
  have hleft : (⟨"a/../../b"⟩ : Path).normal = ⟨"../b"⟩ := by decide
  have hright : (⟨"./..//c/../b/"⟩ : Path).normal = ⟨"../b"⟩ := by decide
  have hunique := (normal_canonical ⟨"a/../../b"⟩ ⟨"./..//c/../b/"⟩).2.2.2.2.1 (by decide)
    (by decide)
  exact ⟨hleft, hright, hunique.1 (hleft.trans hright.symm)⟩

end ContestJudge.Path
