import ContestJudge.FileTree.Operations
import ContestJudge.Proofs.Path.Reduction
import Mathlib.Data.List.Induction

/-!
# Staying inside, level by level

Whether a path stays inside a directory is decided on what is left once its steps have cancelled.
The same can be said of the path as it is written, by counting levels on the way: a name goes one
level down, `..` one level up, and the path stays inside if the count is never negative and positive
at the end (`StaysInside`).

* `Remainder.level_foldl_push` — the names left over are the count: as long as no step has gone up
  for good, there are as many of them as levels. The invariant has the steps up in it as well, so
  that it holds of every walk.
* `Remainder.climbs_foldl_push` — the first step that goes up for good is the first at which the
  count is negative. This is by induction from the end of the walk, since the count after a step
  depends on all steps before it.
* `staysInside_iff` — so the two agree, and `within?_isSome_iff` says it of the function that
  decides.
* `joinWithin_follows_walk` — what is joined are the names that lead from the directory to where the
  walk ends, from whatever directory.

Counting levels asks nothing of the file system: a walk through links may end elsewhere, and may
leave the directory. That is known where links are kept out of the way, and is not claimed here.
-/

namespace ContestJudge.Path

open FileTree (joinWithin)

/-! ### Levels -/

/-- How many levels a step goes down. -/
def Component.descent : Component → Int
  | .name _ => 1
  | .parent => -1
  | .root | .current => 0

/-- How many levels below its start a walk is. -/
def level : (walked : List Component) → Int
  | [] => 0
  | step :: rest => step.descent + level rest

theorem level_concat (walked : List Component) (step : Component) :
    level (walked ++ [step]) = level walked + step.descent := by
  induction walked with
  | nil => exact Int.add_comm _ _
  | cons first rest ih => rw [List.cons_append, level, ih, level, Int.add_assoc]

/-- **A path that stays inside**: it is relative, a walk along it is never above its start, and it
ends below it. -/
structure StaysInside (p : Path) : Prop where
  relative : p.isAbsolute = false
  never_above : ∀ walked, walked <+: p.components → 0 ≤ level walked
  ends_below : 0 < level p.components

namespace Remainder

variable {r : Remainder} {step : Component}

theorem level_push (r : Remainder) (step : Component) :
    ((r.push step).reversed.length : Int) - (r.push step).climbs =
      r.reversed.length - r.climbs + step.descent := by
  obtain ⟨rooted, climbs, reversed⟩ := r
  cases step with
  | name entry =>
    simp only [push, Component.descent, List.length_cons]
    omega
  | parent =>
    cases reversed <;> simp only [push, Component.descent, List.length_cons, List.length_nil] <;>
      omega
  | root => exact (Int.add_zero _).symm
  | current => exact (Int.add_zero _).symm

/-- **The names that are left are the levels** below the start, less the steps up. -/
theorem level_foldl_push (walked : List Component) (r : Remainder) :
    ((walked.foldl push r).reversed.length : Int) - (walked.foldl push r).climbs =
      r.reversed.length - r.climbs + level walked := by
  induction walked generalizing r with
  | nil => exact (Int.add_zero _).symm
  | cons step rest ih =>
    rw [List.foldl_cons, ih, level_push, level, Int.add_assoc]

theorem climbs_push (r : Remainder) (step : Component) :
    (r.push step).climbs = 0 ↔ r.climbs = 0 ∧ 0 ≤ r.reversed.length + step.descent := by
  obtain ⟨rooted, climbs, reversed⟩ := r
  cases step with
  | parent =>
    cases reversed <;> simp only [push, Component.descent, List.length_cons, List.length_nil] <;>
      omega
  | name entry | root | current =>
    simp only [push, Component.descent]
    omega

/-- **No step goes up for good** exactly if the walk is never above its start. -/
theorem climbs_foldl_push (walked : List Component) (rooted : Bool) :
    (walked.foldl push ⟨rooted, 0, []⟩).climbs = 0 ↔
      ∀ front, front <+: walked → 0 ≤ level front := by
  -- the last step is the only one whose level is new
  induction walked using List.reverseRecOn with
  | nil =>
    refine ⟨fun _ front hfront ↦ ?_, fun _ ↦ rfl⟩
    rw [List.prefix_nil.1 hfront]
    exact Int.le_refl _
  | append_singleton walked step ih =>
    have hlevel := level_foldl_push walked ⟨rooted, 0, []⟩
    simp only [List.length_nil] at hlevel
    rw [List.foldl_append, List.foldl_cons, List.foldl_nil, climbs_push, ih]
    constructor
    · rintro ⟨hbefore, hlast⟩ front hfront
      rcases List.prefix_concat_iff.1 hfront with rfl | hfront
      · have hnone := ih.2 hbefore
        rw [level_concat]
        omega
      · exact hbefore front hfront
    · intro h
      have hbefore : ∀ front, front <+: walked → 0 ≤ level front :=
        fun front hfront ↦ h front (hfront.trans (List.prefix_append _ _))
      have hnone := ih.2 hbefore
      have hlast := h _ (List.prefix_refl _)
      rw [level_concat] at hlast
      exact ⟨hbefore, by omega⟩

end Remainder

/-! ### What is left of a path that stays inside -/

variable {base p : Path}

/-- **What is left of a path that stays inside** are names, and nothing else. -/
theorem staysInside_iff :
    p.StaysInside ↔
      p.remainder.rooted = false ∧ p.remainder.climbs = 0 ∧ p.remainder.names ≠ [] := by
  have hclimbs : p.remainder.climbs = 0 ↔ ∀ walked, walked <+: p.components → 0 ≤ level walked :=
    Remainder.climbs_foldl_push _ _
  have hlevel : (p.remainder.reversed.length : Int) - p.remainder.climbs = level p.components := by
    rw [remainder, Remainder.level_foldl_push]
    exact Int.zero_add _
  have hlength : 0 < p.remainder.reversed.length ↔ p.remainder.names ≠ [] := by
    rw [List.length_pos_iff, Remainder.names, Ne, Ne, List.reverse_eq_nil_iff]
  rw [rooted_remainder, ← hlength]
  constructor
  · rintro ⟨hrelative, habove, hbelow⟩
    have hnone := hclimbs.2 habove
    exact ⟨hrelative, hnone, by omega⟩
  · rintro ⟨hrelative, hnone, hnames⟩
    exact ⟨hrelative, hclimbs.1 hnone, by omega⟩

theorem all_isName_normalSteps :
    p.normalSteps.all Component.isName = true ↔
      p.remainder.rooted = false ∧ p.remainder.climbs = 0 ∧ p.remainder.names ≠ [] := by
  rw [normalSteps_eq, Remainder.steps]
  cases p.remainder.rooted with
  | true => simp [Component.isName]
  | false =>
    cases p.remainder.climbs with
    | succ climbs => simp [List.replicate_succ, Component.isName]
    | zero => cases p.remainder.names <;> simp [Component.isName]

theorem names_eq (hroot : p.remainder.rooted = false) (hclimbs : p.remainder.climbs = 0) :
    p.names = p.remainder.names := by
  rw [names, normalSteps_eq, Remainder.steps, hroot, hclimbs]
  cases p.remainder.names with
  | nil => rfl
  | cons first rest => simp [Component.name?, List.filterMap_map, Function.comp_def]

/-- A path is kept inside exactly if it stays there. -/
theorem within?_isSome_iff : (base.within? p).isSome = true ↔ p.StaysInside := by
  rw [staysInside_iff, ← all_isName_normalSteps, within?, components_normal_eq]
  split
  next h => exact iff_of_true rfl h
  next h => exact iff_of_false Bool.false_ne_true h

/-- A walk along a path that stays inside ends below its start, wherever it starts. -/
theorem StaysInside.walkFrom (h : p.StaysInside) (start : Place) :
    p.walkFrom start = start ++ p.names := by
  obtain ⟨hroot, hclimbs, -⟩ := staysInside_iff.1 h
  rw [walkFrom_eq, Remainder.endFrom, hroot, hclimbs, names_eq hroot hclimbs, cond_false,
    Nat.sub_zero, List.take_length]

/-! ### Joining -/

theorem components_normal_of_staysInside (h : p.StaysInside) :
    p.normal.components = p.names.map .name := by
  have hall := all_isName_normalSteps.2 (staysInside_iff.1 h)
  rw [components_normal_eq, names, map_name_filterMap hall]

/-- What is joined is read behind the directory, name by name. -/
theorem components_join_normal (h : p.StaysInside) :
    (base.join p.normal).components = base.components ++ p.names.map .name := by
  obtain ⟨hroot, hclimbs, -⟩ := staysInside_iff.1 h
  have hcomponents := components_normal_of_staysInside h
  have hplain : ∀ step ∈ p.names.map Component.name, step.IsPlain := by
    rw [names_eq hroot hclimbs]
    exact List.forall_mem_map.2 fun _ ↦ isName_of_mem_names_remainder
  rw [components_join base (lead_of_components hcomponents hplain), hcomponents]

theorem joinWithin_eq_ok_iff {path : Path} :
    joinWithin base p = .ok path ↔ base.within? p = some path := by
  rw [joinWithin]
  cases base.within? p <;> simp

theorem eq_escaping_of_joinWithin {fault : FileFault} (h : joinWithin base p = .error fault) :
    fault = .escaping p := by
  rw [joinWithin] at h
  cases hwithin : base.within? p with
  | some path =>
    rw [hwithin] at h
    cases h
  | none =>
    rw [hwithin] at h
    exact (Except.error.inj h).symm

/-- **Joining inside a directory follows the walk.** It succeeds exactly for the paths that stay
inside. What is joined to the directory are the names that lead from it to where the walk ends; a
path that does not stay inside is told as it is. -/
theorem joinWithin_follows_walk (base p : Path) :
    ((∃ path, joinWithin base p = .ok path) ↔ p.StaysInside) ∧
      (∀ path, joinWithin base p = .ok path →
        ∃ names : List String, names ≠ [] ∧ (∀ name ∈ names, IsName name) ∧
          (∀ start, p.walkFrom start = start ++ names) ∧
          path = base.join ⟨"/".intercalate names⟩ ∧
          path.components = base.components ++ names.map .name) ∧
      ∀ fault, joinWithin base p = .error fault → fault = .escaping p := by
  refine ⟨?_, fun path hpath ↦ ?_, fun fault ↦ eq_escaping_of_joinWithin⟩
  · simp only [joinWithin_eq_ok_iff, ← Option.isSome_iff_exists]
    exact within?_isSome_iff
  · have hwithin := joinWithin_eq_ok_iff.1 hpath
    have hinside : p.StaysInside := within?_isSome_iff.1 (Option.isSome_of_mem hwithin)
    obtain ⟨hne, hnames, htext⟩ := names_of_within? hwithin
    have hnormal : path = base.join p.normal := by
      rw [within?, Option.ite_none_right_eq_some] at hwithin
      exact (Option.some.inj hwithin.2).symm
    refine ⟨p.names, hne, hnames, hinside.walkFrom, htext, ?_⟩
    rw [hnormal, components_join_normal hinside]

/-- A detour that stays inside is joined without it. One that leaves the directory is refused even
though it comes back. -/
theorem joinWithin_follows_walk_detour :
    joinWithin ⟨"/tmp/box"⟩ ⟨"./x/../b.txt"⟩ = .ok ⟨"/tmp/box/b.txt"⟩ ∧
      (∀ start, walkFrom start ⟨"./x/../b.txt"⟩ = start ++ ["b.txt"]) ∧
      ¬StaysInside ⟨"../box/b.txt"⟩ ∧
      joinWithin ⟨"/tmp/box"⟩ ⟨"../box/b.txt"⟩ = .error (.escaping ⟨"../box/b.txt"⟩) := by
  have hdetour : joinWithin ⟨"/tmp/box"⟩ ⟨"./x/../b.txt"⟩ = .ok ⟨"/tmp/box/b.txt"⟩ := by decide
  obtain ⟨names, -, -, hwalk, -⟩ := (joinWithin_follows_walk _ _).2.1 _ hdetour
  obtain rfl : names = ["b.txt"] := by
    have hroot := hwalk []
    rw [List.nil_append] at hroot
    exact hroot.symm.trans (by decide)
  have houtside : ¬StaysInside ⟨"../box/b.txt"⟩ := by
    intro h
    have habove := h.never_above [.parent] (by decide)
    exact absurd habove (by decide)
  refine ⟨hdetour, hwalk, houtside, ?_⟩
  cases hresult : joinWithin ⟨"/tmp/box"⟩ ⟨"../box/b.txt"⟩ with
  | ok path => exact absurd ((joinWithin_follows_walk _ _).1.1 ⟨path, hresult⟩) houtside
  | error fault => rw [(joinWithin_follows_walk _ _).2.2 fault hresult]

end ContestJudge.Path
