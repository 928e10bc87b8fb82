import ContestJudge.FileTree.Basic
import ContestJudge.Proofs.Path.Joined

/-!
# Where a path leads

Walked step by step, a path goes down into what it names and up again. All that matters of the steps
walked so far is a `Remainder`: whether they started at the root, how many of them still go up, and
the names that still go down after these. A step up takes back the last name, and only when there is
none left it goes up for good.

Both ways to read a path keep to its remainder. Cancelling steps leaves exactly the steps of the
remainder (`normalSteps_eq`), and a walk ends where the remainder does (`walkFrom_eq`). Since the
steps of a remainder leave that remainder again (`Remainder.foldl_push_steps`), so does the normal
form of a path (`remainder_normal`).

## One induction for all of them

A reading of a path is a fold over its steps. If it agrees with some view of the remainder at the
start of the path, and keeps to it at each further step, it agrees at the end (`foldl_components`).
What a single step does is shown for cancelling by `Remainder.pushStep_reverse_steps` and for
walking by `Remainder.follow_endFrom`. The start is apart from this, since a root or a `.` can be
nothing but the first step.

Only slashes and dots mean anything in the text of a path. So what is said here of all texts holds
as well of paths that are no text, when each of their bytes is taken for a character.
-/

namespace ContestJudge.Path

variable {p : Path} {start : Place} {walked : List Component} {step : Component}

/-! ### Walks -/

/-- Where a step leads from a place, if all names exist and none is that of a link. The root is above
itself. -/
def Component.follow (place : Place) : Component → Place
  | .root => []
  | .current => place
  | .parent => place.dropLast
  | .name entry => place ++ [entry]

/-- Where a path leads from a place, if all names exist and none is that of a link. -/
def walkFrom (start : Place) (p : Path) : Place := p.components.foldl Component.follow start

/-! ### Reading a path -/

/-- What a path says about its start. -/
def lead (p : Path) : List Component :=
  if p.isAbsolute then [.root]
  else if (splitParts p.text.toList).head? = some ['.'] then [.current]
  else []

theorem lead_cases (p : Path) : p.isAbsolute = true ∧ p.lead = [.root] ∨
    p.isAbsolute = false ∧ (p.lead = [.current] ∨ p.lead = []) := by
  rw [lead]
  cases p.isAbsolute with
  | true => exact .inl ⟨rfl, rfl⟩
  | false =>
    refine .inr ⟨rfl, ?_⟩
    rw [if_neg Bool.false_ne_true]
    split
    · exact .inl rfl
    · exact .inr rfl

/-- The steps of a path apart from its start. -/
def body (p : Path) : List Component := (splitParts p.text.toList).filterMap componentOfPart

theorem components_eq (p : Path) : p.components = p.lead ++ p.body := by
  cases habsolute : p.isAbsolute with
  | true =>
    rw [components_of_rooted habsolute, lead, habsolute]
    rfl
  | false =>
    obtain ⟨first, rest, hparts⟩ := List.exists_cons_of_ne_nil (splitParts_ne_nil p.text.toList)
    rw [components, lead, body, hparts, habsolute]
    by_cases hcurrent : first = ['.']
    · subst hcurrent
      rfl
    · have hhead : (first :: rest).head? ≠ some ['.'] := fun h ↦ hcurrent (Option.some.inj h)
      simp only [hcurrent, hhead, if_false, Bool.false_eq_true, List.nil_append]
      rw [List.filterMap_cons]
      cases componentOfPart first <;> rfl

theorem isPlain_of_mem_body (h : step ∈ p.body) : step.IsPlain := by
  obtain ⟨part, hpart, hread⟩ := List.mem_filterMap.1 h
  exact isPlain_of_componentOfPart (not_mem_of_mem_splitParts hpart) hread

theorem head?_splitParts_append (cs rest : List Char) :
    (splitParts (cs ++ '/' :: rest)).head? = (splitParts cs).head? := by
  rw [splitParts_append_slash, List.head?_append_of_ne_nil _ (splitParts_ne_nil cs)]

theorem lead_join {base child : Path} (hbase : base.text ≠ "")
    (hchild : child.isAbsolute = false) : (base.join child).lead = base.lead := by
  have hhead : (splitParts (base.join child).text.toList).head? =
      (splitParts base.text.toList).head? := by
    rw [toList_join_relative hbase hchild]
    split
    next hend =>
      obtain ⟨cs, hcs⟩ := List.getLast?_eq_some_iff.1 hend
      rw [hcs, List.append_assoc, List.singleton_append, head?_splitParts_append,
        head?_splitParts_append]
    · exact head?_splitParts_append _ _
  rw [lead, lead, isAbsolute_join, hchild, Bool.or_false, hhead]

theorem isAbsolute_of_lead {child : Path} (h : child.lead = []) : child.isAbsolute = false := by
  rcases child.lead_cases with ⟨-, hlead⟩ | ⟨hrelative, -⟩
  · exact nomatch hlead.symm.trans h
  · exact hrelative

/-- **Joining adds the steps** of what is joined, if it starts with a part like all others. -/
theorem components_join (base : Path) {child : Path} (h : child.lead = []) :
    (base.join child).components = base.components ++ child.components := by
  have hchild := isAbsolute_of_lead h
  by_cases hbase : base.text = ""
  · obtain rfl : base = ⟨""⟩ := congrArg Path.mk hbase
    have hnone : (⟨""⟩ : Path).components = [] := by decide
    have hjoin : (⟨""⟩ : Path).join child = child := by
      rw [join, hchild, if_neg Bool.false_ne_true, if_pos (.inl rfl), String.empty_append]
    rw [hnone, hjoin, List.nil_append]
  · have hbody : (base.join child).body = base.body ++ child.body :=
      filterMap_splitParts_join_relative rfl hbase hchild
    rw [components_eq, lead_join hbase hchild, hbody, components_eq base, components_eq child, h,
      List.nil_append, List.append_assoc]

/-- A path whose steps are all plain starts with one of them. -/
theorem lead_of_components (h : p.components = walked) (hwalked : ∀ step ∈ walked, step.IsPlain) :
    p.lead = [] := by
  have hplain : ∀ step ∈ p.lead, step.IsPlain := by
    intro step hstep
    rw [← h, components_eq] at hwalked
    exact hwalked step (List.mem_append_left _ hstep)
  rcases p.lead_cases with ⟨-, hlead⟩ | ⟨-, hlead | hlead⟩
  · exact (hplain .root (hlead ▸ List.mem_cons_self)).elim
  · exact (hplain .current (hlead ▸ List.mem_cons_self)).elim
  · exact hlead

theorem components_part (h : step.IsPlain) : (⟨step.text⟩ : Path).components = [step] := by
  have hwritten : ofComponents [step] = ⟨step.text⟩ := by
    have hrelative : (⟨step.text⟩ : Path).isAbsolute = false := not_isAbsolute_of_noSlash h.noSlash
    rw [ofComponents, List.foldl_cons, List.foldl_nil, join, hrelative, if_neg Bool.false_ne_true,
      if_pos (.inl rfl), String.empty_append]
  rw [← hwritten, components_ofComponents h (List.forall_mem_nil _)]

theorem components_foldl_join (base : Path) (h : ∀ step ∈ walked, step.IsPlain) :
    (walked.foldl (fun p step ↦ p.join ⟨step.text⟩) base).components =
      base.components ++ walked := by
  induction walked generalizing base with
  | nil => exact (List.append_nil _).symm
  | cons step rest ih =>
    obtain ⟨hstep, hrest⟩ := List.forall_mem_cons.1 h
    have hpart := components_part hstep
    have hlead := lead_of_components hpart (List.forall_mem_singleton.2 hstep)
    rw [List.foldl_cons, ih _ hrest, components_join base hlead, hpart, List.append_assoc,
      List.singleton_append]

/-- **Plain steps from the root are read back** from the path that they make up. -/
theorem components_ofComponents_root (h : ∀ step ∈ walked, step.IsPlain) :
    (ofComponents (.root :: walked)).components = .root :: walked :=
  components_foldl_join ⟨"/"⟩ h

/-! ### Remainders -/

/-- What is left of the steps of a path. -/
structure Remainder where
  /-- Whether they start at the root. -/
  rooted : Bool
  /-- How many steps up no name takes back. -/
  climbs : Nat
  /-- The names behind these, the last one first. -/
  reversed : List String
  deriving DecidableEq

namespace Remainder

variable {r : Remainder}

/-- The names that are left, in the order of the path. -/
def names (r : Remainder) : List String := r.reversed.reverse

/-- One more step. -/
def push (r : Remainder) : Component → Remainder
  | .parent =>
    match r.reversed with
    | [] => { r with climbs := r.climbs + 1 }
    | _ :: rest => { r with reversed := rest }
  | .name entry => { r with reversed := entry :: r.reversed }
  | .root | .current => r

/-- The steps that are left. -/
def steps (r : Remainder) : List Component :=
  (bif r.rooted then [.root] else []) ++ (List.replicate r.climbs .parent ++ r.names.map .name)

/-- Where they lead from a place. -/
def endFrom (start : Place) (r : Remainder) : Place :=
  let top := bif r.rooted then [] else start
  top.take (top.length - r.climbs) ++ r.names

theorem rooted_push (r : Remainder) (step : Component) : (r.push step).rooted = r.rooted := by
  unfold push
  split
  · split <;> rfl
  · rfl
  · rfl
  · rfl

theorem rooted_foldl_push (walked : List Component) (r : Remainder) :
    (walked.foldl push r).rooted = r.rooted := by
  induction walked generalizing r with
  | nil => rfl
  | cons step rest ih => rw [List.foldl_cons, ih, rooted_push]

/-- Names come from the steps. -/
theorem isName_foldl_push (hwalked : ∀ step ∈ walked, step.IsPlain)
    (hnames : ∀ name ∈ r.reversed, IsName name) :
    ∀ name ∈ (walked.foldl push r).reversed, IsName name := by
  induction walked generalizing r with
  | nil => exact hnames
  | cons step rest ih =>
    obtain ⟨hstep, hrest⟩ := List.forall_mem_cons.1 hwalked
    refine ih hrest ?_
    cases step with
    | name entry => exact List.forall_mem_cons.2 ⟨hstep, hnames⟩
    | parent =>
      unfold push
      dsimp only
      split
      · exact hnames
      next hreversed => exact fun name h ↦ hnames name (hreversed ▸ List.mem_cons_of_mem _ h)
    | root => exact hstep.elim
    | current => exact hstep.elim

theorem reverse_steps (r : Remainder) : r.steps.reverse =
    r.reversed.map .name ++
      (List.replicate r.climbs .parent ++ bif r.rooted then [.root] else []) := by
  rw [steps, List.reverse_append, List.reverse_append, List.reverse_replicate, ← List.map_reverse,
    names, List.reverse_reverse, List.append_assoc]
  cases r.rooted <;> rfl

/-- **Cancelling a step** is pushing it. -/
theorem pushStep_reverse_steps (h : step.IsPlain) (r : Remainder) :
    pushStep r.steps.reverse step = (r.push step).steps.reverse := by
  rw [reverse_steps, reverse_steps]
  obtain ⟨rooted, climbs, reversed⟩ := r
  cases step with
  | name entry => rfl
  | parent =>
    cases reversed with
    | cons entry rest => rfl
    | nil =>
      -- what is left does not end in a name, so the step stays
      cases climbs <;> cases rooted <;> rfl
  | root => exact h.elim
  | current => exact h.elim

/-- **Walking a step** is pushing it. -/
theorem follow_endFrom (h : step.IsPlain) (start : Place) (r : Remainder) :
    step.follow (r.endFrom start) = (r.push step).endFrom start := by
  rw [endFrom, endFrom, rooted_push, names, names]
  generalize (bif r.rooted then [] else start) = top
  obtain ⟨rooted, climbs, reversed⟩ := r
  cases step with
  | name entry => simp [Component.follow, push]
  | parent =>
    cases reversed with
    | cons entry rest => simp [Component.follow, push]
    | nil =>
      simp only [Component.follow, push, List.reverse_nil, List.append_nil]
      rw [List.dropLast_eq_take, List.length_take, List.take_take]
      congr 1
      omega
  | root => exact h.elim
  | current => exact h.elim

/-- What keeps to the remainder at each step keeps to it along a walk. -/
theorem foldl_eq_of_push {β : Type} {f : β → Component → β} {view : Remainder → β}
    (hview : ∀ step, step.IsPlain → ∀ r, f (view r) step = view (r.push step))
    (hwalked : ∀ step ∈ walked, step.IsPlain) (r : Remainder) :
    walked.foldl f (view r) = view (walked.foldl push r) := by
  induction walked generalizing r with
  | nil => rfl
  | cons step rest ih =>
    obtain ⟨hstep, hrest⟩ := List.forall_mem_cons.1 hwalked
    rw [List.foldl_cons, hview step hstep, ih hrest, List.foldl_cons]

theorem foldl_push_parent (n : Nat) (rooted : Bool) (climbs : Nat) :
    (List.replicate n Component.parent).foldl push ⟨rooted, climbs, []⟩ =
      ⟨rooted, climbs + n, []⟩ := by
  induction n generalizing climbs with
  | zero => rfl
  | succ n ih =>
    rw [List.replicate_succ, List.foldl_cons]
    exact (ih (climbs + 1)).trans (by rw [Nat.add_assoc, Nat.add_comm 1])

theorem foldl_push_name (names : List String) (r : Remainder) :
    (names.map Component.name).foldl push r = { r with reversed := names.reverse ++ r.reversed } := by
  induction names generalizing r with
  | nil => rfl
  | cons name rest ih =>
    rw [List.map_cons, List.foldl_cons, ih, List.reverse_cons, List.append_assoc]
    rfl

/-- **The steps of a remainder leave that remainder.** -/
theorem foldl_push_steps (r : Remainder) : r.steps.foldl push ⟨r.rooted, 0, []⟩ = r := by
  have hroot : (bif r.rooted then [Component.root] else []).foldl push ⟨r.rooted, 0, []⟩ =
      ⟨r.rooted, 0, []⟩ := by cases r.rooted <;> rfl
  rw [steps, List.foldl_append, List.foldl_append, hroot, foldl_push_parent, foldl_push_name, names,
    List.reverse_reverse, List.append_nil, Nat.zero_add]

end Remainder

/-! ### The remainder of a path -/

/-- What is left of a path. -/
def remainder (p : Path) : Remainder := p.components.foldl Remainder.push ⟨p.isAbsolute, 0, []⟩

theorem rooted_remainder (p : Path) : p.remainder.rooted = p.isAbsolute :=
  Remainder.rooted_foldl_push _ _

/-- The start of a path is left as it is. -/
theorem remainder_eq (p : Path) : p.remainder = p.body.foldl .push ⟨p.isAbsolute, 0, []⟩ := by
  rw [remainder, components_eq, List.foldl_append]
  rcases p.lead_cases with ⟨-, hlead⟩ | ⟨-, hlead | hlead⟩ <;> rw [hlead] <;> rfl

/-- **All that reading a path depends on** is its remainder, if that is so for its start and for each
step. -/
theorem foldl_components {β : Type} {f : β → Component → β} {view : Remainder → β} {start : β}
    (hlead : p.lead.foldl f start = view ⟨p.isAbsolute, 0, []⟩)
    (hview : ∀ step, step.IsPlain → ∀ r, f (view r) step = view (r.push step)) :
    p.components.foldl f start = view p.remainder := by
  rw [components_eq, List.foldl_append, hlead, remainder_eq]
  exact Remainder.foldl_eq_of_push hview (fun _ ↦ isPlain_of_mem_body) _

theorem isName_of_mem_names_remainder {name : String} (h : name ∈ p.remainder.names) :
    IsName name := by
  rw [remainder_eq] at h
  exact Remainder.isName_foldl_push (fun _ ↦ isPlain_of_mem_body) (List.forall_mem_nil _) name
    (List.mem_reverse.1 h)

/-- **What is left after cancelling** are the steps of the remainder. -/
theorem normalSteps_eq (p : Path) :
    p.normalSteps = if p.remainder.steps = [] then [.current] else p.remainder.steps := by
  have hlead : p.lead.foldl pushStep [] = (⟨p.isAbsolute, 0, []⟩ : Remainder).steps.reverse := by
    rcases p.lead_cases with ⟨hroot, hlead⟩ | ⟨hroot, hlead | hlead⟩ <;> rw [hroot, hlead] <;> rfl
  have hsteps : p.components.foldl pushStep [] = p.remainder.steps.reverse :=
    foldl_components hlead fun _ hstep r ↦ Remainder.pushStep_reverse_steps hstep r
  unfold normalSteps
  rw [hsteps, List.reverse_reverse]
  cases p.remainder.steps <;> rfl

/-- **A walk ends where the remainder does.** -/
theorem walkFrom_eq (start : Place) (p : Path) : p.walkFrom start = p.remainder.endFrom start := by
  have hstay : (⟨false, 0, []⟩ : Remainder).endFrom start = start := by
    simp [Remainder.endFrom, Remainder.names]
  have hlead : p.lead.foldl Component.follow start =
      (⟨p.isAbsolute, 0, []⟩ : Remainder).endFrom start := by
    rcases p.lead_cases with ⟨hroot, hlead⟩ | ⟨hroot, hlead | hlead⟩
    · rw [hroot, hlead]
      rfl
    · rw [hroot, hlead, hstay]
      rfl
    · rw [hroot, hlead, hstay]
      rfl
  exact foldl_components hlead fun _ hstep r ↦ Remainder.follow_endFrom hstep start r

/-- **The normal form of a path is read as it was meant**, also from the root. -/
theorem components_normal_eq (p : Path) : p.normal.components = p.normalSteps := by
  cases habsolute : p.isAbsolute with
  | false => exact components_normal habsolute
  | true =>
    have hplain : ∀ step ∈ List.replicate p.remainder.climbs Component.parent ++
        p.remainder.names.map .name, step.IsPlain := by
      intro step hstep
      rcases List.mem_append.1 hstep with hup | hname
      · rw [List.eq_of_mem_replicate hup]
        exact trivial
      · obtain ⟨name, hmem, rfl⟩ := List.mem_map.1 hname
        exact isName_of_mem_names_remainder hmem
    have hsteps : p.normalSteps = .root ::
        (List.replicate p.remainder.climbs .parent ++ p.remainder.names.map .name) := by
      rw [normalSteps_eq, Remainder.steps, rooted_remainder, habsolute]
      rfl
    rw [normal, hsteps, components_ofComponents_root hplain]

theorem isAbsolute_normal_eq (p : Path) : p.normal.isAbsolute = p.isAbsolute := by
  cases habsolute : p.isAbsolute with
  | true => exact isAbsolute_normal habsolute
  | false =>
    refine Bool.eq_false_iff.2 fun hnormal ↦ ?_
    have hroot : .root ∈ p.normalSteps := components_normal_eq p ▸ root_mem_components hnormal
    have hrooted : p.remainder.rooted = false := (rooted_remainder p).trans habsolute
    rw [normalSteps_eq] at hroot
    split at hroot
    · simp at hroot
    · simp [Remainder.steps, hrooted] at hroot

/-- **The normal form of a path leaves what the path leaves.** -/
theorem remainder_normal (p : Path) : p.normal.remainder = p.remainder := by
  have hread := p.remainder.foldl_push_steps
  rw [rooted_remainder] at hread
  rw [remainder, components_normal_eq, isAbsolute_normal_eq, normalSteps_eq]
  split
  next hnone =>
    -- a `.` that stands for no steps is no step either
    rw [hnone] at hread
    exact hread
  · exact hread

end ContestJudge.Path
