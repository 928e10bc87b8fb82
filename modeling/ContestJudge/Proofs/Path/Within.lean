import ContestJudge.Path.Basic
import Mathlib.Data.List.Basic
import Mathlib.Tactic.Common

/-!
# Paths that stay inside

Whether a path stays inside a directory is decided on the normal form as it is written and read
again. Writing steps and reading them gives the steps back as long as each is written by a part of
its own, and all steps of a relative path are. So a path that stays inside consists of names alone
once its steps have cancelled, and these names are the way down from the directory
(`names_of_within?`).

* `splitParts_slashed` — parts are read back from the text that they make up, if no part has a slash
  in it;
* `toList_ofComponents` — plain steps are written each by its part, with slashes between them. A
  step is plain if it is a name or `..` (`Component.IsPlain`), because a `.` is dropped when it is
  read and a root is no part at all;
* `components_ofComponents` — so plain steps are read back;
* `mem_foldl_pushStep` — and cancelling leaves none but steps that were there, so the steps of a
  relative path stay plain. With this the normal form is read as it was meant (`components_normal`).

What stands at the start of a path needs care throughout: a `.` there is a step, and anywhere else
it is none.
-/

namespace ContestJudge.Path

/-! ### Parts of a text -/

/-- Parts with a slash before each. -/
def slashed (parts : List (List Char)) : List Char := parts.flatMap ('/' :: ·)

@[simp] theorem slashed_nil : slashed [] = [] := rfl

@[simp] theorem slashed_cons (part : List Char) (parts : List (List Char)) :
    slashed (part :: parts) = '/' :: part ++ slashed parts := rfl

theorem slashed_append (parts more : List (List Char)) :
    slashed (parts ++ more) = slashed parts ++ slashed more := List.flatMap_append

theorem intercalate_cons (part : List Char) (parts : List (List Char)) :
    ['/'].intercalate (part :: parts) = part ++ slashed parts := by
  induction parts generalizing part with
  | nil => rw [List.intercalate_singleton, slashed_nil, List.append_nil]
  | cons next rest ih =>
    rw [List.intercalate_cons_cons, ih next, slashed_cons, List.append_assoc]
    rfl

theorem splitParts_of_not_mem {cs : List Char} (h : '/' ∉ cs) : splitParts cs = [cs] := by
  induction cs with
  | nil => rfl
  | cons c rest ih =>
    rw [List.mem_cons, not_or] at h
    rw [splitParts, if_neg (Ne.symm h.1), ih h.2]

theorem splitParts_append {cs : List Char} (h : '/' ∉ cs) (rest : List Char) :
    splitParts (cs ++ '/' :: rest) = cs :: splitParts rest := by
  induction cs with
  | nil => rfl
  | cons c more ih =>
    rw [List.mem_cons, not_or] at h
    rw [List.cons_append, splitParts, if_neg (Ne.symm h.1), ih h.2]

theorem splitParts_ne_nil (cs : List Char) : splitParts cs ≠ [] := by
  cases cs with
  | nil => exact List.cons_ne_nil _ _
  | cons c rest =>
    rw [splitParts]
    split
    · exact List.cons_ne_nil _ _
    · split <;> exact List.cons_ne_nil _ _

/-- A slash separates what is split on its left from what is split on its right. -/
theorem splitParts_append_slash (cs rest : List Char) :
    splitParts (cs ++ '/' :: rest) = splitParts cs ++ splitParts rest := by
  induction cs with
  | nil => rfl
  | cons c more ih =>
    by_cases hc : c = '/'
    · rw [List.cons_append, splitParts, if_pos hc, ih, splitParts, if_pos hc, List.cons_append]
    · obtain ⟨part, parts, hparts⟩ := List.exists_cons_of_ne_nil (splitParts_ne_nil more)
      rw [List.cons_append, splitParts, if_neg hc, ih, splitParts, if_neg hc, hparts]
      rfl

/-- **Parts are read back** from the text that they make up. -/
theorem splitParts_slashed {part : List Char} {parts : List (List Char)} (hpart : '/' ∉ part)
    (hparts : ∀ p ∈ parts, '/' ∉ p) : splitParts (part ++ slashed parts) = part :: parts := by
  induction parts generalizing part with
  | nil => rw [slashed_nil, List.append_nil, splitParts_of_not_mem hpart]
  | cons next rest ih =>
    obtain ⟨hnext, hrest⟩ := List.forall_mem_cons.1 hparts
    rw [slashed_cons, List.cons_append, splitParts_append hpart, ih hnext hrest]

theorem not_mem_of_mem_splitParts {cs part : List Char} (h : part ∈ splitParts cs) :
    '/' ∉ part := by
  induction cs generalizing part with
  | nil =>
    obtain rfl := List.mem_singleton.1 h
    exact List.not_mem_nil
  | cons c rest ih =>
    by_cases hc : c = '/'
    · rw [splitParts, if_pos hc] at h
      rcases List.mem_cons.1 h with rfl | h
      · exact List.not_mem_nil
      · exact ih h
    · rw [splitParts, if_neg hc] at h
      cases hsplit : splitParts rest with
      | nil =>
        rw [hsplit] at h
        obtain rfl := List.mem_singleton.1 h
        simpa using Ne.symm hc
      | cons first parts =>
        rw [hsplit] at h ih
        rcases List.mem_cons.1 h with rfl | h
        · have hfirst := ih List.mem_cons_self
          simpa [hfirst] using Ne.symm hc
        · exact ih (List.mem_cons_of_mem _ h)

/-- A part that is not empty does not end in a slash. -/
theorem exists_getLast? {part : List Char} (hne : part ≠ []) (hpart : '/' ∉ part) :
    ∃ c, part.getLast? = some c ∧ c ≠ '/' := by
  obtain ⟨c, hc⟩ := Option.ne_none_iff_exists'.1 (mt List.getLast?_eq_none_iff.1 hne)
  exact ⟨c, hc, fun h ↦ hpart (h ▸ List.mem_of_getLast? hc)⟩

/-! ### Steps that a part writes -/

/-- A name that an entry of a directory may have. -/
structure IsName (name : String) : Prop where
  nonempty : name ≠ ""
  noSlash : '/' ∉ name.toList
  ne_current : name ≠ "."
  ne_parent : name ≠ ".."

instance (name : String) : Decidable (IsName name) :=
  decidable_of_iff (name ≠ "" ∧ '/' ∉ name.toList ∧ name ≠ "." ∧ name ≠ "..")
    ⟨fun ⟨hempty, hslash, hcurrent, hparent⟩ ↦ ⟨hempty, hslash, hcurrent, hparent⟩,
      fun ⟨hempty, hslash, hcurrent, hparent⟩ ↦ ⟨hempty, hslash, hcurrent, hparent⟩⟩

/-- A step that a part after the first one can stand for. -/
def Component.IsPlain : Component → Prop
  | .parent => True
  | .name entry => IsName entry
  | _ => False

theorem ofList_ne {part : List Char} {text : String} (h : part ≠ text.toList) :
    String.ofList part ≠ text := by
  rintro rfl
  exact h String.toList_ofList.symm

theorem isPlain_of_componentOfPart {part : List Char} {step : Component} (hpart : '/' ∉ part)
    (h : componentOfPart part = some step) : step.IsPlain := by
  rw [componentOfPart] at h
  split at h
  · exact nomatch h
  next hidle =>
    rw [not_or] at hidle
    split at h
    · obtain rfl := Option.some.inj h
      exact trivial
    next hparent =>
      obtain rfl := Option.some.inj h
      have hslash : '/' ∉ (String.ofList part).toList := by rwa [String.toList_ofList]
      exact ⟨ofList_ne hidle.1, hslash, ofList_ne hidle.2, ofList_ne hparent⟩

theorem toList_ne {name text : String} (h : name ≠ text) : name.toList ≠ text.toList :=
  mt String.toList_inj.1 h

theorem componentOfPart_name {name : String} (h : IsName name) :
    componentOfPart name.toList = some (.name name) := by
  have hidle : ¬(name.toList = [] ∨ name.toList = ['.']) :=
    not_or.2 ⟨toList_ne h.nonempty, toList_ne h.ne_current⟩
  have hparent : name.toList ≠ ['.', '.'] := toList_ne h.ne_parent
  rw [componentOfPart, if_neg hidle, if_neg hparent, String.ofList_toList]

namespace Component.IsPlain

variable {step : Component}

theorem noSlash (h : step.IsPlain) : '/' ∉ step.text.toList := by
  cases step with
  | parent => decide
  | name entry => exact IsName.noSlash h
  | root => exact h.elim
  | current => exact h.elim

theorem text_ne_nil (h : step.IsPlain) : step.text.toList ≠ [] := by
  cases step with
  | parent => decide
  | name entry => exact toList_ne (IsName.nonempty h)
  | root => exact h.elim
  | current => exact h.elim

theorem getLast?_text (h : step.IsPlain) : ∃ c, step.text.toList.getLast? = some c ∧ c ≠ '/' :=
  exists_getLast? h.text_ne_nil h.noSlash

theorem text_ne_current (h : step.IsPlain) : step.text.toList ≠ ['.'] := by
  cases step with
  | parent => decide
  | name entry => exact toList_ne (IsName.ne_current h)
  | root => exact h.elim
  | current => exact h.elim

theorem componentOfPart_text (h : step.IsPlain) : componentOfPart step.text.toList = some step := by
  cases step with
  | parent => rfl
  | name entry => exact componentOfPart_name h
  | root => exact h.elim
  | current => exact h.elim

end Component.IsPlain

/-! ### Writing steps -/

theorem isAbsolute_join (base child : Path) :
    (base.join child).isAbsolute = (base.isAbsolute || child.isAbsolute) := by
  rw [join]
  cases hchild : child.isAbsolute with
  | true => rw [if_pos rfl, hchild, Bool.or_true]
  | false =>
    rw [if_neg Bool.false_ne_true, Bool.or_false]
    cases hbase : base.text.toList with
    | nil =>
      have hempty : base.text = "" := String.toList_eq_nil_iff.1 hbase
      rw [if_pos (.inl hempty)]
      simpa [isAbsolute, hbase] using hchild
    | cons c cs =>
      split <;> simp [isAbsolute, hbase]

theorem isAbsolute_foldl_join (steps : List Component) (base : Path) :
    (steps.foldl (fun p step ↦ p.join ⟨step.text⟩) base).isAbsolute =
      (base.isAbsolute || steps.any fun step ↦ (⟨step.text⟩ : Path).isAbsolute) := by
  induction steps generalizing base with
  | nil => rw [List.foldl_nil, List.any_nil, Bool.or_false]
  | cons step rest ih => rw [List.foldl_cons, ih, isAbsolute_join, List.any_cons, Bool.or_assoc]

theorem not_isAbsolute_of_noSlash {p : Path} (h : '/' ∉ p.text.toList) : p.isAbsolute = false :=
  decide_eq_false fun hhead ↦ h (List.mem_of_mem_head? hhead)

/-- Joining a part to a path that does not end in a slash puts one between them. -/
theorem toList_join {base child : Path} {c : Char} (hbase : base.text.toList.getLast? = some c)
    (hc : c ≠ '/') (hchild : child.isAbsolute = false) :
    (base.join child).text.toList = base.text.toList ++ '/' :: child.text.toList := by
  have hopen : ¬(base.text = "" ∨ base.text.toList.getLast? = some '/') := by
    rintro (h | h)
    · rw [h] at hbase
      exact nomatch hbase
    · exact hc (Option.some.inj (hbase.symm.trans h))
  rw [join, hchild, if_neg Bool.false_ne_true, if_neg hopen, String.toList_append,
    String.toList_append, List.append_assoc]
  rfl

theorem toList_foldl_join {steps : List Component} (hsteps : ∀ step ∈ steps, step.IsPlain)
    {base : Path} {c : Char} (hbase : base.text.toList.getLast? = some c) (hc : c ≠ '/') :
    (steps.foldl (fun p step ↦ p.join ⟨step.text⟩) base).text.toList =
      base.text.toList ++ slashed (steps.map (·.text.toList)) := by
  induction steps generalizing base c with
  | nil => rw [List.foldl_nil, List.map_nil, slashed_nil, List.append_nil]
  | cons step rest ih =>
    obtain ⟨hstep, hrest⟩ := List.forall_mem_cons.1 hsteps
    have hjoin : (base.join ⟨step.text⟩).text.toList =
        base.text.toList ++ '/' :: step.text.toList :=
      toList_join hbase hc (not_isAbsolute_of_noSlash hstep.noSlash)
    -- The part that was written last has no slash in it, so the next one is set apart as well.
    obtain ⟨last, hlast, hlast'⟩ := hstep.getLast?_text
    have hend : (base.join ⟨step.text⟩).text.toList.getLast? = some last := by
      rw [hjoin, List.getLast?_append, List.getLast?_cons, hlast]
      rfl
    rw [List.foldl_cons, ih hrest hend hlast', hjoin, List.append_assoc, List.map_cons,
      slashed_cons]

/-- **How plain steps are written**: each by its part, with slashes between them. -/
theorem toList_ofComponents {first : Component} {rest : List Component} (hfirst : first.IsPlain)
    (hrest : ∀ step ∈ rest, step.IsPlain) :
    (ofComponents (first :: rest)).text.toList =
      first.text.toList ++ slashed (rest.map (·.text.toList)) := by
  have hstart : ((⟨""⟩ : Path).join ⟨first.text⟩).text = first.text := by
    have hrelative := not_isAbsolute_of_noSlash (p := ⟨first.text⟩) hfirst.noSlash
    rw [join, hrelative, if_neg Bool.false_ne_true, if_pos (.inl rfl), String.empty_append]
  obtain ⟨last, hlast, hlast'⟩ := hfirst.getLast?_text
  have hend : ((⟨""⟩ : Path).join ⟨first.text⟩).text.toList.getLast? = some last := by rwa [hstart]
  rw [ofComponents, List.foldl_cons, toList_foldl_join hrest hend hlast', hstart]

/-- **Plain steps are read back** from the path that they make up. -/
theorem components_ofComponents {first : Component} {rest : List Component} (hfirst : first.IsPlain)
    (hrest : ∀ step ∈ rest, step.IsPlain) :
    (ofComponents (first :: rest)).components = first :: rest := by
  have htext := toList_ofComponents hfirst hrest
  have hsplit : splitParts (ofComponents (first :: rest)).text.toList =
      first.text.toList :: rest.map (·.text.toList) := by
    rw [htext, splitParts_slashed hfirst.noSlash]
    simpa using fun step hstep ↦ (hrest step hstep).noSlash
  have hrelative : (ofComponents (first :: rest)).isAbsolute = false := by
    refine decide_eq_false fun hhead ↦ hfirst.noSlash (List.mem_of_mem_head? ?_)
    rwa [htext, List.head?_append_of_ne_nil _ hfirst.text_ne_nil] at hhead
  have hread : (rest.map (·.text.toList)).filterMap componentOfPart = rest := by
    have hplain : ∀ step ∈ rest, (componentOfPart ∘ (·.text.toList)) step = some step :=
      fun step hstep ↦ (hrest step hstep).componentOfPart_text
    rw [List.filterMap_map, List.filterMap_congr hplain, List.filterMap_some]
  rw [components, hsplit]
  simp only [hrelative, hfirst.text_ne_current, hfirst.componentOfPart_text, hread, if_false,
    Bool.false_eq_true, Option.toList_some, List.singleton_append]

/-! ### Cancelling steps -/

theorem mem_pushStep {reversed : List Component} {step c : Component}
    (h : c ∈ pushStep reversed step) : c ∈ reversed ∨ c = step ∧ c ≠ .current := by
  unfold pushStep at h
  split at h
  · exact .inl h
  · exact .inl (List.mem_cons_of_mem _ h)
  next hcurrent _ =>
    rcases List.mem_cons.1 h with rfl | h
    · exact .inr ⟨rfl, fun heq ↦ hcurrent heq⟩
    · exact .inl h

/-- Only steps that were there remain, and none of them is `.`. -/
theorem mem_foldl_pushStep {steps reversed : List Component} {c : Component}
    (h : c ∈ steps.foldl pushStep reversed) : c ∈ reversed ∨ c ∈ steps ∧ c ≠ .current := by
  induction steps generalizing reversed with
  | nil => exact .inl h
  | cons step rest ih =>
    rcases ih h with h | ⟨h, hc⟩
    · exact (mem_pushStep h).imp_right fun ⟨h, hc⟩ ↦ ⟨h ▸ List.mem_cons_self, hc⟩
    · exact .inr ⟨List.mem_cons_of_mem _ h, hc⟩

theorem root_mem_pushStep {reversed : List Component} {step : Component}
    (h : .root ∈ reversed ∨ step = .root) : .root ∈ pushStep reversed step := by
  unfold pushStep
  split
  · exact h.elim id nofun
  · exact (List.mem_cons.1 (h.elim id nofun)).elim nofun id
  · rcases h with h | rfl
    · exact List.mem_cons_of_mem _ h
    · exact List.mem_cons_self

/-- Nothing cancels the root. -/
theorem root_mem_foldl_pushStep {steps reversed : List Component}
    (h : .root ∈ reversed ∨ .root ∈ steps) : .root ∈ steps.foldl pushStep reversed := by
  induction steps generalizing reversed with
  | nil => exact h.elim id nofun
  | cons step rest ih =>
    refine ih ?_
    rcases h with h | h
    · exact .inl (root_mem_pushStep (.inl h))
    · exact (List.mem_cons.1 h).imp (fun h ↦ root_mem_pushStep (.inr h.symm)) id

/-- A step of a relative path is plain, but for a `.` at its start. -/
theorem isPlain_of_mem_components {p : Path} (h : p.isAbsolute = false) {step : Component}
    (hstep : step ∈ p.components) : step = .current ∨ step.IsPlain := by
  have hslash : ∀ part ∈ splitParts p.text.toList, '/' ∉ part := fun _ ↦ not_mem_of_mem_splitParts
  rw [components] at hstep
  cases hsplit : splitParts p.text.toList with
  | nil =>
    rw [hsplit] at hstep
    exact nomatch hstep
  | cons first rest =>
    rw [hsplit] at hstep hslash
    obtain ⟨hfirst, hrest⟩ := List.forall_mem_cons.1 hslash
    simp only [h, Bool.false_eq_true, if_false] at hstep
    rcases List.mem_append.1 hstep with hstep | hstep
    · split at hstep
      · exact .inl (List.mem_singleton.1 hstep)
      · exact .inr (isPlain_of_componentOfPart hfirst (Option.mem_toList.1 hstep))
    · obtain ⟨part, hpart, hread⟩ := List.mem_filterMap.1 hstep
      exact .inr (isPlain_of_componentOfPart (hrest part hpart) hread)

theorem root_mem_components {p : Path} (h : p.isAbsolute = true) : .root ∈ p.components := by
  obtain ⟨rest, htext⟩ : ∃ rest, p.text.toList = '/' :: rest :=
    List.head?_eq_some_iff.1 (of_decide_eq_true h)
  have hsplit : splitParts p.text.toList = [] :: splitParts rest := by
    rw [htext, splitParts, if_pos rfl]
  rw [components, hsplit]
  simp only [h, if_true]
  exact List.mem_append_left _ List.mem_cons_self

theorem normalSteps_ne_nil (p : Path) : p.normalSteps ≠ [] := by
  unfold normalSteps
  split
  · exact List.cons_ne_nil _ _
  next hsteps => exact hsteps

theorem mem_normalSteps {p : Path} {step : Component} (h : step ∈ p.normalSteps) :
    p.normalSteps = [.current] ∨ step ∈ p.components ∧ step ≠ .current := by
  unfold normalSteps at h ⊢
  split at h
  · exact .inl rfl
  · exact .inr ((mem_foldl_pushStep (List.mem_reverse.1 h)).resolve_left List.not_mem_nil)

/-- An absolute path stays absolute. -/
theorem isAbsolute_normal {p : Path} (h : p.isAbsolute = true) : p.normal.isAbsolute = true := by
  have hroot : .root ∈ p.normalSteps := by
    have hkept : .root ∈ (p.components.foldl pushStep []).reverse :=
      List.mem_reverse.2 (root_mem_foldl_pushStep (.inr (root_mem_components h)))
    unfold normalSteps
    split
    next hsteps => exact absurd (hsteps ▸ hkept) List.not_mem_nil
    · exact hkept
  rw [normal, ofComponents, isAbsolute_foldl_join, Bool.or_eq_true, List.any_eq_true]
  exact .inr ⟨.root, hroot, rfl⟩

/-- **The normal form of a relative path is read as it was meant.** -/
theorem components_normal {p : Path} (h : p.isAbsolute = false) :
    p.normal.components = p.normalSteps := by
  by_cases hcurrent : p.normalSteps = [.current]
  · rw [normal, hcurrent]
    decide
  · obtain ⟨first, rest, hsteps⟩ := List.exists_cons_of_ne_nil p.normalSteps_ne_nil
    have hplain : ∀ step ∈ p.normalSteps, step.IsPlain := by
      intro step hstep
      obtain ⟨hmem, hne⟩ := (mem_normalSteps hstep).resolve_left hcurrent
      exact (isPlain_of_mem_components h hmem).resolve_left hne
    rw [hsteps, List.forall_mem_cons] at hplain
    rw [normal, hsteps, components_ofComponents hplain.1 hplain.2]

/-! ### Staying inside -/

/-- The name that a step goes into, if it does. -/
def Component.name? : Component → Option String
  | .name entry => some entry
  | _ => none

/-- The names that remain once the steps of a path have cancelled. -/
def names (p : Path) : List String := p.normalSteps.filterMap Component.name?

theorem map_name_filterMap {steps : List Component} (h : steps.all Component.isName = true) :
    (steps.filterMap Component.name?).map .name = steps := by
  induction steps with
  | nil => rfl
  | cons step rest ih =>
    rw [List.all_cons, Bool.and_eq_true] at h
    cases step with
    | name entry => exact congrArg (Component.name entry :: ·) (ih h.2)
    | root => exact nomatch h.1
    | current => exact nomatch h.1
    | parent => exact nomatch h.1

/-- **A path that stays inside is a way down**: names are all that remains of it, at least one, and
they are what is joined to the directory. -/
theorem names_of_within? {base child path : Path} (h : base.within? child = some path) :
    child.names ≠ [] ∧ (∀ name ∈ child.names, IsName name) ∧
      path = base.join ⟨"/".intercalate child.names⟩ := by
  rw [within?, Option.ite_none_right_eq_some] at h
  obtain ⟨hall, hpath⟩ := h
  have hrelative : child.isAbsolute = false := by
    refine Bool.eq_false_iff.2 fun habsolute ↦ ?_
    have hroot := List.all_eq_true.1 hall .root (root_mem_components (isAbsolute_normal habsolute))
    exact Bool.false_ne_true hroot
  rw [components_normal hrelative] at hall
  have hsteps : child.names.map .name = child.normalSteps := map_name_filterMap hall
  have hnames : ∀ name ∈ child.names, IsName name := by
    intro name hname
    have hmem : .name name ∈ child.normalSteps := hsteps ▸ List.mem_map_of_mem hname
    rcases mem_normalSteps hmem with hcurrent | ⟨hmem, -⟩
    · rw [hcurrent] at hmem
      exact nomatch List.mem_singleton.1 hmem
    · exact (isPlain_of_mem_components hrelative hmem).resolve_left nofun
  cases hsplit : child.names with
  | nil =>
    rw [hsplit] at hsteps
    exact absurd hsteps.symm child.normalSteps_ne_nil
  | cons first rest =>
    rw [hsplit] at hsteps hnames
    obtain ⟨hfirst, hrest⟩ := List.forall_mem_cons.1 hnames
    have hplain : ∀ step ∈ rest.map Component.name, step.IsPlain := List.forall_mem_map.2 hrest
    have htext : child.normal.text = "/".intercalate (first :: rest) := by
      have hwritten : (ofComponents (.name first :: rest.map .name)).text.toList =
          first.toList ++ slashed ((rest.map Component.name).map (·.text.toList)) :=
        toList_ofComponents hfirst hplain
      rw [← String.toList_inj, normal, ← hsteps, List.map_cons, hwritten,
        String.toList_intercalate, List.map_cons, List.map_map]
      exact (intercalate_cons _ _).symm
    refine ⟨List.cons_ne_nil _ _, hnames, ?_⟩
    rw [← Option.some.inj hpath, ← htext]

end ContestJudge.Path
