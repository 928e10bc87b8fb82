import ContestJudge.Problem.Cases
import ContestJudge.Proofs.Case.Tree
import ContestJudge.Proofs.Fallible

/-!
# Settings in layers

A problem makes settings for all its cases, a batch for its members, and a case for itself. This
file says what the cases of a declaration are without following the way in which they are built: a
case takes each of its settings from the nearest level that makes it.

## Main results

* `exists_addEntries_iff` and `flatten_of_addEntries`: when entries can be added to a tree, and what
  is added then. The first asks of each entry that it is sound, whatever the tree holds already; the
  second relates what is added to what is declared, one to one and in order.
* `DeclaredCase.layered_settingsAbove`: layers of settings, one over the other, are the search for
  the nearest level that makes a setting.
* `Declaration.tree_declares`: a declaration has a tree exactly when it is sound, and the tree then
  holds one case for each that is declared, in order, with the settings of the nearest level.

## How entries are read

For every part of a declaration, reading it is an equivalence (`data_eq_ok_iff`,
`memberData_eq_ok_iff`, `membersData_eq_ok_iff`): it succeeds with some data exactly if the part
gives these data (`Gives`). So nothing below asks how it is read, and sound declarations and those
that can be read are compared part by part.

Links replace those of the level above as a whole. An empty table of links at a case is a setting
that it makes, and not the lack of one.
-/

namespace ContestJudge.Problem

/-! ### What a declaration says -/

/-- A case as it is declared: what is said of the case itself, and of the batch that it is in. -/
structure DeclaredCase where
  own : CaseDeclaration
  batch : Option CaseDeclaration

namespace DeclaredCase

/-- The declarations that may make a setting for a case, the nearest one first. -/
def levels (c : DeclaredCase) : List CaseDeclaration := c.own :: c.batch.toList

/-- A setting as the **nearest level** makes it, or else the problem. -/
def nearest {α : Type} (c : DeclaredCase) (setting : CaseDeclaration → Option α) (problem : α) :
    α :=
  (c.levels.findSome? setting).getD problem

end DeclaredCase

/-- The cases that an entry declares: the entry itself, or each member of the batch. -/
def CaseDeclaration.declared (d : CaseDeclaration) : List DeclaredCase :=
  match d.members with
  | none => [⟨d, none⟩]
  | some members => members.map (⟨·, some d⟩)

/-- The cases that a problem declares, in order. -/
def Declaration.declared (d : Declaration) : List DeclaredCase :=
  d.cases.flatMap CaseDeclaration.declared

/-- A factor that may scale a time limit. -/
def FactorSound (factor : Float) : Prop := 0 < factor ∧ factor.isFinite = true

/-- A member of a batch that declares a case. -/
structure MemberSound (d : CaseDeclaration) : Prop where
  factor : ∀ factor, d.wallTimeFactor = some factor → FactorSound factor
  input : d.input ≠ none
  unnested : d.members = none

/-- An entry that declares a case or a batch of cases. -/
structure EntrySound (d : CaseDeclaration) : Prop where
  factor : ∀ factor, d.wallTimeFactor = some factor → FactorSound factor
  input : d.members = none → d.input ≠ none
  members : ∀ members, d.members = some members → members ≠ [] ∧ ∀ m ∈ members, MemberSound m

/-- **A problem whose cases can be judged**: all factors scale a time limit, every case has an
input, and every batch has members that are no batches. -/
structure Declaration.Sound (d : Declaration) : Prop where
  factor : FactorSound d.wallTimeFactor
  cases : ∀ entry ∈ d.cases, EntrySound entry

/-- **A case of a tree is the one that is declared.** The files are those of the case itself, in the
directory of the problem; each setting is that of the nearest level. -/
structure DeclaredCase.Holds (d : Declaration) (directory : Path) (c : DeclaredCase)
    (placed : Option Nat × Case) : Prop where
  batched : placed.1.isSome = c.batch.isSome
  batch : placed.2.batch = placed.1
  input : ∃ path, c.own.input = some path ∧ placed.2.data.input = .ofPath (directory.join path)
  expected : placed.2.data.expected =
    c.own.expected.map fun path ↦ .ofPath (directory.join path)
  points : placed.2.data.points = c.own.points.getD 0
  outputLimit : placed.2.data.settings.outputLimit = c.nearest (·.outputLimit) d.outputLimit
  wallTimeFactor :
    placed.2.data.settings.wallTimeFactor = c.nearest (·.wallTimeFactor) d.wallTimeFactor
  links : placed.2.data.settings.links = (c.nearest (·.links) d.links).map directory.join

/-! ### When a part of a declaration can be read -/

variable {directory : Path} {above : CaseSettings}

theorem isFactor_iff {factor : Float} : isFactor factor = true ↔ FactorSound factor := by
  simp [isFactor, FactorSound]

theorem checkFactor_eq_ok_iff {factor checked : Float} :
    checkFactor factor = .ok checked ↔ FactorSound factor ∧ checked = factor := by
  rw [checkFactor, ← isFactor_iff]
  split
  · next h => simp [h, eq_comm]
  · next h => simp [h]

namespace CaseDeclaration

variable {d : CaseDeclaration}

/-- The settings of an entry over those of the level above. -/
def layered (directory : Path) (above : CaseSettings) (d : CaseDeclaration) : CaseSettings where
  outputLimit := d.outputLimit.getD above.outputLimit
  wallTimeFactor := d.wallTimeFactor.getD above.wallTimeFactor
  links := (d.links.map (placeLinks directory)).getD above.links

theorem settings_eq_ok_iff {s : CaseSettings} : d.settings directory above = .ok s ↔
    (∀ factor, d.wallTimeFactor = some factor → FactorSound factor) ∧
      s = d.layered directory above := by
  rw [settings, layered]
  -- only a factor of the entry's own is checked, since the one above was before
  rcases d.wallTimeFactor with - | factor
  · exact ⟨fun h ↦ ⟨nofun, (Except.ok.inj h).symm⟩, fun ⟨_, h⟩ ↦ congrArg Except.ok h.symm⟩
  · simp only [bind_eq_ok_iff, checkFactor_eq_ok_iff, Option.some.injEq, forall_eq']
    constructor
    · rintro ⟨_, ⟨hfactor, rfl⟩, h⟩
      exact ⟨hfactor, (Except.ok.inj h).symm⟩
    · rintro ⟨hfactor, rfl⟩
      exact ⟨factor, ⟨hfactor, rfl⟩, rfl⟩

/-- An entry declares a case, given the settings of the level above. -/
structure Gives (directory : Path) (above : CaseSettings) (d : CaseDeclaration) (data : CaseData) :
    Prop where
  factor : ∀ factor, d.wallTimeFactor = some factor → FactorSound factor
  input : ∃ path, d.input = some path ∧ data.input = .ofPath (directory.join path)
  expected : data.expected = d.expected.map fun path ↦ .ofPath (directory.join path)
  points : data.points = d.points.getD 0
  settings : data.settings = d.layered directory above

theorem data_eq_ok_iff {label : CaseLabel} {data : CaseData} :
    d.data directory above label = .ok data ↔ d.Gives directory above data := by
  rw [CaseDeclaration.data]
  rcases hinput : d.input with - | path
  · exact ⟨nofun, fun ⟨_, ⟨_, h, _⟩, _, _, _⟩ ↦ by simp [hinput] at h⟩
  · simp only [bind_eq_ok_iff, settings_eq_ok_iff]
    constructor
    · rintro ⟨_, ⟨hfactor, rfl⟩, h⟩
      obtain rfl := Except.ok.inj h
      exact ⟨hfactor, ⟨path, hinput, rfl⟩, rfl, rfl, rfl⟩
    · rintro ⟨hfactor, ⟨other, hother, hdata⟩, hexpected, hpoints, hsettings⟩
      obtain rfl := Option.some.inj (hinput.symm.trans hother)
      refine ⟨_, ⟨hfactor, rfl⟩, ?_⟩
      rw [← hdata, ← hexpected, ← hpoints, ← hsettings]
      rfl

theorem memberData_eq_ok_iff {label : CaseLabel} {data : CaseData} :
    d.memberData directory above label = .ok data ↔
      d.members = none ∧ d.Gives directory above data := by
  rw [memberData]
  rcases d.members with - | members
  · simp [data_eq_ok_iff]
  · simp

/-- The cases of a batch are those of its members, one each. -/
theorem membersData_eq_ok_iff {entry first : Nat} {members : List CaseDeclaration}
    {cases : List CaseData} : membersData directory above entry first members = .ok cases ↔
      List.Forall₂ (fun d data ↦ d.members = none ∧ d.Gives directory above data)
        members cases := by
  induction members generalizing first cases with
  | nil => simp [membersData, eq_comm]
  | cons d rest ih =>
    simp only [membersData, bind_eq_ok_iff, memberData_eq_ok_iff, ih, List.forall₂_cons_left_iff]
    constructor
    · rintro ⟨data, hdata, cases, hcases, h⟩
      exact ⟨data, cases, hdata, hcases, (Except.ok.inj h).symm⟩
    · rintro ⟨data, cases, hdata, hcases, rfl⟩
      exact ⟨data, hdata, cases, hcases, rfl⟩

/-- An entry with an input and a sound factor declares a case, whatever is set above it. -/
theorem exists_gives_iff : (∃ data, d.Gives directory above data) ↔
    (∀ factor, d.wallTimeFactor = some factor → FactorSound factor) ∧ d.input ≠ none := by
  constructor
  · rintro ⟨data, hfactor, ⟨path, hinput, -⟩, -⟩
    exact ⟨hfactor, by simp [hinput]⟩
  · rintro ⟨hfactor, hinput⟩
    obtain ⟨path, hpath⟩ := Option.ne_none_iff_exists'.1 hinput
    exact ⟨⟨_, _, _, _⟩, hfactor, ⟨path, hpath, rfl⟩, rfl, rfl, rfl⟩

end CaseDeclaration

/-! ### What is added to a tree -/

/-- The settings of the level that a case is declared in: those of the batch over those of the
problem. -/
def DeclaredCase.settingsAbove (directory : Path) (problem : CaseSettings) (c : DeclaredCase) :
    CaseSettings :=
  match c.batch with
  | none => problem
  | some batch => batch.layered directory problem

/-- A case of a tree comes from a declaration below the settings of a problem. -/
structure DeclaredCase.ComesFrom (directory : Path) (problem : CaseSettings) (c : DeclaredCase)
    (placed : Option Nat × Case) : Prop where
  batched : placed.1.isSome = c.batch.isSome
  batch : placed.2.batch = placed.1
  gives : c.own.Gives directory (c.settingsAbove directory problem) placed.2.data

/-- Everything in a list has a counterpart exactly when there is a list of counterparts. -/
theorem exists_forall₂_iff {α β : Type _} {R : α → β → Prop} {l : List α} :
    (∃ l', List.Forall₂ R l l') ↔ ∀ a ∈ l, ∃ b, R a b := by
  induction l with
  | nil => simp
  | cons a l ih =>
    simp only [List.forall₂_cons_left_iff, List.forall_mem_cons, ← ih]
    constructor
    · rintro ⟨-, b, l', hb, hl', -⟩
      exact ⟨⟨b, hb⟩, l', hl'⟩
    · rintro ⟨⟨b, hb⟩, l', hl'⟩
      exact ⟨b :: l', b, l', hb, hl', rfl⟩

namespace CaseDeclaration

variable {d : CaseDeclaration} {number : Nat} {tree tree' : TreeBuilder}

theorem memberSound_iff (directory : Path) (above : CaseSettings) :
    MemberSound d ↔ ∃ data, d.members = none ∧ d.Gives directory above data := by
  rw [exists_and_left, exists_gives_iff]
  exact ⟨fun h ↦ ⟨h.unnested, h.factor, h.input⟩, fun ⟨h, hfactor, hinput⟩ ↦ ⟨hfactor, hinput, h⟩⟩

/-- A batch has cases exactly when all its members declare one. -/
theorem exists_membersData_iff {entry first : Nat} {members : List CaseDeclaration} :
    (∃ cases, membersData directory above entry first members = .ok cases) ↔
      ∀ m ∈ members, MemberSound m := by
  simp only [membersData_eq_ok_iff, exists_forall₂_iff, memberSound_iff directory above]

/-- An entry can be added to a tree, whatever is there, exactly when it is sound. -/
theorem exists_addTo_iff (directory : Path) (above : CaseSettings) (number : Nat)
    (tree : TreeBuilder) :
    (∃ tree', d.addTo directory above number tree = .ok tree') ↔ EntrySound d := by
  rw [addTo]
  rcases hmembers : d.members with - | members
  · simp only [bind_eq_ok_iff, data_eq_ok_iff]
    constructor
    · rintro ⟨_, data, hdata, -⟩
      obtain ⟨hfactor, hinput⟩ := exists_gives_iff.1 ⟨data, hdata⟩
      exact ⟨hfactor, fun _ ↦ hinput, by simp [hmembers]⟩
    · intro h
      obtain ⟨data, hdata⟩ := exists_gives_iff.2 ⟨h.factor, h.input hmembers⟩
      exact ⟨_, data, hdata, rfl⟩
  · simp only [bind_eq_ok_iff, settings_eq_ok_iff, mapError_eq_ok_iff,
      TreeBuilder.addBatch_eq_ok_iff]
    constructor
    · rintro ⟨_, _, ⟨hfactor, -⟩, cases, hcases, hne, -⟩
      refine ⟨hfactor, by simp [hmembers], fun _ h ↦ ?_⟩
      obtain rfl := Option.some.inj (hmembers.symm.trans h)
      refine ⟨?_, exists_membersData_iff.1 ⟨cases, hcases⟩⟩
      rintro rfl
      exact hne (List.forall₂_nil_left_iff.1 (membersData_eq_ok_iff.1 hcases))
    · intro h
      obtain ⟨hne, hsound⟩ := h.members members hmembers
      obtain ⟨cases, hcases⟩ := exists_membersData_iff.2 hsound
      refine ⟨_, _, ⟨h.factor, rfl⟩, cases, hcases, ?_, rfl⟩
      rintro rfl
      exact hne (List.forall₂_nil_right_iff.1 (membersData_eq_ok_iff.1 hcases))

/-- An entry adds what it declares to a tree, as one addition. -/
theorem exists_add_of_addTo (h : d.addTo directory above number tree = .ok tree') :
    ∃ addition, tree.add addition = .ok tree' ∧
      List.Forall₂ (fun c data ↦ c.batch.isSome = addition.isBatch ∧
        c.own.Gives directory (c.settingsAbove directory above) data) d.declared addition.cases := by
  rw [addTo] at h
  rcases hmembers : d.members with - | members
  · simp only [hmembers] at h
    obtain ⟨data, hdata, hadd⟩ := bind_eq_ok_iff.1 h
    refine ⟨.case data, congrArg Except.ok (Except.ok.inj hadd), ?_⟩
    rw [declared, hmembers]
    have hgives : d.Gives directory above data := data_eq_ok_iff.1 hdata
    exact .cons ⟨rfl, hgives⟩ .nil
  · simp only [hmembers] at h
    obtain ⟨settings, hsettings, hbuild⟩ := bind_eq_ok_iff.1 h
    obtain ⟨cases, hcases, hadd⟩ := bind_eq_ok_iff.1 hbuild
    obtain ⟨-, rfl⟩ := settings_eq_ok_iff.1 hsettings
    refine ⟨.batch (d.points.getD 0) cases, mapError_eq_ok_iff.1 hadd, ?_⟩
    rw [declared, hmembers, List.forall₂_map_left_iff]
    exact (membersData_eq_ok_iff.1 hcases).imp fun _ _ ⟨_, hgives⟩ ↦ ⟨rfl, hgives⟩

/-- What an entry adds to a tree comes from its declaration. -/
theorem flatten_of_addTo (h : d.addTo directory above number tree = .ok tree') :
    ∃ added, tree'.flatten = tree.flatten ++ added ∧
      List.Forall₂ (DeclaredCase.ComesFrom directory above) d.declared added := by
  obtain ⟨addition, hadd, hcases⟩ := exists_add_of_addTo h
  refine ⟨_, TreeBuilder.flatten_of_add hadd, ?_⟩
  exact (Addition.forall₂_flatten_node hcases _ _).imp
    fun _ _ ⟨⟨hbatch, hgives⟩, hnumber, hkey⟩ ↦ ⟨hnumber.trans hbatch.symm, hkey, hgives⟩

end CaseDeclaration

/-- Entries can be added to a tree exactly when all of them are sound. -/
theorem exists_addEntries_iff {first : Nat} {entries : List CaseDeclaration}
    {tree : TreeBuilder} :
    (∃ tree', addEntries directory above first entries tree = .ok tree') ↔
      ∀ entry ∈ entries, EntrySound entry := by
  -- what is added before the rest changes the tree, but not whether the rest can be added
  induction entries generalizing first tree with
  | nil => simp [addEntries]
  | cons d rest ih =>
    simp only [addEntries, bind_eq_ok_iff, List.forall_mem_cons]
    rw [← CaseDeclaration.exists_addTo_iff directory above first tree]
    constructor
    · rintro ⟨tree', between, hd, hrest⟩
      exact ⟨⟨between, hd⟩, ih.1 ⟨tree', hrest⟩⟩
    · rintro ⟨⟨between, hd⟩, hrest⟩
      obtain ⟨tree', h⟩ := ih.2 hrest
      exact ⟨tree', between, hd, h⟩

/-- What entries add to a tree comes from their declarations, in order. -/
theorem flatten_of_addEntries {first : Nat} {entries : List CaseDeclaration}
    {tree tree' : TreeBuilder} (h : addEntries directory above first entries tree = .ok tree') :
    ∃ added, tree'.flatten = tree.flatten ++ added ∧
      List.Forall₂ (DeclaredCase.ComesFrom directory above)
        (entries.flatMap CaseDeclaration.declared) added := by
  induction entries generalizing first tree with
  | nil =>
    obtain rfl := Except.ok.inj h
    exact ⟨[], (List.append_nil _).symm, .nil⟩
  | cons d rest ih =>
    obtain ⟨between, hd, hrest⟩ := bind_eq_ok_iff.1 h
    obtain ⟨added, hbetween, hadded⟩ := CaseDeclaration.flatten_of_addTo hd
    obtain ⟨more, hmore, hfrom⟩ := ih hrest
    refine ⟨added ++ more, by rw [hmore, hbetween, List.append_assoc], ?_⟩
    rw [List.flatMap_cons]
    exact List.rel_append hadded hfrom

/-! ### The nearest level -/

/-- The settings of a problem. -/
def Declaration.settings (directory : Path) (d : Declaration) : CaseSettings :=
  ⟨d.outputLimit, d.wallTimeFactor, placeLinks directory d.links⟩

/-- Settings in layers are those of the **nearest level**. -/
theorem DeclaredCase.layered_settingsAbove (d : Declaration) (directory : Path) (c : DeclaredCase) :
    c.own.layered directory (c.settingsAbove directory (d.settings directory)) =
      ⟨c.nearest (·.outputLimit) d.outputLimit, c.nearest (·.wallTimeFactor) d.wallTimeFactor,
        (c.nearest (·.links) d.links).map directory.join⟩ := by
  -- each setting is found at the first level that makes it, whatever the others make
  rcases c with ⟨own, - | batch⟩
  · rcases own with ⟨-, -, -, - | _, - | _, - | _, -⟩ <;> rfl
  · rcases own with ⟨-, -, -, - | _, - | _, - | _, -⟩ <;>
      rcases batch with ⟨-, -, -, - | _, - | _, - | _, -⟩ <;> rfl

/-- A case that comes from a declaration is the declared one. -/
theorem DeclaredCase.ComesFrom.holds {d : Declaration} {c : DeclaredCase}
    {placed : Option Nat × Case} (h : c.ComesFrom directory (d.settings directory) placed) :
    c.Holds d directory placed := by
  have hsettings := h.gives.settings.trans (c.layered_settingsAbove d directory)
  exact ⟨h.batched, h.batch, h.gives.input, h.gives.expected, h.gives.points,
    congrArg CaseSettings.outputLimit hsettings, congrArg CaseSettings.wallTimeFactor hsettings,
    congrArg CaseSettings.links hsettings⟩

/-- **The tree of a declaration.** There is one exactly when the declaration is sound, and its cases
are the declared ones, in order. -/
theorem Declaration.tree_declares (d : Declaration) (directory : Path) :
    ((∃ tree, d.tree directory = .ok tree) ↔ d.Sound) ∧
      ∀ tree, d.tree directory = .ok tree →
        List.Forall₂ (DeclaredCase.Holds d directory) d.declared tree.flatten := by
  simp only [Declaration.tree, bind_eq_ok_iff, checkFactor_eq_ok_iff, pure, Except.pure]
  constructor
  · constructor
    · rintro ⟨tree, _, ⟨hfactor, rfl⟩, built, h, -⟩
      exact ⟨hfactor, exists_addEntries_iff.1 ⟨built, h⟩⟩
    · rintro ⟨hfactor, hcases⟩
      obtain ⟨built, h⟩ := exists_addEntries_iff.2 hcases
      exact ⟨built.build, _, ⟨hfactor, rfl⟩, built, h, rfl⟩
  · rintro tree ⟨_, ⟨-, rfl⟩, built, h, hbuild⟩
    obtain rfl := Except.ok.inj hbuild
    obtain ⟨added, hflatten, hfrom⟩ := flatten_of_addEntries h
    rw [TreeBuilder.build, hflatten]
    exact hfrom.imp fun _ _ h ↦ h.holds

/-- A problem with one case that stands alone and a batch of two. The batch makes a setting for both
of its members, and the second member makes two for itself. -/
def twoLayers : Declaration where
  outputLimit := 1024
  links := .ofList [("data.txt", ⟨"aux/data.txt"⟩)]
  cases := [
    { input := some ⟨"1.in"⟩, expected := some ⟨"1.out"⟩, points := some 10 },
    { wallTimeFactor := some 5,
      members := some [{ input := some ⟨"2a.in"⟩ },
        { input := some ⟨"2b.in"⟩, outputLimit := some 64, links := some .empty }] }]

theorem sound_twoLayers : twoLayers.Sound := by
  have hfactor (factor : Float) : isFactor factor = true → FactorSound factor := isFactor_iff.1
  refine ⟨hfactor _ (by decide), ?_⟩
  simp only [twoLayers, List.forall_mem_cons, List.not_mem_nil, false_implies, implies_true,
    and_true]
  refine ⟨⟨nofun, nofun, nofun⟩, fun _ h ↦ Option.some.inj h ▸ hfactor _ (by decide), nofun, ?_⟩
  rintro _ ⟨⟩
  simp only [List.forall_mem_cons, List.not_mem_nil, false_implies, implies_true, and_true]
  exact ⟨nofun, ⟨nofun, nofun, rfl⟩, nofun, nofun, rfl⟩

/-- The settings of each case of the example come from three different levels. -/
theorem Declaration.tree_declares_twoLayers :
    ∃ tree, twoLayers.tree ⟨"/problem"⟩ = .ok tree ∧
      List.Forall₂ (DeclaredCase.Holds twoLayers ⟨"/problem"⟩) twoLayers.declared tree.flatten ∧
      twoLayers.declared.map (fun c ↦
          (c.nearest (·.outputLimit) 1024, c.nearest (·.wallTimeFactor) 3 == 5)) =
        [(1024, false), (1024, true), (64, true)] := by
  obtain ⟨hsound, hholds⟩ := tree_declares twoLayers ⟨"/problem"⟩
  obtain ⟨tree, htree⟩ := hsound.2 sound_twoLayers
  exact ⟨tree, htree, hholds tree htree, by decide⟩

end ContestJudge.Problem
