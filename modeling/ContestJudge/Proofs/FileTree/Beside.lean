import ContestJudge.Proofs.FileTree.Hosting
import ContestJudge.Proofs.FileTree.Making

/-!
# The same path inside and outside

A path of a tree and the path that has the way to the tree before it (`Beside`) are looked up alike,
in the tree and in one that has it at the end of that way. Where the walks of the two end is known
from `walk_hosted`; what is to be shown here is that the system refuses neither path, or both.

The two paths differ in length, and the system takes no path that is too long. So the length of the
outer path is bounded by what it names: if it leads anywhere, the names fit into the room that the
tree needs (`Room`), and what names nothing is counted apart, as the `idle` bytes of the relation.

* `Beside.walk` — both walks end at the same place of the tree. This rests on the steps of the outer
  path being the way and then the steps of the inner one (`steps_outside`), and on the way having no
  links in it.
* `Beside.resolve_eq_ok_iff` — so both paths lead to an entry or neither does, if there is room for
  the way, for the names and for the idle bytes (`Reachable`). A path that is too long has more
  names in it than lead anywhere.
* `Beside.find`, `Beside.findLink` — what both lead to, as a relation of the two answers (`Agree`).
  Faults need not be the same ones: an outer path may be too long where the inner one leads nowhere.

Joining a name costs the bytes that it takes to write it, and those count as named; joining `.` or a
part that stands for nothing costs idle bytes, two at the most (`Beside.join_of_ne_parent`). Joining
`..` is left out, as it could lead out of the tree.
-/

namespace ContestJudge.FileTree

open ContestJudge.Path (slashed IsName)

variable {t inner : FileTree} {base found : Place} {followLast : Bool}

/-! ### The way to the tree -/

/-- A directory, reached without links, below which there is room for so many more bytes. -/
structure Reachable (t : FileTree) (base : Place) (more : Nat) : Prop where
  place : IsPlace base
  directories : ∀ above, above <+: base → t.get? above = some .directory
  names : ∀ name ∈ base, name.utf8ByteSize ≤ nameLimit
  noNul : ∀ name ∈ base, '\x00' ∉ name.toList
  room : (pathOf base).text.utf8ByteSize + more ≤ pathLimit

/-! ### Two paths -/

/-- The steps that the parts of a text stand for. -/
def partSteps (cs : List Char) : List Step := (Path.splitParts cs).filterMap Step.ofPart

/-- A path of a tree and the same path of a tree that has it at `base`. At most `idle` bytes of the
path name nothing. -/
structure Beside (base : Place) (idle : Nat) (inside outside : Path) : Prop where
  rooted : startsAtRoot inside.text = true
  /-- The outer path has the way to the tree before it; the root inside is that way itself. -/
  texts : outside.text.toList = slashed (base.map String.toList) ++ inside.text.toList ∨
    inside = pathOf [] ∧ outside = pathOf base
  down : .up ∉ partSteps inside.text.toList
  size : inside.text.utf8ByteSize ≤ namesSize (partSteps inside.text.toList) + 1 + idle

/-- What looking up one entry inside and outside gives. -/
inductive Agree (base : Place) :
    Except IoFault (Place × Entry) → Except IoFault (Place × Entry) → Prop
  | found (place : Place) (entry : Entry) :
    Agree base (.ok (place, entry)) (.ok (base ++ place, entry))
  | lost (fault fault' : IoFault) : Agree base (.error fault) (.error fault')

theorem agree_of_iff {x y : Except IoFault (Place × Entry)}
    (h : ∀ found entry, y = .ok (found, entry) ↔
      ∃ place, found = base ++ place ∧ x = .ok (place, entry)) : Agree base x y := by
  rcases x with fault | ⟨place, entry⟩
  · rcases y with fault' | ⟨found, entry⟩
    · exact .lost fault fault'
    · obtain ⟨_, _, hx⟩ := (h found entry).1 rfl
      exact nomatch hx
  · obtain rfl : y = .ok (base ++ place, entry) := (h _ _).2 ⟨place, rfl, rfl⟩
    exact .found place entry

namespace Beside

variable {idle : Nat} {inside outside : Path} {x : String}

theorem root (base : Place) : Beside base 0 (pathOf []) (pathOf base) where
  rooted := rfl
  texts := .inr ⟨rfl, rfl⟩
  down := by decide
  size := by decide

theorem mono {idle' : Nat} (h : Beside base idle inside outside) (hle : idle ≤ idle') :
    Beside base idle' inside outside where
  rooted := h.rooted
  texts := h.texts
  down := h.down
  size := Nat.le_trans h.size (Nat.add_le_add_left hle _)

theorem inside_ne (h : Beside base idle inside outside) : inside.text ≠ "" :=
  Path.text_ne_empty h.rooted

theorem exists_inside_eq (h : Beside base idle inside outside) :
    ∃ cs, inside.text.toList = '/' :: cs :=
  List.head?_eq_some_iff.1 (of_decide_eq_true h.rooted)

/-- Joining a part to both of them. -/
theorem join_part {idle' : Nat} (hbase : IsPlace base) (h : Beside base idle inside outside)
    (hx : '/' ∉ x.toList) (hup : Step.ofPart x.toList ≠ some .up)
    (hsize : x.utf8ByteSize + 1 + idle ≤ namesSize (Step.ofPart x.toList).toList + idle') :
    Beside base idle' (inside.join ⟨x⟩) (outside.join ⟨x⟩) where
  rooted := by
    have hjoin := Path.isAbsolute_join inside ⟨x⟩
    exact hjoin.trans (Bool.or_eq_true_iff.2 (.inl h.rooted))
  texts := by
    have hrelative : (⟨x⟩ : Path).isAbsolute = false := Path.not_isAbsolute_of_noSlash hx
    refine .inl ?_
    rcases h.texts with htext | ⟨rfl, rfl⟩
    · have hinside : inside.text.toList ≠ [] := mt String.toList_eq_nil_iff.1 h.inside_ne
      have houtside : outside.text ≠ "" := by
        intro hempty
        rw [hempty] at htext
        exact hinside (List.append_eq_nil_iff.1 htext.symm).2
      rw [Path.toList_join_relative houtside hrelative,
        Path.toList_join_relative h.inside_ne hrelative, htext,
        List.getLast?_append_of_ne_nil _ hinside]
      -- both of them end in a slash or neither does
      split <;> exact List.append_assoc _ _ _
    · rw [toList_join_pathOf hbase hrelative, toList_join_pathOf isPlace_nil hrelative]
      rfl
  down := by
    rw [partSteps, Path.filterMap_splitParts_join rfl h.inside_ne hx]
    exact List.not_mem_append h.down fun hmem ↦ hup (Option.mem_toList.1 hmem)
  size := by
    have hlength := Path.utf8ByteSize_join_le (p := inside) hx
    have hinside := h.size
    rw [partSteps] at hinside
    rw [partSteps, Path.filterMap_splitParts_join rfl h.inside_ne hx, namesSize, List.map_append,
      List.sum_append]
    unfold namesSize at hinside hsize
    omega

/-- A name is all that it takes to write it. -/
theorem join_name (hbase : IsPlace base) (h : Beside base idle inside outside) (hx : IsName x) :
    Beside base idle (inside.join ⟨x⟩) (outside.join ⟨x⟩) := by
  have hstep : Step.ofPart x.toList = some (.into x) := ofPart_name hx
  refine h.join_part hbase hx.noSlash ?_ ?_
  · rw [hstep]
    exact nofun
  · rw [hstep]
    exact Nat.le_refl _

/-- Any part but `..` takes at most two bytes that name nothing. -/
theorem join_of_ne_parent (hbase : IsPlace base) (h : Beside base idle inside outside)
    (hx : '/' ∉ x.toList) (hparent : x ≠ "..") :
    Beside base (idle + 2) (inside.join ⟨x⟩) (outside.join ⟨x⟩) := by
  by_cases hempty : x = ""
  · subst hempty
    have hsize : "".utf8ByteSize = 0 := by decide
    exact h.join_part hbase hx nofun (by omega)
  by_cases hcurrent : x = "."
  · subst hcurrent
    have hsize : ".".utf8ByteSize = 1 := by decide
    exact h.join_part hbase hx nofun (by omega)
  · exact (h.join_name hbase ⟨hempty, hx, hcurrent, hparent⟩).mono (Nat.le_add_right _ _)

/-! ### Looking both of them up -/

theorem startsAtRoot_outside (h : Beside base idle inside outside) :
    startsAtRoot outside.text = true := by
  rcases h.texts with htext | ⟨-, rfl⟩
  · have hinside : inside.text.toList.head? = some '/' := of_decide_eq_true h.rooted
    refine decide_eq_true ?_
    rw [htext]
    cases base with
    | nil => exact hinside
    | cons first rest => rfl
  · exact isAbsolute_pathOf base

theorem not_mem_steps (h : Beside base idle inside outside) : .up ∉ steps inside.text := by
  refine List.not_mem_append h.down ?_
  split
  · decide
  · exact List.not_mem_nil

theorem namesSize_steps (text : String) :
    namesSize (steps text) = namesSize (partSteps text.toList) := by
  have hend : namesSize (if text.toList.getLast? = some '/' then [.slash] else []) = 0 := by
    split <;> rfl
  rw [namesSize] at hend
  rw [steps, namesSize, List.map_append, List.sum_append, hend]
  rfl

theorem steps_outside (hbase : IsPlace base) (h : Beside base idle inside outside)
    (htext : outside.text.toList = slashed (base.map String.toList) ++ inside.text.toList) :
    steps outside.text = base.map .into ++ steps inside.text := by
  obtain ⟨cs, hcs⟩ := h.exists_inside_eq
  have hway : Path.splitParts (slashed (base.map String.toList)) =
      [] :: base.map String.toList := by
    rw [← List.nil_append (slashed _)]
    exact Path.splitParts_slashed List.not_mem_nil hbase.noSlash
  have hlast : outside.text.toList.getLast? = inside.text.toList.getLast? := by
    rw [htext, hcs, List.getLast?_append_of_ne_nil _ (List.cons_ne_nil _ _)]
  have hoptional : Step.ofPart [] = none := rfl
  rw [steps, hlast, steps, htext, hcs, Path.splitParts_append_slash, hway, List.filterMap_append,
    List.filterMap_cons, hoptional, filterMap_ofPart hbase, List.append_assoc]
  rfl

/-- **The walks of both paths** end at the same place of the tree. -/
theorem walk (hinner : inner.Contained) (hhosts : t.Hosts base inner) {more : Nat}
    (hbase : t.Reachable base more) (h : Beside base idle inside outside) :
    t.walk followLast linkLimit [] (steps outside.text) =
      (inner.walk followLast linkLimit [] (steps inside.text)).map (Target.below base) := by
  have hway (path : List Step) :
      t.walk followLast linkLimit [] (base.map .into ++ path) =
        t.walk followLast linkLimit base path :=
    walk_directories (fun part hpart _ ↦ hbase.directories part hpart) hbase.names
  have hinside {path : List Step} (hpath : .up ∉ path) :
      t.walk followLast linkLimit base path =
        (inner.walk followLast linkLimit [] path).map (Target.below base) := by
    have hwalk : t.walk followLast linkLimit (base ++ []) path =
        (inner.walk followLast linkLimit [] path).map (Target.below base) :=
      walk_hosted hinner hhosts (goesIn_of_not_mem _ hpath)
    rwa [List.append_nil] at hwalk
  rcases h.texts with htext | ⟨rfl, rfl⟩
  · rw [h.steps_outside hbase.place htext, hway, hinside h.not_mem_steps]
  · by_cases hne : base = []
    · subst hne
      exact hinside h.not_mem_steps
    · have hroot : t.walk followLast linkLimit base [] =
          (inner.walk followLast linkLimit [] (steps (pathOf []).text)).map (Target.below base) :=
        hinside List.not_mem_nil
      rw [steps_pathOf hbase.place hne, ← List.append_nil (base.map Step.into), hway, hroot]

theorem contains_nul (hnul : ∀ name ∈ base, '\x00' ∉ name.toList)
    (h : Beside base idle inside outside) :
    outside.text.toList.contains '\x00' = inside.text.toList.contains '\x00' := by
  have hway : (slashed (base.map String.toList)).contains '\x00' = false := by
    rw [Bool.eq_false_iff, Ne, List.contains_iff_mem, slashed, List.mem_flatMap]
    rintro ⟨part, hpart, hmem⟩
    obtain ⟨name, hname, rfl⟩ := List.mem_map.1 hpart
    exact (List.mem_cons.1 hmem).elim (by decide) (hnul name hname)
  rcases h.texts with htext | ⟨rfl, rfl⟩
  · rw [htext, List.contains_append, hway, Bool.false_or]
  · by_cases hne : base = []
    · subst hne
      rfl
    · rw [toList_pathOf hne, hway]
      decide

/-- The outer path takes at most the bytes of both. -/
theorem utf8ByteSize_outside_le (h : Beside base idle inside outside) :
    outside.text.utf8ByteSize ≤ (pathOf base).text.utf8ByteSize + inside.text.utf8ByteSize := by
  rcases h.texts with htext | ⟨rfl, rfl⟩
  · have hway : String.ofList (slashed (base.map String.toList)) = (pathOf base).text ∨
        base = [] := by
      by_cases hne : base = []
      · exact .inr hne
      · exact .inl (by rw [← toList_pathOf hne, String.ofList_toList])
    have houtside : outside.text =
        String.ofList (slashed (base.map String.toList)) ++ inside.text := by
      rw [← String.toList_inj, String.toList_append, String.toList_ofList, htext]
    rw [houtside, String.utf8ByteSize_append]
    rcases hway with hway | rfl
    · have hsize := congrArg String.utf8ByteSize hway
      omega
    · exact Nat.add_le_add_right (Nat.zero_le _) _
  · exact Nat.le_add_right _ _

/-- **Both paths lead to an entry, or neither does**: a path that the system finds too long has more
names in it than the tree has room for. -/
theorem resolve_eq_ok_iff (hinner : inner.Contained) (hhosts : t.Hosts base inner) {room : Nat}
    (hroom : inner.Room room) (hbase : t.Reachable base (room + 1 + idle))
    (h : Beside base idle inside outside) {entry : Entry} :
    t.resolve followLast outside = .ok (.existing found entry) ↔
      ∃ place, found = base ++ place ∧
        inner.resolve followLast inside = .ok (.existing place entry) := by
  -- what leads somewhere has no more names than there is room for, so neither path is too long
  have hshort {place : Place}
      (hwalk : inner.walk followLast linkLimit [] (steps inside.text) =
        .ok (.existing place entry)) :
      inside.text.utf8ByteSize ≤ pathLimit ∧ outside.text.utf8ByteSize ≤ pathLimit := by
    have hsize := h.size
    have houtside := h.utf8ByteSize_outside_le
    have hnames := hroom _ _ _ _ h.not_mem_steps hwalk
    have hlimit := hbase.room
    rw [namesSize_steps] at hnames
    omega
  rw [FileTree.resolve_eq_ok_iff h.startsAtRoot_outside, h.walk hinner hhosts hbase]
  constructor
  · rintro ⟨hadmissible, hwalk⟩
    obtain ⟨result, hresult, hbelow⟩ := map_eq_ok_iff.1 hwalk
    cases result with
    | missing => exact nomatch hbelow
    | existing place entry' =>
      cases hbelow
      refine ⟨place, rfl, (FileTree.resolve_eq_ok_iff h.rooted).2 ⟨⟨?_, ?_⟩, hresult⟩⟩
      · rw [← h.contains_nul hbase.noNul]
        exact hadmissible.noNul
      · exact (hshort hresult).1
  · rintro ⟨place, rfl, hresolve⟩
    obtain ⟨hadmissible, hwalk⟩ := (FileTree.resolve_eq_ok_iff h.rooted).1 hresolve
    refine ⟨⟨?_, (hshort hwalk).2⟩, ?_⟩
    · rw [h.contains_nul hbase.noNul]
      exact hadmissible.noNul
    · rw [hwalk]
      rfl

/-- What both paths lead to. -/
theorem find (hinner : inner.Contained) (hhosts : t.Hosts base inner) {room : Nat}
    (hroom : inner.Room room) (hbase : t.Reachable base (room + 1 + idle))
    (h : Beside base idle inside outside) : Agree base (inner.find inside) (t.find outside) := by
  refine agree_of_iff fun found entry ↦ ?_
  simp only [find_eq_ok_iff]
  exact h.resolve_eq_ok_iff hinner hhosts hroom hbase

/-- What both paths name. -/
theorem findLink (hinner : inner.Contained) (hhosts : t.Hosts base inner) {room : Nat}
    (hroom : inner.Room room) (hbase : t.Reachable base (room + 1 + idle))
    (h : Beside base idle inside outside) :
    Agree base (inner.findLink inside) (t.findLink outside) := by
  refine agree_of_iff fun found entry ↦ ?_
  simp only [findLink_eq_ok_iff]
  exact h.resolve_eq_ok_iff hinner hhosts hroom hbase

/-- Both paths end in the same name, if the inner one ends in a name. -/
theorem fileName?_eq (h : Beside base idle inside outside) (hname : inside.fileName? ≠ none) :
    outside.fileName? = inside.fileName? := by
  have hinside := Path.components_of_rooted h.rooted
  have houtside := Path.components_of_rooted h.startsAtRoot_outside
  have hnames : (Path.splitParts inside.text.toList).filterMap Path.componentOfPart ≠ [] := by
    intro hnil
    rw [Path.fileName?, hinside, hnil] at hname
    exact hname rfl
  rcases h.texts with htext | ⟨rfl, -⟩
  · obtain ⟨cs, hcs⟩ := h.exists_inside_eq
    have hparts : Path.splitParts outside.text.toList =
        Path.splitParts (slashed (base.map String.toList)) ++ Path.splitParts cs := by
      rw [htext, hcs, Path.splitParts_append_slash]
    have hrest : (Path.splitParts inside.text.toList).filterMap Path.componentOfPart =
        (Path.splitParts cs).filterMap Path.componentOfPart := by
      rw [hcs]
      rfl
    rw [hrest] at hinside hnames
    rw [Path.fileName?, Path.fileName?, hinside, houtside, hparts, List.filterMap_append,
      ← List.cons_append, List.getLast?_append_of_ne_nil _ hnames,
      ← List.singleton_append, List.getLast?_append_of_ne_nil _ hnames]
  · exact absurd rfl hname

end Beside

namespace Agree

variable {inside outside : Path}

theorem toBool_eq {x y : Except IoFault (Place × Entry)} (h : Agree base x y) :
    y.toBool = x.toBool := by
  cases h <;> rfl

theorem isDirectory_eq (h : Agree base (inner.find inside) (t.find outside)) :
    t.isDirectory outside = inner.isDirectory inside := by
  unfold isDirectory
  generalize inner.find inside = x at h
  generalize t.find outside = y at h
  cases h with
  | found place entry => cases entry <;> rfl
  | lost => rfl

theorem isFile_eq (h : Agree base (inner.find inside) (t.find outside)) :
    t.isFile outside = inner.isFile inside := by
  unfold isFile
  generalize inner.find inside = x at h
  generalize t.find outside = y at h
  cases h with
  | found place entry => cases entry <;> rfl
  | lost => rfl

end Agree

/-! ### The directories on the way -/

namespace Reachable

variable {more : Nat} {above : Place}

theorem admissible (h : t.Reachable base more) : Admissible (pathOf base) where
  noNul := by
    have hroot := (Beside.root base).contains_nul h.noNul
    exact hroot
  short := Nat.le_trans (Nat.le_add_right _ _) h.room

/-- Every directory on the way is found. -/
theorem find_pathOf (h : t.Reachable base more) (habove : above <+: base) :
    t.find (pathOf above) = .ok (above, .directory) := by
  obtain ⟨names, rfl⟩ := habove
  have hadmissible : Admissible (pathOf above) := h.admissible.of_append
  have hwalk : t.walk true linkLimit [] (above.map .into ++ []) = t.walk true linkLimit above [] :=
    walk_directories
      (fun part hpart _ ↦ h.directories part (hpart.trans (List.prefix_append _ _)))
      fun name hname ↦ h.names name (List.mem_append_left _ hname)
  refine (find_pathOf_eq_ok h.place.of_append).2 ⟨hadmissible, walk_eq_ok_iff.1 ?_⟩
  rw [← List.append_nil (above.map Step.into), hwalk, walk_eq_walkOn]
  rfl

end Reachable

end ContestJudge.FileTree
