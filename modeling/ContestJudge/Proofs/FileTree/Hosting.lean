import ContestJudge.FileTree.Operations
import ContestJudge.Proofs.FileTree.Walking
import ContestJudge.Proofs.Path.Within
import Mathlib.Algebra.Ring.Nat

/-!
# A tree inside another one

`Hosts t base inner` says that the tree `inner` lies at the place `base` of `t`. It speaks of what
lies there and of what directories list, and of nothing that lies beside. Where a walk ends that
starts inside does not depend on the place, as long as nothing leads out.

* `walk_hosted` — a walk inside leads to the same end wherever the tree lies. The induction is on
  the walk, and what it keeps is that the steps left over lead up no further than to the root of
  `inner` (`GoesIn`). A link brings steps of its own, so that links stay inside is asked of the tree
  (`Contained`).
* `room_of_placeSize_le` — how long the paths are that lead anywhere is a matter of `inner` alone.
  Between two links a walk only gets deeper, so its names take no more bytes than the deepest entry
  has (`Walks.namesSize_le`), and the number of links bounds how often that can be.
* `hosts_graft` — every tree can be put at every place, so what is shown of hosted trees is about
  something.

`GoesIn` asks that a path leads up only at its beginning. This is more than what is needed to stay
inside, but it can be read off the text of a link without knowing what its names lead to, and it is
decidable.
-/

namespace ContestJudge.FileTree

open ContestJudge.Path (IsName)

variable {t inner : FileTree} {base place names found : Place} {followLast : Bool} {links : Nat}
  {path rest : List Step}

/-! ### Steps that stay inside -/

/-- Whether steps that are taken so many levels down lead up no further than these levels, and only
before they enter anything. -/
def GoesIn : (depth : Nat) → List Step → Prop
  | _, [] => True
  | 0, .up :: _ => False
  | depth + 1, .up :: rest => GoesIn depth rest
  | depth, .stay :: rest => GoesIn depth rest
  | depth, .slash :: rest => GoesIn depth rest
  | _, .into _ :: rest => .up ∉ rest

instance decidableGoesIn : (depth : Nat) → (path : List Step) → Decidable (GoesIn depth path)
  | _, [] => .isTrue trivial
  | 0, .up :: _ => .isFalse id
  | depth + 1, .up :: rest => decidableGoesIn depth rest
  | depth, .stay :: rest => decidableGoesIn depth rest
  | depth, .slash :: rest => decidableGoesIn depth rest
  | _, .into _ :: rest => inferInstanceAs (Decidable (.up ∉ rest))

theorem goesIn_of_not_mem (depth : Nat) (h : .up ∉ path) : GoesIn depth path := by
  induction path with
  | nil => trivial
  | cons step rest ih =>
    obtain ⟨hstep, hrest⟩ := not_or.1 (mt List.mem_cons.2 h)
    cases step with
    | up => exact absurd rfl hstep
    | stay => exact ih hrest
    | slash => exact ih hrest
    | into name => exact hrest

theorem GoesIn.append {depth : Nat} (h : GoesIn depth path) (hrest : .up ∉ rest) :
    GoesIn depth (path ++ rest) := by
  induction path generalizing depth with
  | nil => exact goesIn_of_not_mem depth hrest
  | cons step path ih =>
    cases step with
    | up =>
      cases depth with
      | zero => exact h.elim
      | succ depth => exact @ih depth h
    | stay => exact @ih depth h
    | slash => exact @ih depth h
    | into name => exact List.not_mem_append h hrest

/-! ### Trees at a place -/

/-- A tree that nothing leads out of, with names that a system allows. -/
structure Contained (inner : FileTree) : Prop where
  /-- Directories list names. -/
  names : ∀ place, ∀ name ∈ inner.childNames place, IsName name
  /-- Links are relative and stay inside. -/
  links : ∀ place name target, inner.get? (place ++ [name]) = some (.link target) →
    startsAtRoot target = false ∧ GoesIn place.length (steps target)

/-- One tree lies at a place of another one. -/
structure Hosts (t : FileTree) (base : Place) (inner : FileTree) : Prop where
  /-- What lies there. -/
  same : ∀ names, t.get? (base ++ names) = inner.get? names
  /-- What directories list. -/
  listed : ∀ names, t.childNames (base ++ names) = inner.childNames names

/-- A tree is contained as soon as its entries are. -/
theorem contained_of_entries (hnames : ∀ e ∈ inner.entries, ∀ name ∈ e.1, IsName name)
    (hlinks : ∀ e ∈ inner.entries, ∀ target, e.2 = .link target →
      startsAtRoot target = false ∧ GoesIn (e.1.length - 1) (steps target)) :
    inner.Contained where
  names place name hname := by
    obtain ⟨e, he, hlast⟩ := List.mem_filterMap.1 (List.mem_mergeSort.1 hname)
    split at hlast
    · exact hnames e he name (List.mem_of_getLast? hlast)
    · exact nomatch hlast
  links place name target hlink := by
    rw [get?, if_neg (List.concat_ne_nil _ _)] at hlink
    have hinside := hlinks _ (mem_of_lookup_eq_some hlink) target rfl
    rwa [List.length_append, List.length_singleton, Nat.add_sub_cancel] at hinside

/-- The end of a walk as it is seen from above. -/
def Target.below (base : Place) : Target → Target
  | .existing place entry => .existing (base ++ place) entry
  | .missing directory name slash => .missing (base ++ directory) name slash

theorem walkOn_hosted (hinner : inner.Contained) (h : t.Hosts base inner)
    {follow follow' : Place → List Step → Except IoFault Target}
    (hfollow : ∀ names path, GoesIn names.length path →
      follow (base ++ names) path = (follow' names path).map (Target.below base))
    (hpath : GoesIn names.length path) :
    t.walkOn followLast follow (base ++ names) path =
      (inner.walkOn followLast follow' names path).map (Target.below base) := by
  induction path generalizing names with
  | nil => rfl
  | cons step rest ih =>
    cases step with
    | stay => exact ih hpath
    | slash => exact ih hpath
    | up =>
      rcases List.eq_nil_or_concat' names with rfl | ⟨above, name, rfl⟩
      · exact hpath.elim
      · have habove : GoesIn above.length rest := by
          rwa [List.length_append] at hpath
        have hup : (base ++ (above ++ [name])).dropLast = base ++ above := by
          rw [← List.append_assoc, List.dropLast_concat]
        rw [walkOn, walkOn, hup, List.dropLast_concat]
        exact ih habove
    | into name =>
      have hrest : .up ∉ rest := hpath
      have hnext : base ++ names ++ [name] = base ++ (names ++ [name]) := List.append_assoc _ _ _
      rw [walkOn, walkOn]
      simp only [hnext, h.same]
      split
      · rfl
      · split
        next =>
          split
          · rfl
          · split <;> rfl
        next => exact ih (goesIn_of_not_mem _ hrest)
        next target hpresent =>
          -- the link is relative, so its steps are walked from a place inside as well
          obtain ⟨hrelative, hinside⟩ := hinner.links names name target hpresent
          simp only [hrelative]
          split
          · rfl
          · exact hfollow _ _ (hinside.append hrest)
        next => split <;> rfl

/-- **A walk inside** leads to the same end wherever the tree lies. -/
theorem walk_hosted (hinner : inner.Contained) (h : t.Hosts base inner)
    (hpath : GoesIn names.length path) :
    t.walk followLast links (base ++ names) path =
      (inner.walk followLast links names path).map (Target.below base) := by
  induction links generalizing names path with
  | zero => exact walkOn_hosted hinner h (fun _ _ _ ↦ rfl) hpath
  | succ links ih => exact walkOn_hosted hinner h (fun _ _ h ↦ ih h) hpath

/-- A walk goes down the directories that it names. -/
theorem walk_directories
    (hdirectories : ∀ part, part <+: names → part ≠ [] → t.get? (place ++ part) = some .directory)
    (hshort : ∀ name ∈ names, name.utf8ByteSize ≤ nameLimit) :
    t.walk followLast links place (names.map .into ++ path) =
      t.walk followLast links (place ++ names) path := by
  induction names generalizing place with
  | nil => rw [List.map_nil, List.nil_append, List.append_nil]
  | cons name rest ih =>
    obtain ⟨hname, hrest⟩ := List.forall_mem_cons.1 hshort
    have hnext : t.get? (place ++ [name]) = some .directory :=
      hdirectories [name] ⟨rest, rfl⟩ (List.cons_ne_nil _ _)
    have hbelow : ∀ part, part <+: rest → part ≠ [] →
        t.get? (place ++ [name] ++ part) = some .directory := by
      intro part hpart _
      rw [List.append_assoc]
      exact hdirectories _ ((List.cons_prefix_cons).2 ⟨rfl, hpart⟩) (List.cons_ne_nil _ _)
    have hstep : t.walk followLast links place (.into name :: (rest.map .into ++ path)) =
        t.walk followLast links (place ++ [name]) (rest.map .into ++ path) := by
      rw [walk_eq_walkOn, walkOn, if_neg (Nat.not_lt.2 hname), hnext]
    rw [List.map_cons, List.cons_append, hstep, ih hbelow hrest, List.append_assoc]
    rfl

/-! ### How much room a tree needs -/

/-- The bytes that it takes to write a step: a name has a slash before it. -/
def Step.size : Step → Nat
  | .into name => name.utf8ByteSize + 1
  | _ => 0

/-- The bytes that it takes to write the names of some steps. -/
def namesSize (path : List Step) : Nat := (path.map Step.size).sum

/-- Steps whose names take more than so many bytes lead nowhere. -/
def Room (inner : FileTree) (room : Nat) : Prop :=
  ∀ followLast path place entry, .up ∉ path →
    inner.walk followLast linkLimit [] path = .ok (.existing place entry) → namesSize path ≤ room

/-- The bytes that it takes to write a place below a directory. -/
def placeSize (place : Place) : Nat := namesSize (place.map .into)

theorem placeSize_concat (place : Place) (name : String) :
    placeSize (place ++ [name]) = placeSize place + (name.utf8ByteSize + 1) := by
  rw [placeSize, namesSize, List.map_append, List.map_append, List.sum_append]
  rfl

theorem placeSize_dropLast_le (place : Place) : placeSize place.dropLast ≤ placeSize place := by
  rcases List.eq_nil_or_concat' place with rfl | ⟨above, name, rfl⟩
  · exact Nat.le_refl _
  · rw [List.dropLast_concat, placeSize_concat]
    exact Nat.le_add_right _ _

theorem namesSize_cons (step : Step) (rest : List Step) :
    namesSize (step :: rest) = step.size + namesSize rest := rfl

theorem namesSize_append (path rest : List Step) :
    namesSize (path ++ rest) = namesSize path + namesSize rest := by
  rw [namesSize, List.map_append, List.sum_append]
  rfl

/-- What a walk enters between two links lies deeper and deeper, so its names take no more bytes
than the deepest entry has. -/
theorem Walks.namesSize_le (hinner : inner.Contained) {size : Nat}
    (hsize : ∀ place entry, inner.get? place = some entry → placeSize place ≤ size)
    {entry : Entry} (hplace : placeSize place ≤ size) (hpath : GoesIn place.length path)
    (h : Walks inner followLast links place path (.existing found entry)) :
    namesSize path ≤ (links + 1) * size ∧
      (.up ∉ path → placeSize place + namesSize path ≤ (links + 1) * size) := by
  have hle (links : Nat) : size ≤ (links + 1) * size := Nat.le_mul_of_pos_left _ (Nat.succ_pos _)
  have hinto {place : Place} {name : String} {rest : List Step} {bound : Nat}
      (h : placeSize place + (name.utf8ByteSize + 1) + namesSize rest ≤ bound) :
      namesSize (.into name :: rest) ≤ bound ∧
        (.up ∉ .into name :: rest → placeSize place + namesSize (.into name :: rest) ≤ bound) := by
    have hsizes : namesSize (.into name :: rest) = name.utf8ByteSize + 1 + namesSize rest := rfl
    exact ⟨by omega, fun _ ↦ by omega⟩
  have hidle {place : Place} {step : Step} {rest : List Step} {bound : Nat} (hstep : step.size = 0)
      (h : namesSize rest ≤ bound ∧ (.up ∉ rest → placeSize place + namesSize rest ≤ bound)) :
      namesSize (step :: rest) ≤ bound ∧
        (.up ∉ step :: rest → placeSize place + namesSize (step :: rest) ≤ bound) := by
    rw [namesSize_cons, hstep, Nat.zero_add]
    exact ⟨h.1, fun hup ↦ h.2 (List.not_mem_of_not_mem_cons hup)⟩
  have hlast {place : Place} {name : String} {entry : Entry} (links : Nat)
      (present : inner.get? (place ++ [name]) = some entry) :
      placeSize place + (name.utf8ByteSize + 1) + namesSize [] ≤ (links + 1) * size := by
    have hnext := hsize _ _ present
    rw [placeSize_concat] at hnext
    exact Nat.le_trans hnext (hle links)
  generalize hresult : Target.existing found entry = result at h
  induction h with
  | @done links place => exact ⟨Nat.zero_le _, fun _ ↦ Nat.le_trans hplace (hle links)⟩
  | stay _ ih => exact hidle rfl (ih hplace hpath hresult)
  | slash _ ih => exact hidle rfl (ih hplace hpath hresult)
  | @up links place rest _ _ ih =>
    refine ⟨?_, fun hup ↦ absurd List.mem_cons_self hup⟩
    have hrest : GoesIn place.dropLast.length rest := by
      rcases List.eq_nil_or_concat' place with rfl | ⟨above, name, rfl⟩
      · exact hpath.elim
      · rw [List.dropLast_concat]
        rwa [List.length_append] at hpath
    have hnames := (ih (Nat.le_trans (placeSize_dropLast_le place) hplace) hrest hresult).1
    have hsame : namesSize (.up :: rest) = namesSize rest := Nat.zero_add _
    rwa [hsame]
  | missing => exact nomatch hresult
  | missingSlash => exact nomatch hresult
  | @directory links place name rest _ _ present _ ih =>
    have hnext := hsize _ _ present
    have hbelow := (ih hnext (goesIn_of_not_mem _ hpath) hresult).2 hpath
    rw [placeSize_concat] at hbelow
    exact hinto hbelow
  | @link links _ _ _ _ present => exact hinto (hlast links present)
  | @follow links place name target rest _ _ present _ _ ih =>
    obtain ⟨hrelative, hinside⟩ := hinner.links place name target present
    have hnext := hsize _ _ present
    rw [placeSize_concat] at hnext
    rw [hrelative, if_neg Bool.false_ne_true] at ih
    -- the names up to the link take `size` bytes, and those behind it have one link less
    have hrest := (ih hplace (hinside.append hpath) hresult).1
    rw [namesSize_append] at hrest
    refine hinto ?_
    rw [Nat.succ_mul]
    omega
  | @entry links _ _ _ _ present => exact hinto (hlast links present)

/-- **A tree needs no more room** than its deepest entry would for each link that may be followed
and once more. -/
theorem room_of_placeSize_le (hinner : inner.Contained) {size : Nat}
    (hsize : ∀ e ∈ inner.entries, placeSize e.1 ≤ size) :
    inner.Room ((linkLimit + 1) * size) := by
  intro followLast path place entry hup hwalk
  have hplaces : ∀ place entry, inner.get? place = some entry → placeSize place ≤ size := by
    intro place entry hentry
    rw [get?] at hentry
    split at hentry
    next hroot =>
      subst hroot
      exact Nat.zero_le _
    · exact hsize _ (mem_of_lookup_eq_some hentry)
  exact ((walk_eq_ok_iff.1 hwalk).namesSize_le hinner hplaces (Nat.zero_le _)
    (goesIn_of_not_mem _ hup)).1

/-! ### Putting a tree at a place -/

/-- A tree in a directory of the root. -/
def under (name : String) (inner : FileTree) : FileTree where
  entries := ([name], .directory) :: inner.entries.map fun e ↦ (name :: e.1, e.2)
  current := inner.current

/-- A tree at a place, with nothing beside the way to it. -/
def graft (base : Place) (inner : FileTree) : FileTree := base.foldr under inner

theorem lookup_map_cons (name : String) (entries : List (Place × Entry)) (place : Place) :
    (entries.map fun e ↦ (name :: e.1, e.2)).lookup (name :: place) = entries.lookup place := by
  induction entries with
  | nil => rfl
  | cons first rest ih =>
    rw [List.map_cons, List.lookup_cons, List.lookup_cons, ih]
    have hkey : (name :: place == name :: first.1) = (place == first.1) := by
      rw [List.cons_beq_cons, beq_self_eq_true, Bool.true_and]
    rw [hkey]

theorem hosts_under (name : String) (inner : FileTree) : (under name inner).Hosts [name] inner where
  same names := by
    have hlookup : (under name inner).get? (name :: names) =
        if names = [] then some .directory else inner.entries.lookup names := by
      rw [get?, if_neg (List.cons_ne_nil _ _), under, List.lookup_cons, lookup_map_cons]
      cases names with
      | nil => simp
      | cons => simp
    exact hlookup
  listed names := by
    have hentry : ∀ e ∈ inner.entries,
        ((fun e ↦ if e.1.dropLast = [name] ++ names then e.1.getLast? else none) ∘
            fun e : Place × Entry ↦ (name :: e.1, e.2)) e =
          if e.1.dropLast = names then e.1.getLast? else none := by
      rintro ⟨place, entry⟩ -
      cases place <;> simp
    have hway : [name].dropLast ≠ [name] ++ names := (List.cons_ne_nil _ _).symm
    unfold childNames
    rw [under, List.filterMap_cons, if_neg hway, List.filterMap_map, List.filterMap_congr hentry]

theorem Hosts.trans {way : Place} {middle : FileTree} (h : t.Hosts way middle)
    (h' : middle.Hosts base inner) : t.Hosts (way ++ base) inner where
  same names := by rw [List.append_assoc, h.same, h'.same]
  listed names := by rw [List.append_assoc, h.listed, h'.listed]

theorem hosts_graft (base : Place) (inner : FileTree) : (graft base inner).Hosts base inner := by
  induction base with
  | nil => exact ⟨fun _ ↦ rfl, fun _ ↦ rfl⟩
  | cons name rest ih => exact (hosts_under name (graft rest inner)).trans ih

theorem get?_graft_of_prefix {above : Place} (h : above <+: base) :
    (graft base inner).get? above = some .directory := by
  induction base generalizing above with
  | nil =>
    obtain rfl := List.prefix_nil.1 h
    exact get?_nil _
  | cons name rest ih =>
    cases above with
    | nil => exact get?_nil _
    | cons first above =>
      obtain ⟨rfl, habove⟩ := List.cons_prefix_cons.1 h
      have hsame : (graft (first :: rest) inner).get? (first :: above) =
          (graft rest inner).get? above := (hosts_under first (graft rest inner)).same above
      rw [hsame, ih habove]


end ContestJudge.FileTree
