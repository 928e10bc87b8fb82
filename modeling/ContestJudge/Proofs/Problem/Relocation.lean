import ContestJudge.Problem.Store
import ContestJudge.Proofs.Glob.Hosted

/-!
# Problems wherever their tree lies

The problems that are found below a directory are those of the tree that lies there: their names,
and the places of their directories in that tree. So the same tree gives the same problems in one
directory as in another, for directories whose names have no wildcards in them.

* `discover_eq` — the problems below a directory are the `layout` of the tree, which is computed in
  the tree alone. It rests on the search for paths (`Glob.pathsBelow_hosted`) and on each path
  qualifying inside exactly if it does outside (`qualify_hosted`); putting the problems into a store
  keeps their order and the first of each name (`foldl_insertIfNew_map`).
* `discover_relocated` — so two directories with the same tree have the same problems, since both
  are the layout of that tree.
* `discover_differs` — a directory is joined to a pattern as it is, and a name like `a[b]` is then
  read as a part of the pattern, which the directory itself does not match.

## What is asked

The tree has to be one that nothing leads out of (`Contained`), with room for its paths where it
lies (`IsHome`), and the patterns have to lead down (`Searchable`). No problem may be the whole tree
(`Named`): its name would be that of the directory, which is the one thing about a directory that a
problem could tell.
-/

namespace ContestJudge

namespace NameMap

variable {α β : Type _}

theorem ext_entries {m m' : NameMap α} (h : m.entries = m'.entries) : m = m' := by
  cases m
  cases m'
  cases h
  rfl

theorem lookup_map_snd (f : α → β) (key : String) (entries : List (String × α)) :
    (entries.map fun e ↦ (e.1, f e.2)).lookup key = (entries.lookup key).map f := by
  induction entries with
  | nil => rfl
  | cons first rest ih =>
    rw [List.map_cons, List.lookup_cons, List.lookup_cons, ih]
    cases key == first.1 <;> rfl

theorem insertEntry_map (f : α → β) (key : String) (value : α) (entries : List (String × α)) :
    insertEntry key (f value) (entries.map fun e ↦ (e.1, f e.2)) =
      (insertEntry key value entries).map fun e ↦ (e.1, f e.2) := by
  induction entries with
  | nil => rfl
  | cons first rest ih =>
    rw [List.map_cons, insertEntry, insertEntry]
    split
    · rfl
    · split
      · rfl
      · rw [ih, List.map_cons]

theorem insertIfNew_map (f : α → β) (m : NameMap α) (key : String) (value : α) :
    (m.map f).insertIfNew key (f value) = (m.insertIfNew key value).map f := by
  have hcontains : (m.map f).contains key = m.contains key := by
    have hlookup : (m.map f).get? key = (m.get? key).map f := lookup_map_snd f key m.entries
    rw [contains, contains, hlookup, Option.isSome_map]
  rw [insertIfNew, insertIfNew, hcontains]
  split
  · rfl
  · exact ext_entries (insertEntry_map f key value m.entries)

theorem keys_map (f : α → β) (m : NameMap α) : (m.map f).keys = m.keys := by
  rw [keys, keys, map, List.map_map]
  rfl

/-- Entries that are put in one after the other may be changed before or after. -/
theorem foldl_insertIfNew_map (f : α → β) (entries : List (String × α)) (m : NameMap α) :
    (entries.map fun e ↦ (e.1, f e.2)).foldl (fun m e ↦ m.insertIfNew e.1 e.2) (m.map f) =
      (entries.foldl (fun m e ↦ m.insertIfNew e.1 e.2) m).map f := by
  induction entries generalizing m with
  | nil => rfl
  | cons first rest ih => rw [List.map_cons, List.foldl_cons, List.foldl_cons, insertIfNew_map, ih]

end NameMap

namespace Problem.Store

open FileTree (Beside pathOf)

variable {t inner : FileTree} {base : Place} {patterns : List Glob.Pattern} {room limit : Nat}
  {inside outside : Path}

/-! ### The problems of a tree -/

/-- The id and place of a path that leads to a problem. -/
def problemAt (tree : FileTree) (path : Path) : Option (String × Place) :=
  if !tree.isFile (path.join fileName) then none
  else match path.fileName?, tree.find path with
    | some id, .ok (place, _) => some (id, place)
    | _, _ => none

/-- The paths of a tree that match a pattern. -/
def pathsFor (tree : FileTree) (pattern : Glob.Pattern) : List Path :=
  (Glob.pathsBelow tree (pathOf []) pattern.text).toOption.getD []

/-- The problems of a tree with the places of their directories. -/
def layout (tree : FileTree) (patterns : List Glob.Pattern) : NameMap Place :=
  ((patterns.flatMap (pathsFor tree)).filterMap (problemAt tree)).foldl
    (fun found problem ↦ found.insertIfNew problem.1 problem.2) .empty

/-- A pattern that stays below the directory where it starts and has few components. -/
structure Searchable (limit : Nat) (text : String) : Prop where
  relative : FileTree.startsAtRoot text = false
  down : Glob.GoesDown text
  few : 2 * (Glob.componentTexts text).length ≤ limit

/-- No problem that is found in a tree is the whole tree: its name would be that of the directory
where the tree lies. -/
def Named (tree : FileTree) (patterns : List Glob.Pattern) : Prop :=
  ∀ q ∈ patterns, ∀ path ∈ pathsFor tree q, tree.isFile (path.join fileName) = true →
    path.fileName? ≠ none

instance (tree : FileTree) (patterns : List Glob.Pattern) : Decidable (Named tree patterns) :=
  inferInstanceAs (Decidable (∀ q ∈ patterns, ∀ path ∈ pathsFor tree q,
    tree.isFile (path.join fileName) = true → path.fileName? ≠ none))

/-- A directory where a tree lies. Its names have no wildcards, and there is room for so many more
bytes in a path. -/
structure IsHome (t : FileTree) (base : Place) (inner : FileTree) (more : Nat) : Prop where
  hosts : t.Hosts base inner
  reachable : t.Reachable base more
  literal : ∀ name ∈ base, Glob.IsLiteral name.toList

/-! ### Paths that lead to problems -/

theorem isName_fileName : Path.IsName fileName.text := by decide

/-- A tree can be put at every place that has no wildcards and leaves room. -/
theorem isHome_graft {more : Nat} (hplace : ∀ name ∈ base, Path.IsName name ∧
      Glob.IsLiteral name.toList ∧ name.utf8ByteSize ≤ FileTree.nameLimit ∧ '\x00' ∉ name.toList)
    (hmore : (pathOf base).text.utf8ByteSize + more ≤ FileTree.pathLimit) :
    IsHome (FileTree.graft base inner) base inner more where
  hosts := FileTree.hosts_graft base inner
  reachable :=
    { place := fun name hname ↦ (hplace name hname).1
      directories := fun _ habove ↦ FileTree.get?_graft_of_prefix habove
      names := fun name hname ↦ (hplace name hname).2.2.1
      noNul := fun name hname ↦ (hplace name hname).2.2.2
      room := hmore }
  literal name hname := (hplace name hname).2.1

theorem qualify_hosted (hinner : inner.Contained) (hroom : inner.Room room)
    (hhome : IsHome t base inner (room + 1 + limit)) (h : Beside base limit inside outside)
    (hnamed : inner.isFile (inside.join fileName) = true → inside.fileName? ≠ none) :
    qualify t outside =
      (problemAt inner inside).map fun problem ↦ (problem.1, pathOf (base ++ problem.2)) := by
  have hfile : t.isFile (outside.join fileName) = inner.isFile (inside.join fileName) := by
    have hjoin := h.join_name hhome.reachable.place isName_fileName
    exact (hjoin.find hinner hhome.hosts hroom hhome.reachable).isFile_eq
  have hfind := h.find hinner hhome.hosts hroom hhome.reachable
  rw [qualify, problemAt, hfile]
  by_cases hthere : inner.isFile (inside.join fileName) = true
  · rw [hthere, h.fileName?_eq (hnamed hthere), FileTree.canonical]
    generalize inner.find inside = x at hfind
    generalize t.find outside = y at hfind
    cases hfind with
    | lost => cases inside.fileName? <;> rfl
    | found place entry => cases inside.fileName? <;> rfl
  · rw [Bool.not_eq_true] at hthere
    rw [hthere]
    rfl

/-! ### All problems -/

theorem candidates_hosted (hinner : inner.Contained) (hroom : inner.Room room)
    (hhome : IsHome t base inner (room + 1 + limit)) {q : Glob.Pattern}
    (hq : Searchable limit q.text) :
    List.Forall₂ (Beside base limit) (pathsFor inner q) (candidates t (pathOf base) q) := by
  have hcandidates : candidates t (pathOf base) q =
      (Glob.paths t ((pathOf base).join ⟨q.text⟩).text).toOption.getD [] := by
    rw [candidates]
    cases Glob.paths t ((pathOf base).join ⟨q.text⟩).text <;> rfl
  rw [hcandidates, pathsFor]
  by_cases htext : q.text = ""
  · rw [htext, Glob.paths_join_empty hhome.reachable hhome.literal, Glob.pathsBelow_empty]
    exact .cons ((Beside.root base).mono (Nat.zero_le _)) .nil
  · have hpaths := Glob.pathsBelow_hosted hinner hhome.hosts hroom hhome.reachable hq.down hq.few
    rw [Glob.paths_join hhome.reachable hhome.literal hq.relative htext]
    generalize (Glob.pathsBelow inner (pathOf []) q.text).toOption = x at hpaths
    generalize (Glob.pathsBelow t (pathOf base) q.text).toOption = y at hpaths
    cases hpaths with
    | none => exact .nil
    | some h => exact h

theorem filterMap_hosted {paths paths' : List Path} {f : Path → Option (String × Place)}
    {g : String × Place → String × Path} {f' : Path → Option (String × Path)}
    (hf : ∀ inside ∈ paths, ∀ {outside}, Beside base limit inside outside →
      f' outside = (f inside).map g)
    (h : List.Forall₂ (Beside base limit) paths paths') :
    paths'.filterMap f' = (paths.filterMap f).map g := by
  induction h with
  | nil => rfl
  | cons hfirst _ ih =>
    obtain ⟨hhere, hrest⟩ := List.forall_mem_cons.1 hf
    rw [List.filterMap_cons, List.filterMap_cons, hhere hfirst, ih hrest]
    cases f _ <;> rfl

/-- **The problems below a directory** are those of the tree that lies there. -/
theorem discover_eq (hinner : inner.Contained) (hroom : inner.Room room)
    (hpatterns : ∀ q ∈ patterns, Searchable limit q.text) (hnamed : Named inner patterns)
    (hhome : IsHome t base inner (room + 1 + limit)) :
    discover t (pathOf base) patterns =
      (layout inner patterns).map fun place ↦ pathOf (base ++ place) := by
  -- pattern by pattern, the paths that are found inside and outside correspond to each other
  have hsame : List.Forall₂ (fun q q' ↦ q = q' ∧ Searchable limit q.text) patterns patterns :=
    List.forall₂_same.2 fun q hq ↦ ⟨rfl, hpatterns q hq⟩
  have hpaths : List.Forall₂ (Beside base limit) (patterns.flatMap (pathsFor inner))
      (patterns.flatMap (candidates t (pathOf base))) :=
    List.rel_flatMap hsame fun q _ ⟨heq, hq⟩ ↦ heq ▸ candidates_hosted hinner hroom hhome hq
  have hproblems : (patterns.flatMap (candidates t (pathOf base))).filterMap (qualify t) =
      ((patterns.flatMap (pathsFor inner)).filterMap (problemAt inner)).map
        fun problem ↦ (problem.1, pathOf (base ++ problem.2)) := by
    refine filterMap_hosted (fun inside hinside outside hbeside ↦ ?_) hpaths
    obtain ⟨q, hq, hpath⟩ := List.mem_flatMap.1 hinside
    exact qualify_hosted hinner hroom hhome hbeside (hnamed q hq inside hpath)
  rw [discover, layout, hproblems, ← NameMap.foldl_insertIfNew_map]
  rfl

/-- **The same problems are found wherever their tree lies**: the same ids, with the same places in
the tree. -/
theorem discover_relocated {t₁ t₂ : FileTree} {base₁ base₂ : Place} (hinner : inner.Contained)
    (hroom : inner.Room room) (hpatterns : ∀ q ∈ patterns, Searchable limit q.text)
    (hnamed : Named inner patterns) (h₁ : IsHome t₁ base₁ inner (room + 1 + limit))
    (h₂ : IsHome t₂ base₂ inner (room + 1 + limit)) :
    ∃ found : NameMap Place,
      discover t₁ (pathOf base₁) patterns = found.map (fun place ↦ pathOf (base₁ ++ place)) ∧
        discover t₂ (pathOf base₂) patterns = found.map (fun place ↦ pathOf (base₂ ++ place)) :=
  ⟨layout inner patterns, discover_eq hinner hroom hpatterns hnamed h₁,
    discover_eq hinner hroom hpatterns hnamed h₂⟩

/-- A problem, and a link to it elsewhere. -/
def archive : FileTree where
  entries := [(["problems"], .directory), (["problems", "sum"], .directory),
    (["problems", "sum", "problem.toml"], .file [] false), (["extra"], .directory),
    (["extra", "total"], .link "../problems/sum")]
  current := []

/-- Everything in a directory. -/
def everythingIn (directory : String) : Glob.Pattern :=
  ⟨directory ++ "/*", (directory ++ "/").toList.map .literal ++ [.anyText]⟩

theorem contained_archive : archive.Contained := by
  refine FileTree.contained_of_entries (by decide) fun e he target htarget ↦ ?_
  simp only [archive, List.mem_cons, List.not_mem_nil, or_false] at he
  rcases he with rfl | rfl | rfl | rfl | rfl
  · exact nomatch htarget
  · exact nomatch htarget
  · exact nomatch htarget
  · exact nomatch htarget
  · cases htarget
    decide

theorem discover_relocated_archive :
    ∃ found : NameMap Place, found.keys = ["sum", "total"] ∧
      discover (FileTree.graft ["w"] archive) (pathOf ["w"])
          [everythingIn "problems", everythingIn "./extra"] =
        found.map (fun place ↦ pathOf (["w"] ++ place)) ∧
      discover (FileTree.graft ["home", "v]"] archive) (pathOf ["home", "v]"])
          [everythingIn "problems", everythingIn "./extra"] =
        found.map (fun place ↦ pathOf (["home", "v]"] ++ place)) := by
  have hroom : archive.Room ((FileTree.linkLimit + 1) * 26) :=
    FileTree.room_of_placeSize_le contained_archive (by decide)
  have hpatterns : ∀ q ∈ [everythingIn "problems", everythingIn "./extra"],
      Searchable 6 q.text := by
    intro q hq
    rcases List.mem_pair.1 hq with rfl | rfl
    · exact ⟨by decide, by decide +kernel, by decide +kernel⟩
    · exact ⟨by decide, by decide +kernel, by decide +kernel⟩
  have hnamed : Named archive [everythingIn "problems", everythingIn "./extra"] := by
    decide +kernel
  have hw : IsHome (FileTree.graft ["w"] archive) ["w"] archive
      ((FileTree.linkLimit + 1) * 26 + 1 + 6) := isHome_graft (by decide) (by decide)
  have hv : IsHome (FileTree.graft ["home", "v]"] archive) ["home", "v]"] archive
      ((FileTree.linkLimit + 1) * 26 + 1 + 6) := isHome_graft (by decide) (by decide)
  obtain ⟨found, hshort, hlong⟩ :=
    discover_relocated contained_archive hroom hpatterns hnamed hw hv
  have hkeys : (discover (FileTree.graft ["w"] archive) (pathOf ["w"])
      [everythingIn "problems", everythingIn "./extra"]).keys = ["sum", "total"] := by
    decide +kernel
  rw [hshort, NameMap.keys_map] at hkeys
  exact ⟨found, hkeys, hshort, hlong⟩

/-- **A name with wildcards is read as a pattern**, so a directory that has one hides its problems.
-/
theorem discover_differs :
    (discover (FileTree.graft ["w"] archive) (pathOf ["w"]) [everythingIn "problems"]).keys =
        ["sum"] ∧
      (discover (FileTree.graft ["a[b]"] archive) (pathOf ["a[b]"])
        [everythingIn "problems"]).keys = [] := by
  decide +kernel

end Problem.Store

end ContestJudge
