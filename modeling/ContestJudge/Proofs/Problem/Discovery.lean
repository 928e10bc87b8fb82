import ContestJudge.Problem.Store
import ContestJudge.Proofs.Text.Encoding

/-!
# The first directory of a name

A search for problems comes upon paths, pattern by pattern and in each pattern in the order of its
walk. Much of it leads nowhere: a pattern may be wrong, an entry unreadable, and a path may hold no
problem file, have no name, have one that is no text, or lose its way when its links are followed.

* `Files.get?_visit` — one step: what leads nowhere leaves the store as it is, and what leads to a
  problem adds it unless there is one of that name. As an equation for every name this says that a
  name keeps what it has, or else gets what the step finds.
* `get?_foldl` — a run: a name gets the first that is found. This is about any steps of that kind,
  so it serves for the paths of a pattern and then again for the patterns.
* `discover_earliest` — so after any search each name has the directory that the earliest path to a
  problem of that name leads to, however many others come before or after it.

A tree of files has neither unreadable directories nor names that are no text. The search is
therefore written for any files, of which a tree is one instance (`Files.discover_ofTree`); there,
what a path has to be is said in terms of the tree (`Files.qualifies_ofTree_iff`).

The earliest path is told by two numbers, of the pattern and of the place in its walk, and compared
by the first and then the second (`Files.Earliest`). Nothing is said of what the walk of a pattern
comes upon: that it has an order is all that is used.
-/

namespace ContestJudge

namespace NameMap

variable {α : Type} {m : NameMap α} {key : String}

theorem keys_increasing (m : NameMap α) : m.keys.Pairwise (· < ·) :=
  List.pairwise_map.2 m.sorted

theorem mem_keys_iff : key ∈ m.keys ↔ m.contains key = true := by
  rw [keys, contains, get?]
  induction m.entries with
  | nil => simp
  | cons first rest ih =>
    rw [List.map_cons, List.mem_cons, ih, lookup_cons]
    by_cases hkey : key = first.1
    · simp [hkey]
    · simp [hkey]

/-- The first value that a key gets is the one that it keeps. -/
theorem get?_insertIfNew (m : NameMap α) (key other : String) (value : α) :
    (m.insertIfNew key value).get? other =
      (m.get? other).or (if other = key then some value else none) := by
  rw [insertIfNew, contains]
  rcases hfound : m.get? key with - | found
  · rw [if_neg (by simp), get?_insert]
    by_cases hkey : other = key
    · rw [if_pos hkey, if_pos hkey, hkey, hfound, Option.none_or]
    · rw [if_neg hkey, if_neg hkey, Option.or_none]
  · rw [if_pos (by simp)]
    by_cases hkey : other = key
    · rw [hkey, hfound, Option.some_or]
    · rw [if_neg hkey, Option.or_none]

end NameMap

namespace Problem

open Text (Bytes)

/-- Files as a search for problems sees them: what it asks about paths, and what it is answered. -/
structure Files (π δ : Type) where
  /-- What the walk of a pattern comes upon, in its order; a wrong pattern has no walk. -/
  walk : String → Except Glob.PatternFault (List (Except IoFault π))
  /-- Whether an entry of a directory is a file, links followed. -/
  hasFile : π → Path → Bool
  /-- The last name of a path, if it ends in one. -/
  lastName? : π → Option Bytes
  /-- The directory that a path leads to, free of links. -/
  canonical : π → Except FileFault δ

namespace Files

variable {π δ : Type}

/-! ### The search -/

/-- What a search makes of one thing it comes upon. -/
def visit (files : Files π δ) (store : NameMap δ) : Except IoFault π → NameMap δ
  | .error _ => store
  | .ok path =>
    if !files.hasFile path fileName then store
    else match (files.lastName? path).bind Text.Utf8.decode? with
      | none => store
      | some id =>
        match files.canonical path with
        | .error _ => store
        | .ok directory => store.insertIfNew id directory

/-- What a search makes of one pattern. -/
def visitAll (files : Files π δ) (base : Path) (store : NameMap δ) (pattern : Glob.Pattern) :
    NameMap δ :=
  match files.walk (base.join ⟨pattern.text⟩).text with
  | .error _ => store
  | .ok entries => entries.foldl files.visit store

/-- The problems below a base directory. -/
def discover (files : Files π δ) (base : Path) (patterns : List Glob.Pattern) : NameMap δ :=
  patterns.foldl (files.visitAll base) .empty

/-- A tree of files: all that a walk comes upon can be read, and every name is a text. -/
def ofTree (tree : FileTree) : Files Path Path where
  walk text := (Glob.paths tree text).map (·.map .ok)
  hasFile path name := tree.isFile (path.join name)
  lastName? path := path.fileName?.map Text.Utf8.encode
  canonical path := tree.canonical path

/-! ### What a name gets -/

/-- A path leads to a problem of some name, in some directory. -/
structure Qualifies (files : Files π δ) (path : π) (id : String) (directory : δ) : Prop where
  /-- There is a problem file, links followed. -/
  holdsProblem : files.hasFile path fileName = true
  /-- The last name of the path is the id, as a text. -/
  named : ∃ name, files.lastName? path = some name ∧ Text.Utf8.decode? name = some id
  /-- The directory is what the path leads to. -/
  canonical : files.canonical path = .ok directory

/-- The walk of the `i`-th pattern comes upon a path to a problem of some name, as the `j`-th thing.
-/
def Finds (files : Files π δ) (base : Path) (patterns : List Glob.Pattern) (id : String)
    (i j : Nat) (directory : δ) : Prop :=
  ∃ pattern entries path, patterns[i]? = some pattern ∧
    files.walk (base.join ⟨pattern.text⟩).text = .ok entries ∧ entries[j]? = some (.ok path) ∧
      files.Qualifies path id directory

/-- The earliest path to a problem of some name, by patterns and in one pattern by its walk. -/
structure Earliest (files : Files π δ) (base : Path) (patterns : List Glob.Pattern) (id : String)
    (i j : Nat) (directory : δ) : Prop where
  /-- There is such a path. -/
  here : files.Finds base patterns id i j directory
  /-- None is found in an earlier pattern, or in the same one earlier. -/
  first : ∀ i' j' other, i' < i ∨ i' = i ∧ j' < j → ¬files.Finds base patterns id i' j' other

/-- The directory of a problem of some name to which one thing leads, if it does. -/
def directory? (files : Files π δ) (id : String) : Except IoFault π → Option δ
  | .error _ => none
  | .ok path =>
    if files.hasFile path fileName ∧ (files.lastName? path).bind Text.Utf8.decode? = some id then
      (files.canonical path).toOption
    else none

/-- The things that the walk of a pattern comes upon. -/
def entries (files : Files π δ) (base : Path) (pattern : Glob.Pattern) : List (Except IoFault π) :=
  (files.walk (base.join ⟨pattern.text⟩).text).toOption.getD []

variable {files : Files π δ} {base : Path} {patterns : List Glob.Pattern}
  {entry : Except IoFault π} {id : String} {directory : δ}

theorem directory?_eq_some_iff :
    files.directory? id entry = some directory ↔
      ∃ path, entry = .ok path ∧ files.Qualifies path id directory := by
  constructor
  · intro h
    rcases entry with fault | path
    · cases h
    · rw [directory?] at h
      split at h
      · next hfound =>
        obtain ⟨hfile, hid⟩ := hfound
        obtain ⟨name, hname, hdecode⟩ := Option.bind_eq_some_iff.1 hid
        refine ⟨path, rfl, hfile, ⟨name, hname, hdecode⟩, ?_⟩
        rcases hcanonical : files.canonical path with fault | found
        · rw [hcanonical] at h
          cases h
        · rw [hcanonical] at h
          cases h
          rfl
      · cases h
  · rintro ⟨path, rfl, hfile, ⟨name, hname, hdecode⟩, hcanonical⟩
    have hid : (files.lastName? path).bind Text.Utf8.decode? = some id :=
      Option.bind_eq_some_iff.2 ⟨name, hname, hdecode⟩
    rw [directory?, if_pos ⟨hfile, hid⟩, hcanonical]
    rfl

/-- **One step**: what a name has it keeps, and otherwise it gets the directory of a problem of that
name to which the thing at hand leads. -/
theorem get?_visit (files : Files π δ) (store : NameMap δ) (entry : Except IoFault π)
    (id : String) :
    (files.visit store entry).get? id = (store.get? id).or (files.directory? id entry) := by
  rcases entry with - | path
  · rw [visit, directory?, Option.or_none]
  rw [visit, directory?]
  rcases hfile : files.hasFile path fileName with - | -
  · simp
  rcases hid : (files.lastName? path).bind Text.Utf8.decode? with - | name
  · simp
  rcases hcanonical : files.canonical path with - | found
  · simp [Except.toOption]
  · show (store.insertIfNew name found).get? id = _
    rw [NameMap.get?_insertIfNew]
    by_cases hname : id = name
    · rw [if_pos hname, if_pos ⟨rfl, congrArg some hname.symm⟩]
      rfl
    · rw [if_neg hname, if_neg fun h ↦ hname (Option.some.inj h.2).symm]

/-- What one step does for a name, a whole run does: it keeps what it has, and otherwise gets the
first that is found. -/
theorem get?_foldl {α : Type} {step : NameMap δ → α → NameMap δ} {found : α → Option δ}
    (hstep : ∀ store a, (step store a).get? id = (store.get? id).or (found a)) (items : List α)
    (store : NameMap δ) :
    (items.foldl step store).get? id = (store.get? id).or (items.findSome? found) := by
  induction items generalizing store with
  | nil => rw [List.foldl_nil, List.findSome?_nil, Option.or_none]
  | cons a items ih =>
    rw [List.foldl_cons, ih, hstep, Option.or_assoc, List.findSome?_cons]
    cases found a <;> rfl

theorem get?_visitAll (files : Files π δ) (base : Path) (store : NameMap δ)
    (pattern : Glob.Pattern) (id : String) :
    (files.visitAll base store pattern).get? id =
      (store.get? id).or ((files.entries base pattern).findSome? (files.directory? id)) := by
  rw [visitAll, entries]
  cases files.walk (base.join ⟨pattern.text⟩).text with
  | error fault => exact (Option.or_none).symm
  | ok found => exact get?_foldl (fun store entry ↦ get?_visit files store entry id) found store

/-- **A whole search**: a name gets the directory to which the first of all things leads that lead
to a problem of that name. -/
theorem get?_discover (files : Files π δ) (base : Path) (patterns : List Glob.Pattern)
    (id : String) :
    (files.discover base patterns).get? id =
      patterns.findSome? fun pattern ↦
        (files.entries base pattern).findSome? (files.directory? id) := by
  rw [discover, get?_foldl fun store pattern ↦ get?_visitAll files base store pattern id,
    NameMap.get?_empty, Option.none_or]

/-! ### The earliest path -/

theorem findSome?_eq_some_iff_getElem? {α β : Type} {f : α → Option β} {l : List α} {b : β} :
    l.findSome? f = some b ↔
      ∃ (i : Nat) (a : α), l[i]? = some a ∧ f a = some b ∧
        ∀ i' < i, ∀ a', l[i']? = some a' → f a' = none := by
  rw [List.findSome?_eq_some_iff]
  constructor
  · rintro ⟨before, a, after, rfl, hfound, hbefore⟩
    refine ⟨before.length, a, by simp, hfound, fun i' hi' a' ha' ↦ ?_⟩
    rw [List.getElem?_append_left hi'] at ha'
    exact hbefore a' (List.mem_of_getElem? ha')
  · rintro ⟨i, a, ha, hfound, hbefore⟩
    obtain ⟨hi, rfl⟩ := List.getElem?_eq_some_iff.1 ha
    refine ⟨l.take i, l[i], l.drop (i + 1), ?_, hfound, fun x hx ↦ ?_⟩
    · rw [← List.drop_eq_getElem_cons, List.take_append_drop]
    · obtain ⟨i', hi', rfl⟩ := List.mem_take_iff_getElem.1 hx
      exact hbefore i' (Nat.lt_of_lt_of_le hi' (Nat.min_le_left ..)) _
        (List.getElem?_eq_getElem _)

theorem finds_iff {i j : Nat} :
    files.Finds base patterns id i j directory ↔
      ∃ pattern entry, patterns[i]? = some pattern ∧
        (files.entries base pattern)[j]? = some entry ∧
          files.directory? id entry = some directory := by
  constructor
  · rintro ⟨pattern, found, path, hpattern, hwalk, hentry, hqualifies⟩
    refine ⟨pattern, .ok path, hpattern, ?_, directory?_eq_some_iff.2 ⟨path, rfl, hqualifies⟩⟩
    rw [entries, hwalk]
    exact hentry
  · rintro ⟨pattern, entry, hpattern, hentry, hdirectory⟩
    obtain ⟨path, rfl, hqualifies⟩ := directory?_eq_some_iff.1 hdirectory
    rw [entries] at hentry
    rcases hwalk : files.walk (base.join ⟨pattern.text⟩).text with fault | found
    · rw [hwalk] at hentry
      cases hentry
    · rw [hwalk] at hentry
      exact ⟨pattern, found, path, hpattern, hwalk, hentry, hqualifies⟩

theorem get?_discover_eq_some_iff :
    (files.discover base patterns).get? id = some directory ↔
      ∃ i j, files.Earliest base patterns id i j directory := by
  rw [get?_discover]
  constructor
  · intro h
    obtain ⟨i, pattern, hpattern, hfound, hearlier⟩ := findSome?_eq_some_iff_getElem?.1 h
    obtain ⟨j, entry, hentry, hhere, hbefore⟩ := findSome?_eq_some_iff_getElem?.1 hfound
    refine ⟨i, j, finds_iff.2 ⟨pattern, entry, hpattern, hentry, hhere⟩, ?_⟩
    intro i' j' other hfirst hfinds
    obtain ⟨pattern', entry', hpattern', hentry', hother⟩ := finds_iff.1 hfinds
    rcases hfirst with hi | ⟨rfl, hj⟩
    · have hnone := List.findSome?_eq_none_iff.1 (hearlier i' hi pattern' hpattern') entry'
        (List.mem_of_getElem? hentry')
      rw [hnone] at hother
      cases hother
    · obtain rfl : pattern = pattern' := Option.some.inj (hpattern.symm.trans hpattern')
      rw [hbefore j' hj entry' hentry'] at hother
      cases hother
  · rintro ⟨i, j, hhere, hfirst⟩
    obtain ⟨pattern, entry, hpattern, hentry, hdirectory⟩ := finds_iff.1 hhere
    refine findSome?_eq_some_iff_getElem?.2 ⟨i, pattern, hpattern,
      findSome?_eq_some_iff_getElem?.2 ⟨j, entry, hentry, hdirectory, ?_⟩, ?_⟩
    · intro j' hj entry' hentry'
      refine Option.eq_none_iff_forall_ne_some.2 fun other hother ↦ ?_
      exact hfirst i j' other (.inr ⟨rfl, hj⟩)
        (finds_iff.2 ⟨pattern, entry', hpattern, hentry', hother⟩)
    · intro i' hi pattern' hpattern'
      refine List.findSome?_eq_none_iff.2 fun entry' hmem ↦ ?_
      refine Option.eq_none_iff_forall_ne_some.2 fun other hother ↦ ?_
      obtain ⟨j', hentry'⟩ := List.mem_iff_getElem?.1 hmem
      exact hfirst i' j' other (.inl hi)
        (finds_iff.2 ⟨pattern', entry', hpattern', hentry', hother⟩)

theorem contains_discover_iff :
    (files.discover base patterns).contains id = true ↔
      ∃ i j directory, files.Finds base patterns id i j directory := by
  rw [NameMap.contains, get?_discover, List.findSome?_isSome_iff]
  constructor
  · rintro ⟨pattern, hpattern, hsome⟩
    obtain ⟨entry, hentry, hsome⟩ := List.findSome?_isSome_iff.1 hsome
    obtain ⟨i, hi⟩ := List.mem_iff_getElem?.1 hpattern
    obtain ⟨j, hj⟩ := List.mem_iff_getElem?.1 hentry
    obtain ⟨directory, hdirectory⟩ := Option.isSome_iff_exists.1 hsome
    exact ⟨i, j, directory, finds_iff.2 ⟨pattern, entry, hi, hj, hdirectory⟩⟩
  · rintro ⟨i, j, directory, hfinds⟩
    obtain ⟨pattern, entry, hi, hj, hdirectory⟩ := finds_iff.1 hfinds
    exact ⟨pattern, List.mem_of_getElem? hi, List.findSome?_isSome_iff.2
      ⟨entry, List.mem_of_getElem? hj, Option.isSome_iff_exists.2 ⟨directory, hdirectory⟩⟩⟩

theorem get?_discover_append (files : Files π δ) (base : Path) (patterns more : List Glob.Pattern)
    (id : String) :
    (files.discover base (patterns ++ more)).get? id =
      ((files.discover base patterns).get? id).or ((files.discover base more).get? id) := by
  rw [get?_discover, get?_discover, get?_discover, List.findSome?_append]

/-! ### Trees of files -/

/-- The names of a tree are texts, and are read as themselves. -/
theorem bind_lastName?_ofTree (tree : FileTree) (path : Path) :
    ((ofTree tree).lastName? path).bind Text.Utf8.decode? = path.fileName? := by
  show (path.fileName?.map Text.Utf8.encode).bind Text.Utf8.decode? = path.fileName?
  cases path.fileName? with
  | none => rfl
  | some name => exact Text.Utf8.decode?_encode name

theorem qualifies_ofTree_iff {tree : FileTree} {path found : Path} :
    (ofTree tree).Qualifies path id found ↔ tree.isFile (path.join fileName) = true ∧
      path.fileName? = some id ∧ tree.canonical path = .ok found := by
  rw [← bind_lastName?_ofTree tree, Option.bind_eq_some_iff]
  exact ⟨fun ⟨hfile, hname, hcanonical⟩ ↦ ⟨hfile, hname, hcanonical⟩,
    fun ⟨hfile, hname, hcanonical⟩ ↦ ⟨hfile, hname, hcanonical⟩⟩

/-- A path of a tree that leads to a problem adds it, and any other path nothing. -/
theorem visit_ofTree (tree : FileTree) (store : Store) (path : Path) :
    (ofTree tree).visit store (.ok path) =
      match Store.qualify tree path with
      | some found => store.insertIfNew found.1 found.2
      | none => store := by
  have hfile : (ofTree tree).hasFile path fileName = tree.isFile (path.join fileName) := rfl
  have hcanonical : (ofTree tree).canonical path = tree.canonical path := rfl
  rw [visit, bind_lastName?_ofTree, hfile, hcanonical, Store.qualify]
  cases tree.isFile (path.join fileName) with
  | false => rfl
  | true =>
    cases path.fileName? with
    | none => rfl
    | some id => cases tree.canonical path <;> rfl

/-- **A search in a tree** is one in its files. -/
theorem discover_ofTree (tree : FileTree) (base : Path) (patterns : List Glob.Pattern) :
    Store.discover tree base patterns = (ofTree tree).discover base patterns := by
  rw [Store.discover, discover, List.foldl_filterMap, List.foldl_flatMap]
  congr 1
  funext store pattern
  have hwalk (text : String) : (ofTree tree).walk text = (Glob.paths tree text).map (·.map .ok) :=
    rfl
  rw [visitAll, hwalk, Store.candidates]
  cases Glob.paths tree (base.join ⟨pattern.text⟩).text with
  | error fault => rfl
  | ok paths =>
    show _ = (paths.map .ok).foldl (ofTree tree).visit store
    rw [List.foldl_map]
    congr 1
    funext store path
    rw [visit_ofTree]
    cases Store.qualify tree path <;> rfl

/-! ### All problems -/

/-- **Each name has the directory of the earliest path to a problem of that name**, whatever else a
search comes upon: an id is found if some path leads to a problem of that name, more patterns add
ids and leave the directories of the others, and the ids are in increasing order.

A search in a tree is one in its files, where a path leads to a problem if there is a problem file,
links followed, if it ends in a name, and if it leads to a place. -/
theorem discover_earliest (files : Files π δ) (base : Path) (patterns more : List Glob.Pattern)
    (id : String) :
    (∀ directory, (files.discover base patterns).get? id = some directory ↔
        ∃ i j, files.Earliest base patterns id i j directory) ∧
      ((files.discover base patterns).contains id = true ↔
        ∃ i j directory, files.Finds base patterns id i j directory) ∧
      (files.discover base (patterns ++ more)).get? id =
        ((files.discover base patterns).get? id).or ((files.discover base more).get? id) ∧
      (id ∈ (files.discover base patterns).keys ↔
        (files.discover base patterns).contains id = true) ∧
      (files.discover base patterns).keys.Pairwise (· < ·) ∧
      ∀ tree : FileTree,
        Store.discover tree base patterns = (ofTree tree).discover base patterns ∧
        ∀ path found, (ofTree tree).Qualifies path id found ↔
          tree.isFile (path.join fileName) = true ∧ path.fileName? = some id ∧
            tree.canonical path = .ok found :=
  ⟨fun _ ↦ get?_discover_eq_some_iff, contains_discover_iff,
    get?_discover_append files base patterns more id, NameMap.mem_keys_iff,
    NameMap.keys_increasing _,
    fun tree ↦ ⟨discover_ofTree tree base patterns, fun _ _ ↦ qualifies_ofTree_iff⟩⟩

/-- Files where all that can go wrong comes first: the paths `0` to `3` have no problem file, no
name, a name that is no text, and no directory; `4` and `5` lead to problems of one name. -/
def scattered : Files Nat String where
  walk
    | "/a/*" => .ok [.error .permissionDenied, .ok 0, .ok 1, .ok 2, .ok 3]
    | "/b/*" => .ok [.ok 4, .ok 5]
    | _ => .error (.openClass 3)
  hasFile path name := path ≠ 0 ∧ name = fileName
  lastName?
    | 1 => none
    | 2 => some [0xFF]
    | _ => some (Text.Utf8.encode "sum")
  canonical
    | 3 => .error (.canonical ⟨"/a/sum"⟩ .tooManyLinks)
    | 4 => .ok "/first/sum"
    | _ => .ok "/second/sum"

theorem discover_earliest_scattered :
    (scattered.discover ⟨"/"⟩ [⟨"a/*", []⟩, ⟨"a/[", []⟩, ⟨"b/*", []⟩]).toList =
        [("sum", "/first/sum")] ∧
      ∃ i j, scattered.Earliest ⟨"/"⟩ [⟨"a/*", []⟩, ⟨"a/[", []⟩, ⟨"b/*", []⟩] "sum" i j
        "/first/sum" :=
  ⟨by decide +kernel,
    ((discover_earliest scattered ⟨"/"⟩ [⟨"a/*", []⟩, ⟨"a/[", []⟩, ⟨"b/*", []⟩] [] "sum").1
      "/first/sum").1 (by decide +kernel)⟩

end Files

end Problem

end ContestJudge
