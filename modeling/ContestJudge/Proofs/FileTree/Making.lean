import ContestJudge.FileTree.Operations
import ContestJudge.Proofs.Fallible
import ContestJudge.Proofs.FileTree.Places
import ContestJudge.Proofs.FileTree.Walking

/-!
# Making directories and links

An operation on the path of a place changes a tree at one point: in the directory that the path
above leads to. What is known of one such operation is therefore said by three things: where the
path above leads, what lies under the last name there, and that every other place is as it was.

* `find_of_resolve` — the last name of a path is looked up in the directory that the path above
  leads to. All operations rest on this, whether they make something or look for it.
* `makeParents_pathOf` — making all directories of a path begins where the path leads no further and
  goes straight down from there (`MadeWay`), because a directory that was just made has no links in
  it. The operation tries the whole path first and goes up while that fails; the proof follows it
  down again, by one lemma for a directory that is made (`MadeWay.snoc`) and one for a way that was
  there (`MadeWay.of_find`).
* `symlink_pathOf` — a link is made where the path above it leads, in place of a link or of nothing.
  The old link is removed first, so between the two operations there is nothing at its place.

What a path leads to stays if an operation leaves the entries that were there (`find_mono`), or if
it leaves at least that entry, the directories and the links (`find_of_isWay`). The second is for
operations that put files in the place of files.
-/

namespace ContestJudge.FileTree

variable {t t' between : FileTree} {place found : Place} {made : List String} {name : String}
  {entry : Entry} {path target : Path}

/-! ### Looking up the path of a place -/

theorem resolve_of_find (h : t.find path = .ok (found, entry)) :
    t.resolve true path = .ok (.existing found entry) := by
  obtain ⟨result, hresolve, hresult⟩ := bind_eq_ok_iff.1 h
  cases result with
  | existing place entry => cases hresult; exact hresolve
  | missing => exact nomatch hresult

theorem resolve_of_findLink (h : t.findLink path = .ok (found, entry)) :
    t.resolve false path = .ok (.existing found entry) := by
  obtain ⟨result, hresolve, hresult⟩ := bind_eq_ok_iff.1 h
  cases result with
  | existing place entry => cases hresult; exact hresolve
  | missing => exact nomatch hresult

theorem find_eq_ok_iff :
    t.find path = .ok (found, entry) ↔ t.resolve true path = .ok (.existing found entry) := by
  refine ⟨resolve_of_find, fun h ↦ ?_⟩
  rw [find, h]
  rfl

theorem findLink_eq_ok_iff :
    t.findLink path = .ok (found, entry) ↔ t.resolve false path = .ok (.existing found entry) := by
  refine ⟨resolve_of_findLink, fun h ↦ ?_⟩
  rw [findLink, h]
  rfl

theorem find_pathOf_eq_ok (h : IsPlace place) :
    t.find (pathOf place) = .ok (found, entry) ↔
      Admissible (pathOf place) ∧
        Walks t true linkLimit [] (place.map .into) (.existing found entry) := by
  rw [← walk_eq_ok_iff, ← resolve_pathOf_eq_ok h, find_eq_ok_iff]

theorem find_eq_ok_iff_walks (hempty : path.text ≠ "") :
    t.find path = .ok (found, entry) ↔
      Admissible path ∧
        Walks t true linkLimit (if startsAtRoot path.text then [] else t.current) (steps path.text)
          (.existing found entry) := by
  rw [find_eq_ok_iff, resolve_eq_ok_iff_walk hempty, walk_eq_ok_iff]

/-- What any path leads to stays as long as it, the directories and the links do. -/
theorem find_of_isWay (hcurrent : t'.current = t.current)
    (hkeep : ∀ p e, t.get? p = some e → p = found ∨ IsWay e → t'.get? p = some e)
    (hfind : t.find path = .ok (found, entry)) : t'.find path = .ok (found, entry) := by
  have hempty := text_ne_empty_of_resolve (resolve_of_find hfind)
  obtain ⟨hadmissible, hwalk⟩ := (find_eq_ok_iff_walks hempty).1 hfind
  rw [← hcurrent] at hwalk
  exact (find_eq_ok_iff_walks hempty).2 ⟨hadmissible, hwalk.mono_of_isWay hkeep⟩

theorem get?_of_find_ne_directory (hne : entry ≠ .directory)
    (hfind : t.find path = .ok (found, entry)) : t.get? found = some entry := by
  have hempty := text_ne_empty_of_resolve (resolve_of_find hfind)
  exact ((find_eq_ok_iff_walks hempty).1 hfind).2.get?_of_ne_directory hne

/-- A path leads to one place. -/
theorem eq_of_find_eq {other : Place} {entry' : Entry} (h : t.find path = .ok (found, entry))
    (h' : t.find path = .ok (other, entry')) : found = other :=
  congrArg Prod.fst (Except.ok.inj (h.symm.trans h'))

theorem find_of_isDirectory (h : t.isDirectory path = true) :
    ∃ found, t.find path = .ok (found, .directory) := by
  unfold isDirectory at h
  split at h
  next found hfind => exact ⟨found, hfind⟩
  · exact nomatch h

/-- **The last name of a path** is looked up in the directory that the path above leads to. -/
theorem find_of_resolve {followLast : Bool} {result : Target} (h : IsPlace (place ++ [name]))
    (hresolve : t.resolve followLast (pathOf (place ++ [name])) = .ok result) :
    Admissible (pathOf (place ++ [name])) ∧ name.utf8ByteSize ≤ nameLimit ∧
      ∃ directory, t.find (pathOf place) = .ok (directory, .directory) ∧
        (t.get? (directory ++ [name]) = none → result = .missing directory name false) ∧
        ∀ entry, t.get? (directory ++ [name]) = some entry →
          (followLast = true → ∀ target, entry ≠ .link target) →
            result = .existing (directory ++ [name]) entry := by
  obtain ⟨hadmissible, hwalk⟩ := (resolve_pathOf_eq_ok h).1 hresolve
  rw [List.map_append, walk_eq_ok_iff] at hwalk
  obtain ⟨hshort, directory, habove, hlast⟩ := hwalk.of_append
  exact ⟨hadmissible, hshort, directory,
    (find_pathOf_eq_ok h.of_append).2 ⟨hadmissible.of_append, habove⟩, hlast⟩

/-- What lies in the directory that a path leads to is found under its name, but for a link that is
to be followed. -/
theorem resolve_pathOf_append {followLast : Bool} (h : IsPlace (place ++ [name]))
    (hadmissible : Admissible (pathOf (place ++ [name]))) (hshort : name.utf8ByteSize ≤ nameLimit)
    (habove : t.find (pathOf place) = .ok (found, .directory))
    (hget : t.get? (found ++ [name]) = some entry)
    (hlink : followLast = true → ∀ target, entry ≠ .link target) :
    t.resolve followLast (pathOf (place ++ [name])) = .ok (.existing (found ++ [name]) entry) := by
  have hwalk := ((find_pathOf_eq_ok h.of_append).1 habove).2.append hshort hget hlink
  refine (resolve_pathOf_eq_ok h).2 ⟨hadmissible, ?_⟩
  rw [List.map_append, walk_eq_ok_iff]
  exact hwalk

theorem get?_of_find (ht : t.Closed) (h : IsPlace place)
    (hfind : t.find (pathOf place) = .ok (found, entry)) : t.get? found = some entry :=
  ((find_pathOf_eq_ok h).1 hfind).2.get?_of_existing ht t.get?_nil

/-- What a path leads to stays as long as the entries do that were there. -/
theorem find_mono (h : IsPlace place) (hkeep : ∀ p, t.get? p ≠ none → t'.get? p = t.get? p)
    (hfind : t.find (pathOf place) = .ok (found, entry)) :
    t'.find (pathOf place) = .ok (found, entry) := by
  obtain ⟨hadmissible, hwalk⟩ := (find_pathOf_eq_ok h).1 hfind
  exact (find_pathOf_eq_ok h).2 ⟨hadmissible, hwalk.mono hkeep⟩

theorem findLink_mono (h : IsPlace place) (hkeep : ∀ p, t.get? p ≠ none → t'.get? p = t.get? p)
    (hfind : t.findLink (pathOf place) = .ok (found, entry)) :
    t'.findLink (pathOf place) = .ok (found, entry) := by
  rw [findLink_eq_ok_iff, resolve_pathOf_eq_ok h, walk_eq_ok_iff] at hfind ⊢
  exact ⟨hfind.1, hfind.2.mono hkeep⟩

/-- A path that meets no links leads to the place that it is the path of. -/
theorem eq_of_find (hplace : IsPlace place)
    (hlinks : ∀ part, part <+: place → ∀ target, t.get? part ≠ some (.link target))
    (hfind : t.find (pathOf place) = .ok (found, entry)) : found = place :=
  ((find_pathOf_eq_ok hplace).1 hfind).2.eq_append fun part _ hpre ↦ hlinks part hpre

/-- There are no links above a directory. -/
theorem get?_ne_link (ht : t.Closed) (hplace : t.get? place = some .directory) {above : Place}
    (hpre : above <+: place) (target : String) : t.get? above ≠ some (.link target) := by
  rw [ht.get?_of_prefix hpre hplace]
  exact nofun

/-! ### Trees with more directories -/

/-- `t'` is `t` with directories that lead down from a place, where nothing was. -/
structure Made (t : FileTree) (place : Place) (made : List String) (t' : FileTree) : Prop where
  absent : ∀ part, part ≠ [] → part <+: made → t.get? (place ++ part) = none
  directory : ∀ part, part ≠ [] → part <+: made → t'.get? (place ++ part) = some .directory
  unchanged : ∀ p, (∀ part, part ≠ [] → part <+: made → p ≠ place ++ part) → t'.get? p = t.get? p

namespace Made

theorem refl (t : FileTree) (place : Place) : Made t place [] t where
  absent _ hne hpre := absurd (List.prefix_nil.1 hpre) hne
  directory _ hne hpre := absurd (List.prefix_nil.1 hpre) hne
  unchanged _ _ := rfl

theorem get?_of_present (h : Made t place made t') {p : Place} (hp : t.get? p ≠ none) :
    t'.get? p = t.get? p :=
  h.unchanged p fun part hne hpre heq ↦ hp (heq ▸ h.absent part hne hpre)

theorem append_ne_snoc {part : List String} (hpre : part <+: made) :
    place ++ part ≠ place ++ made ++ [name] := by
  intro heq
  rw [List.append_assoc, List.append_cancel_left_eq] at heq
  have hlength := hpre.length_le
  rw [heq, List.length_append, List.length_singleton] at hlength
  omega

theorem get?_snoc (h : Made t place made t') :
    t'.get? (place ++ made ++ [name]) = t.get? (place ++ made ++ [name]) :=
  h.unchanged _ fun _ _ hpre ↦ (append_ne_snoc hpre).symm

/-- One more directory is made below those that were made. -/
theorem snoc (h : Made t place made t') (habsent : t'.get? (place ++ made ++ [name]) = none) :
    Made t place (made ++ [name]) (t'.set (place ++ made ++ [name]) .directory) := by
  have hne : place ++ made ++ [name] ≠ [] :=
    List.concat_ne_nil _ _
  constructor
  · intro part hpart hpre
    rcases List.prefix_concat_iff.1 hpre with rfl | hpre
    · rw [← List.append_assoc, ← h.get?_snoc, habsent]
    · exact h.absent part hpart hpre
  · intro part hpart hpre
    rw [get?_set _ _ _ hne]
    rcases List.prefix_concat_iff.1 hpre with rfl | hpre
    · rw [if_pos (List.append_assoc _ _ _).symm]
    · rw [if_neg (append_ne_snoc hpre), h.directory part hpart hpre]
  · intro p hp
    have hlast : p ≠ place ++ made ++ [name] :=
      List.append_assoc place made [name] ▸
        hp (made ++ [name]) (List.concat_ne_nil _ _) List.prefix_rfl
    rw [get?_set _ _ _ hne, if_neg hlast]
    exact h.unchanged p fun part hpart hpre ↦
      hp part hpart (hpre.trans (List.prefix_append _ _))

theorem get?_append (h : Made t place made t') (hplace : t.get? place = some .directory)
    {part : List String} (hpre : part <+: made) : t'.get? (place ++ part) = some .directory := by
  by_cases hne : part = []
  · subst hne
    rw [List.append_nil, h.get?_of_present (hplace ▸ nofun), hplace]
  · exact h.directory part hne hpre

theorem closed (h : Made t place made t') (ht : t.Closed)
    (hplace : t.get? place = some .directory) : t'.Closed := by
  refine ht.of_changed (fun part last hpre ↦ ?_) (fun p hp ↦ ?_) h.unchanged
  · exact h.get?_append hplace ((List.prefix_append part [last]).trans hpre)
  · rw [h.get?_of_present (hp ▸ nofun), hp]

end Made

/-! ### Making directories -/

/-- A directory is made where the path above leads, under a name that is free there. -/
theorem makeDirectory_pathOf (h : IsPlace (place ++ [name]))
    (hmake : t.makeDirectory (pathOf (place ++ [name])) = .ok t') :
    ∃ directory, t.find (pathOf place) = .ok (directory, .directory) ∧
      t.get? (directory ++ [name]) = none ∧ t' = t.set (directory ++ [name]) .directory ∧
        t'.find (pathOf (place ++ [name])) = .ok (directory ++ [name], .directory) := by
  obtain ⟨result, hresolve, hresult⟩ := bind_eq_ok_iff.1 hmake
  obtain ⟨hadmissible, hshort, directory, hfind, hnone, hsome⟩ := find_of_resolve h hresolve
  cases hget : t.get? (directory ++ [name]) with
  | some entry =>
    rw [hsome entry hget nofun] at hresult
    exact nomatch hresult
  | none =>
    rw [hnone hget] at hresult
    obtain rfl := Except.ok.inj hresult
    have hmade : Made t directory [name] (t.set (directory ++ [name]) .directory) := by
      have hfree : t.get? (directory ++ [] ++ [name]) = none := by rwa [List.append_nil]
      simpa using (Made.refl t directory).snoc hfree
    have habove := find_mono h.of_append (fun p ↦ hmade.get?_of_present) hfind
    have hnew := hmade.directory [name] (List.cons_ne_nil _ _) List.prefix_rfl
    exact ⟨directory, hfind, hget, rfl,
      find_eq_ok_iff.2 (resolve_pathOf_append h hadmissible hshort habove hnew fun _ ↦ nofun)⟩

/-- **A way to a place is made**: part of it leads to a directory, and the directories of the rest
are made straight down from there. -/
structure MadeWay (t : FileTree) (place above found : Place) (made : List String) (t' : FileTree) :
    Prop where
  names : place = above ++ made
  start : t.find (pathOf above) = .ok (found, .directory)
  opened : Made t found made t'
  finish : t'.find (pathOf place) = .ok (found ++ made, .directory)

/-- Nothing is made where a path leads to a directory already. -/
theorem MadeWay.refl (h : t.find (pathOf place) = .ok (found, .directory)) :
    MadeWay t place place found [] t where
  names := (List.append_nil _).symm
  start := h
  opened := .refl t found
  finish := (List.append_nil found).symm ▸ h

theorem MadeWay.snoc {above : Place} (h : MadeWay t place above found made between)
    (hplace : IsPlace (place ++ [name]))
    (hmake : between.makeDirectory (pathOf (place ++ [name])) = .ok t') :
    MadeWay t (place ++ [name]) above found (made ++ [name]) t' := by
  obtain ⟨directory, hfind, hfree, rfl, hfinish⟩ := makeDirectory_pathOf hplace hmake
  obtain rfl : found ++ made = directory := eq_of_find_eq h.finish hfind
  constructor
  · rw [h.names, List.append_assoc]
  · exact h.start
  · exact h.opened.snoc hfree
  · rw [hfinish, List.append_assoc]

/-- A directory that a path leads to once the way above it is made was there before, with all of the
way: there is nothing in a directory that was just made. -/
theorem MadeWay.of_find {above last : Place} (h : MadeWay t place above found made t')
    (ht : t.Closed) (hplace : IsPlace (place ++ [name]))
    (hfind : t'.find (pathOf (place ++ [name])) = .ok (last, .directory)) :
    MadeWay t (place ++ [name]) (place ++ [name]) last [] t' := by
  have hmade : made = [] := by
    by_contra hne
    have hfree : t'.get? (found ++ made ++ [name]) = none := by
      rw [h.opened.get?_snoc]
      refine ht.get?_append_eq_none ?_ (List.cons_ne_nil _ _)
      rw [h.opened.absent made hne List.prefix_rfl]
      exact nofun
    obtain ⟨-, -, directory, habove, hnone, -⟩ :=
      find_of_resolve hplace (resolve_of_find hfind)
    obtain rfl : found ++ made = directory :=
      eq_of_find_eq h.finish habove
    exact nomatch hnone hfree
  subst hmade
  have hsame : ∀ p, t'.get? p = t.get? p := fun p ↦
    h.opened.unchanged p fun part hne hpre ↦ absurd (List.prefix_nil.1 hpre) hne
  constructor
  · exact (List.append_nil _).symm
  · exact find_mono hplace (fun p _ ↦ (hsame p).symm) hfind
  · exact ⟨fun _ hne hpre ↦ absurd (List.prefix_nil.1 hpre) hne,
      fun _ hne hpre ↦ absurd (List.prefix_nil.1 hpre) hne, fun p _ ↦ hsame p⟩
  · rwa [List.append_nil]

theorem find_root (t : FileTree) : t.find (pathOf []) = .ok ([], .directory) :=
  (find_pathOf_eq_ok isPlace_nil).2 ⟨⟨by decide, by decide⟩, .done⟩

theorem makeDirectory_root (t : FileTree) :
    t.makeDirectory (pathOf []) = .error .alreadyExists := by
  have hresolve : t.resolve false (pathOf []) = .ok (.existing [] .directory) :=
    (resolve_pathOf_eq_ok isPlace_nil).2
      ⟨⟨by decide, by decide⟩, walk_eq_ok_iff.2 .done⟩
  rw [makeDirectory, hresolve]
  rfl

theorem makeFirst_pathOf {fuel : Nat} (ht : t.Closed) (h : IsPlace place)
    (hfuel : place.length < fuel)
    (hmake : t.makeFirst (Path.ancestorsWithin fuel (pathOf place)) = .ok t') :
    ∃ above found made, MadeWay t place above found made t' := by
  induction place using List.reverseRecOn generalizing fuel t' with
  | nil =>
    obtain ⟨fuel, rfl⟩ := Nat.exists_eq_succ_of_ne_zero (Nat.ne_zero_of_lt hfuel)
    have hroot : t.isDirectory (pathOf []) = true := by rw [isDirectory, find_root]
    rw [Path.ancestorsWithin, makeFirst, if_neg (pathOf_ne_empty _), makeDirectory_root] at hmake
    simp only [hroot, if_true] at hmake
    obtain rfl := Except.ok.inj hmake
    exact ⟨[], [], [], .refl t.find_root⟩
  | append_singleton place name ih =>
    obtain ⟨fuel, rfl⟩ := Nat.exists_eq_succ_of_ne_zero (Nat.ne_zero_of_lt hfuel)
    rw [ancestorsWithin_pathOf h, makeFirst, if_neg (pathOf_ne_empty _)] at hmake
    split at hmake
    next made hmade =>
      obtain rfl := Except.ok.inj hmake
      obtain ⟨directory, hfind, -, -, -⟩ := makeDirectory_pathOf h hmade
      exact ⟨place, directory, [] ++ [name], (MadeWay.refl hfind).snoc h hmade⟩
    next hmissing =>
      obtain ⟨between, habove, hlast⟩ := bind_eq_ok_iff.1 hmake
      have hfuel : place.length < fuel := by
        rw [List.length_append, List.length_singleton] at hfuel
        omega
      obtain ⟨above, found, made, hway⟩ := ih h.of_append hfuel habove
      unfold ensureDirectory at hlast
      split at hlast
      next hmade =>
        obtain rfl := Except.ok.inj hlast
        exact ⟨above, found, made ++ [name], hway.snoc h hmade⟩
      · split at hlast
        next hdirectory =>
          obtain rfl := Except.ok.inj hlast
          obtain ⟨last, hfind⟩ := find_of_isDirectory hdirectory
          exact ⟨_, last, [], hway.of_find ht h hfind⟩
        · cases hlast
    next fault _ _ =>
      split at hmake
      next hdirectory =>
        obtain rfl := Except.ok.inj hmake
        obtain ⟨found, hfind⟩ := find_of_isDirectory hdirectory
        exact ⟨_, found, [], .refl hfind⟩
      · cases hmake

/-- **Making the directories above a path** makes a way to the place above. -/
theorem makeParents_pathOf (ht : t.Closed) (h : IsPlace (place ++ [name]))
    (hmake : t.makeParents (pathOf (place ++ [name])) = .ok t') :
    ∃ above found made, MadeWay t place above found made t' := by
  rw [makeParents, parent?_pathOf_append h] at hmake
  refine makeFirst_pathOf ht h.of_append ?_ (mapError_eq_ok_iff.1 hmake)
  have hlength := length_le_length_pathOf place
  omega

/-! ### Making links -/

theorem lookup_filter (keep : Place → Bool) (entries : List (Place × Entry)) (place : Place) :
    (entries.filter fun e ↦ keep e.1).lookup place =
      if keep place then entries.lookup place else none := by
  induction entries with
  | nil => rw [List.filter_nil, List.lookup_nil, ite_self]
  | cons first rest ih =>
    obtain ⟨p, entry⟩ := first
    by_cases hp : place = p
    · subst hp
      cases hkeep : keep place with
      | true => simp only [List.filter_cons, hkeep, if_true, List.lookup_cons_self]
      | false => simp only [List.filter_cons, ih, hkeep, Bool.false_eq_true, if_false]
    · have hother (es : List (Place × Entry)) :
          ((p, entry) :: es).lookup place = es.lookup place := by
        rw [List.lookup_cons, beq_false_of_ne hp]
      rw [hother, ← ih, List.filter_cons]
      split
      · exact hother _
      · rfl

theorem get?_remove (t : FileTree) (other : Place) (hne : place ≠ []) :
    (t.remove place).get? other = if place.isPrefixOf other then none else t.get? other := by
  by_cases hother : other = []
  · subst hother
    obtain ⟨first, rest, rfl⟩ := List.exists_cons_of_ne_nil hne
    rw [get?_nil, get?_nil]
    rfl
  · rw [get?, if_neg hother, get?, if_neg hother, remove,
      lookup_filter (fun p ↦ !place.isPrefixOf p)]
    cases place.isPrefixOf other <;> rfl

/-- Removing what is not a directory leaves everything else, as there is nothing below it. -/
theorem get?_remove_of_ne_directory (ht : t.Closed) (hplace : t.get? place ≠ some .directory)
    {other : Place} (hother : other ≠ place) : (t.remove place).get? other = t.get? other := by
  have hne : place ≠ [] := by
    rintro rfl
    exact hplace t.get?_nil
  rw [get?_remove _ _ hne]
  split
  next hpre =>
    obtain ⟨below, rfl⟩ := List.isPrefixOf_iff_prefix.1 hpre
    refine (ht.get?_append_eq_none hplace ?_).symm
    rintro rfl
    exact hother (List.append_nil _)
  · rfl

theorem get?_remove_self (t : FileTree) (hne : place ≠ []) :
    (t.remove place).get? place = none := by
  rw [get?_remove _ _ hne, if_pos (List.isPrefixOf_iff_prefix.2 List.prefix_rfl)]

theorem createLink_pathOf (h : IsPlace (place ++ [name]))
    (hcreate : t.createLink target (pathOf (place ++ [name])) = .ok t') :
    ∃ directory, t.find (pathOf place) = .ok (directory, .directory) ∧
      t' = t.set (directory ++ [name]) (.link target.text) ∧
        t.get? (directory ++ [name]) = none ∧
          t'.findLink (pathOf (place ++ [name])) =
            .ok (directory ++ [name], .link target.text) := by
  unfold createLink at hcreate
  split at hcreate
  · exact nomatch hcreate
  split at hcreate
  · exact nomatch hcreate
  split at hcreate
  · exact nomatch hcreate
  split at hcreate
  · exact nomatch hcreate
  · exact nomatch hcreate
  next directory last slash hresolve =>
    obtain ⟨hadmissible, hshort, above, hfind, hnone, hsome⟩ := find_of_resolve h hresolve
    cases hget : t.get? (above ++ [name]) with
    | some entry => exact nomatch hsome entry hget nofun
    | none =>
      cases hnone hget
      have hset (p : Place) := get?_set t p (.link target.text) (List.concat_ne_nil name directory)
      have hkeep : ∀ p, t.get? p ≠ none →
          (t.set (directory ++ [name]) (.link target.text)).get? p = t.get? p := by
        intro p hp
        rw [hset, if_neg]
        rintro rfl
        exact hp hget
      obtain rfl := Except.ok.inj hcreate
      exact ⟨directory, hfind, rfl, hget, findLink_eq_ok_iff.2
        (resolve_pathOf_append h hadmissible hshort (find_mono h.of_append hkeep hfind)
          ((hset _).trans (if_pos rfl)) nofun)⟩

theorem removeFile_of_isLink (h : IsPlace (place ++ [name]))
    (hlink : t.isLink (pathOf (place ++ [name])) = true)
    (hremove : t.removeFile (pathOf (place ++ [name])) = .ok t') :
    ∃ directory old, t.find (pathOf place) = .ok (directory, .directory) ∧
      t.get? (directory ++ [name]) = some (.link old) ∧ t' = t.remove (directory ++ [name]) := by
  obtain ⟨found, old, hfound⟩ :
      ∃ found old, t.findLink (pathOf (place ++ [name])) = .ok (found, .link old) := by
    unfold isLink at hlink
    split at hlink
    next found old hfound => exact ⟨found, old, hfound⟩
    · exact nomatch hlink
  obtain ⟨-, -, directory, hfind, hnone, hsome⟩ := find_of_resolve h (resolve_of_findLink hfound)
  cases hget : t.get? (directory ++ [name]) with
  | none => exact nomatch hnone hget
  | some entry =>
    cases hsome entry hget nofun
    rw [removeFile, hfound] at hremove
    exact ⟨directory, old, hfind, hget, (Except.ok.inj hremove).symm⟩

/-- **A link is made** where the path above it leads, in place of a link or of nothing. -/
theorem symlink_pathOf (ht : t.Closed) (h : IsPlace (place ++ [name]))
    (hlink : t.symlink target (pathOf (place ++ [name])) = .ok t') :
    ∃ directory, t.find (pathOf place) = .ok (directory, .directory) ∧
      (∀ entry, t.get? (directory ++ [name]) = some entry → ∃ old, entry = .link old) ∧
      (∀ p, t'.get? p =
        if p = directory ++ [name] then some (.link target.text) else t.get? p) ∧
      t'.findLink (pathOf (place ++ [name])) = .ok (directory ++ [name], .link target.text) := by
  have hne (p : Place) : p ++ [name] ≠ [] := List.concat_ne_nil _ _
  rw [symlink] at hlink
  split at hlink
  next hislink =>
    obtain ⟨cleared, hclear, hcreate⟩ := bind_eq_ok_iff.1 hlink
    obtain ⟨above, old, habove, hold, rfl⟩ :=
      removeFile_of_isLink h hislink (mapError_eq_ok_iff.1 hclear)
    obtain ⟨directory, hfind, rfl, -, hnew⟩ := createLink_pathOf h (mapError_eq_ok_iff.1 hcreate)
    have hnot : t.get? (above ++ [name]) ≠ some .directory := by
      rw [hold]
      exact nofun
    have hkeep : ∀ p, (t.remove (above ++ [name])).get? p ≠ none →
        t.get? p = (t.remove (above ++ [name])).get? p := by
      intro p hp
      refine (get?_remove_of_ne_directory ht hnot ?_).symm
      rintro rfl
      exact hp (t.get?_remove_self (hne above))
    -- The way to the link does not lead through it, so it is the same after the removal.
    have hsame := find_mono h.of_append hkeep hfind
    obtain rfl : above = directory := eq_of_find_eq habove hsame
    refine ⟨above, habove, fun entry hentry ↦ ?_, fun p ↦ ?_, hnew⟩
    · exact ⟨old, Option.some.inj (hentry.symm.trans hold)⟩
    rw [get?_set _ _ _ (hne above)]
    split
    · rfl
    next hp => exact get?_remove_of_ne_directory ht hnot hp
  · obtain ⟨directory, hfind, rfl, hfree, hnew⟩ := createLink_pathOf h (mapError_eq_ok_iff.1 hlink)
    exact ⟨directory, hfind, fun entry hentry ↦ (nomatch hfree.symm.trans hentry),
      fun p ↦ get?_set _ _ _ (hne directory), hnew⟩

end ContestJudge.FileTree
