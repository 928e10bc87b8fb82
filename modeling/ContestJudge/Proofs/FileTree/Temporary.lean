import ContestJudge.FileTree.System
import ContestJudge.Proofs.FileTree.Making
import ContestJudge.Proofs.Text.Numerals
import Mathlib.Data.List.Nodup
import Mathlib.Data.List.Perm.Subperm

/-!
# New temporary directories

A temporary directory is made like any other one, at the first path of a numbered series that leads
nowhere, and this may be refused. Two things are shown of it.

* `opened_makeTemporary` — what is made is an empty directory, and everything that was there before
  stays (`Opened`). This rests on `makeDirectory_pathOf` alone: a directory is made where the path
  above leads, which is the directory for temporary files itself.
* `exists_makeTemporary` — if there is such a directory and the names of the series are not too
  long, nothing is refused. The series never repeats a place, so it is longer than any list of
  entries: one of the first places is free, whatever lies in the tree (`exists_free`).

A system takes a name at random and tries another one when it is taken. The series stands for any
way to find a free name, and nothing that is shown below depends on which one it finds.
-/

namespace ContestJudge.FileTree

open ContestJudge.Path (IsName)

variable {t t' : FileTree} {place : Place} {name : String}

/-! ### The series of places -/

theorem isName_append_toString (h : '/' ∉ name.toList) (n : Nat) : IsName (name ++ toString n) := by
  obtain ⟨last, hlast⟩ : ∃ last, (toString n).toList.getLast? = some last :=
    ⟨_, List.getLast?_eq_some_getLast (Text.toString_ne_nil n)⟩
  -- A name of the series ends in a digit, and none of the texts that are no names does.
  have hend : (name ++ toString n).toList.getLast? = some last := by
    rw [String.toList_append, List.getLast?_append, hlast]
    rfl
  have hother : ∀ text : String, (∀ c, text.toList.getLast? = some c → c.isDigit = false) →
      name ++ toString n ≠ text := by
    rintro text htext rfl
    have hdigit := Text.isDigit_of_mem_toString (List.mem_of_getLast? hlast)
    exact Bool.false_ne_true ((htext last hend).symm.trans hdigit)
  constructor
  · exact hother "" fun _ hc ↦ nomatch hc
  · rw [String.toList_append, List.mem_append, not_or]
    exact ⟨h, fun hslash ↦ absurd (Text.isDigit_of_mem_toString hslash) (by decide)⟩
  · refine hother "." fun c hc ↦ ?_
    obtain rfl := Option.some.inj hc
    decide
  · refine hother ".." fun c hc ↦ ?_
    obtain rfl := Option.some.inj hc
    decide

theorem isPlace_temporaryPlace (h : '/' ∉ name.toList) (n : Nat) :
    IsPlace (temporaryPlace name n) := by
  have htemporary : IsPlace temporary := List.forall_mem_singleton.2 (by decide)
  exact htemporary.append (List.forall_mem_singleton.2 (isName_append_toString h n))

theorem temporaryPlace_injective (name : String) : Function.Injective (temporaryPlace name) := by
  intro m n h
  have hlast : name ++ toString m = name ++ toString n :=
    List.singleton_inj.1 (List.append_cancel_left h)
  have hchars := congrArg String.toList hlast
  rw [String.toList_append, String.toList_append, List.append_cancel_left_eq] at hchars
  exact Text.eq_of_toString hchars

/-! ### The first free one -/

theorem mem_map_fst_of_get? (hne : place ≠ []) (h : t.get? place ≠ none) :
    place ∈ t.entries.map Prod.fst := by
  obtain ⟨entry, hentry⟩ := Option.ne_none_iff_exists'.1 h
  rw [get?, if_neg hne] at hentry
  exact List.mem_map_of_mem (mem_of_lookup_eq_some hentry)

/-- **One of the places that are tried is free**, as there are more of them than entries. -/
theorem exists_free (t : FileTree) (name : String) :
    ∃ n ∈ List.range (t.entries.length + 1), (t.get? (temporaryPlace name n)).isNone = true := by
  by_contra hall
  -- Then an entry lies at each of the places, and they are all different.
  have htaken : (List.range (t.entries.length + 1)).map (temporaryPlace name) ⊆
      t.entries.map Prod.fst := by
    intro place hplace
    obtain ⟨n, hn, rfl⟩ := List.mem_map.1 hplace
    refine mem_map_fst_of_get? (List.concat_ne_nil _ _) fun hfree ↦ hall ⟨n, hn, ?_⟩
    rw [hfree]
    rfl
  have hnodup : ((List.range (t.entries.length + 1)).map (temporaryPlace name)).Nodup :=
    List.nodup_range.map (temporaryPlace_injective name)
  have hlength := (List.subperm_of_subset hnodup htaken).length_le
  rw [List.length_map, List.length_map, List.length_range] at hlength
  omega

/-- The path of the directory for temporary files leads there, if there is one. -/
theorem eq_temporary_of_find {directory : Place} {entry : Entry}
    (htemporary : t.get? temporary = some .directory)
    (hfind : t.find (pathOf temporary) = .ok (directory, entry)) : directory = temporary := by
  refine eq_of_find (List.forall_mem_singleton.2 (by decide)) (fun part hpart target hlink ↦ ?_) hfind
  rcases List.prefix_concat_iff.1 (show part <+: [] ++ ["tmp"] from hpart) with rfl | hnil
  · exact nomatch hlink.symm.trans htemporary
  · obtain rfl := List.prefix_nil.1 hnil
    exact nomatch hlink.symm.trans t.get?_nil

/-- The path that is taken is one of the series. -/
theorem exists_freePath (t : FileTree) (name : String) :
    ∃ n ≤ t.entries.length, t.freePath name = pathOf (temporaryPlace name n) := by
  unfold freePath
  dsimp only
  rcases hfind : ((List.range (t.entries.length + 1)).map
      fun n ↦ pathOf (temporaryPlace name n)).find? fun path ↦ !(t.findLink path).toBool with - | path
  · exact ⟨0, Nat.zero_le _, rfl⟩
  · obtain ⟨n, hn, rfl⟩ := List.mem_map.1 (List.mem_of_find?_eq_some hfind)
    exact ⟨n, Nat.lt_succ_iff.1 (List.mem_range.1 hn), rfl⟩

/-- A place of the series leads nowhere as long as it is free. -/
theorem findLink_temporaryPlace (htemporary : t.get? temporary = some .directory)
    (h : '/' ∉ name.toList) {n : Nat} (hfree : t.get? (temporaryPlace name n) = none) :
    (t.findLink (pathOf (temporaryPlace name n))).toBool = false := by
  rcases hfind : t.findLink (pathOf (temporaryPlace name n)) with fault | ⟨found, entry⟩
  · rfl
  · obtain ⟨-, -, directory, habove, hmissing, -⟩ :=
      find_of_resolve (isPlace_temporaryPlace h n) (resolve_of_findLink hfind)
    rw [eq_temporary_of_find htemporary habove] at hmissing
    exact nomatch hmissing hfree

/-- **A path that leads nowhere** is taken, if there is one in the series. -/
theorem findLink_freePath (htemporary : t.get? temporary = some .directory)
    (h : '/' ∉ name.toList) : (t.findLink (t.freePath name)).toBool = false := by
  obtain ⟨n, hn, hfree⟩ := exists_free t name
  unfold freePath
  dsimp only
  rcases hfind : ((List.range (t.entries.length + 1)).map
      fun n ↦ pathOf (temporaryPlace name n)).find? fun path ↦ !(t.findLink path).toBool with - | path
  · have htaken := List.find?_eq_none.1 hfind _ (List.mem_map_of_mem hn)
    rw [findLink_temporaryPlace htemporary h (Option.isNone_iff_eq_none.1 hfree)] at htaken
    exact absurd rfl htaken
  · simpa using List.find?_some hfind

/-! ### The new directory -/

/-- `t'` is `t` with an empty directory at a place where nothing was. -/
structure Opened (t : FileTree) (place : Place) (t' : FileTree) : Prop where
  isPlace : IsPlace place
  directory : t'.get? place = some .directory
  empty : ∀ names, names ≠ [] → t'.get? (place ++ names) = none
  /-- Whatever was there stays as it was. -/
  keeps : ∀ p, t.get? p ≠ none → t'.get? p = t.get? p
  closed : t'.Closed
  current : t'.current = t.current

/-- An entry at a free place of the directory for temporary files leaves everything else alone. -/
theorem opened_set {last : String} (ht : t.Closed) (htemporary : t.get? temporary = some .directory)
    (hplace : IsPlace (temporary ++ [last])) (hfree : t.get? (temporary ++ [last]) = none) :
    Opened t (temporary ++ [last]) (t.set (temporary ++ [last]) .directory) := by
  have hne : temporary ++ [last] ≠ [] := List.concat_ne_nil _ _
  have hget (p : Place) : (t.set (temporary ++ [last]) .directory).get? p =
      if p = temporary ++ [last] then some .directory else t.get? p := get?_set t p .directory hne
  have hkeeps : ∀ p, t.get? p ≠ none →
      (t.set (temporary ++ [last]) .directory).get? p = t.get? p := by
    intro p hp
    rw [hget, if_neg]
    rintro rfl
    exact hp hfree
  constructor
  · exact hplace
  · rw [hget, if_pos rfl]
  · intro names hnames
    have hlonger : temporary ++ [last] ++ names ≠ temporary ++ [last] := fun h ↦
      hnames (List.append_right_eq_self.1 h)
    rw [hget, if_neg hlonger]
    exact ht.get?_append_eq_none (hfree ▸ nofun) hnames
  · exact hkeeps
  · intro above last' hsome
    rw [hget] at hsome
    split at hsome
    next heq =>
      obtain rfl : above = temporary := List.append_inj_left' heq rfl
      exact (hkeeps temporary (htemporary ▸ nofun)).trans htemporary
    · have habove := ht above last' hsome
      exact (hkeeps above (habove ▸ nofun)).trans habove
  · rfl

/-- **A new temporary directory is empty**, and leaves everything else alone. -/
theorem opened_makeTemporary {path : Path} (ht : t.Closed)
    (htemporary : t.get? temporary = some .directory) (hname : '/' ∉ name.toList)
    (hmake : t.makeTemporary name = .ok (path, t')) :
    ∃ place, path = pathOf place ∧ Opened t place t' := by
  obtain ⟨n, -, hpath⟩ := exists_freePath t name
  unfold makeTemporary at hmake
  dsimp only at hmake
  rw [hpath] at hmake
  split at hmake
  next made hmade =>
    cases hmake
    obtain ⟨directory, habove, hfree, rfl, -⟩ :=
      makeDirectory_pathOf (isPlace_temporaryPlace hname n) hmade
    rw [eq_temporary_of_find htemporary habove] at hfree ⊢
    refine ⟨temporaryPlace name n, rfl, ?_⟩
    exact opened_set ht htemporary (isPlace_temporaryPlace hname n) hfree
  · cases hmake

/-- **A temporary directory is made** wherever there is a directory for them, unless its name is too
long. -/
theorem exists_makeTemporary (htemporary : t.get? temporary = some .directory)
    (hname : '/' ∉ name.toList)
    (hshort : ∀ n ≤ t.entries.length, Admissible (pathOf (temporaryPlace name n)) ∧
      (name ++ toString n).utf8ByteSize ≤ nameLimit) :
    ∃ made, t.makeTemporary name = .ok made := by
  obtain ⟨n, hn, hpath⟩ := exists_freePath t name
  obtain ⟨hadmissible, hlength⟩ := hshort n hn
  have hnowhere := findLink_freePath htemporary hname
  rw [hpath] at hnowhere
  have hisPlace := isPlace_temporaryPlace hname n
  have htop : "tmp".utf8ByteSize ≤ nameLimit := by decide
  rcases hget : t.get? (temporaryPlace name n) with - | entry
  · have hwalk : Walks t false linkLimit [] ((temporaryPlace name n).map .into)
        (.missing temporary (name ++ toString n) false) :=
      .directory htop htemporary (.missing hlength hget)
    have hresolve := (resolve_pathOf_eq_ok hisPlace).2 ⟨hadmissible, walk_eq_ok_iff.2 hwalk⟩
    have hmade : t.makeDirectory (pathOf (temporaryPlace name n)) =
        .ok (t.set (temporaryPlace name n) .directory) := by
      rw [makeDirectory, hresolve]
      rfl
    refine ⟨(pathOf (temporaryPlace name n), t.set (temporaryPlace name n) .directory), ?_⟩
    unfold makeTemporary
    dsimp only
    rw [hpath, hmade]
  · -- what lies there would have been found
    have habove : t.find (pathOf temporary) = .ok (temporary, .directory) :=
      (find_pathOf_eq_ok hisPlace.of_append).2
        ⟨hadmissible.of_append, .directory htop htemporary .done⟩
    have hresolve : t.resolve false (pathOf (temporaryPlace name n)) =
        .ok (.existing (temporaryPlace name n) entry) :=
      resolve_pathOf_append hisPlace hadmissible hlength habove hget fun hfollow ↦ by cases hfollow
    rw [findLink_eq_ok_iff.2 hresolve] at hnowhere
    cases hnowhere

end ContestJudge.FileTree
