import ContestJudge.FileTree.Operations
import ContestJudge.Proofs.FileTree.Making

/-!
# Copying into a directory

A copy is opened before its source is read again, so a file that is copied to itself is lost; any
other source leaves its content behind (`Stored`). In a directory that holds nothing but files, all
copies together change just the places of their names (`Filled`). So a path leads to what it led to
before, unless that is one of the copies.

* `Filled.find` — what a path leads to stays. Copies put files in the place of files or of nothing,
  and a file is on the way to nothing, so this is what survives when the entries, the directories
  and the links are left alone (`find_of_isWay`).
* `Receives.stored_of_copy` — one copy, from the operation of the tree. The name is looked up in the
  directory and nowhere else, since no link lies there (`Receives.resolve_append`).

That the directory holds nothing but files is part of what is kept (`Filled.receives`), so copies
can be strung together (`Filled.append`). For a directory with links in it none of this holds: a
copy would go where the link leads.
-/

namespace ContestJudge.FileTree

open ContestJudge.Path (IsName)
open ContestJudge.Text (Bytes)

variable {t t' between : FileTree} {place found p : Place} {name : String}
  {names more : List String} {source path : Path} {entry : Entry} {content : Bytes}
  {executable : Bool}

/-! ### A directory of files -/

/-- **A directory to copy into**: whatever lies in it is a file. -/
structure Receives (place : Place) (t : FileTree) : Prop where
  isPlace : IsPlace place
  closed : t.Closed
  directory : t.get? place = some .directory
  files : ∀ name entry, t.get? (place ++ [name]) = some entry →
    ∃ content executable, entry = .file content executable

namespace Receives

/-- Directories and links lie elsewhere. -/
theorem ne_of_isWay (h : Receives place t) (hget : t.get? p = some entry) (hway : IsWay entry) :
    p ≠ place ++ [name] := by
  rintro rfl
  obtain ⟨content, executable, rfl⟩ := h.files name entry hget
  exact hway

/-- A name in the directory is looked up there and nowhere else: it is free, or a file has it. -/
theorem resolve_append (h : Receives place t) (hname : IsName name) {result : Target}
    (hresolve : t.resolve true (pathOf (place ++ [name])) = .ok result) :
    Admissible (pathOf (place ++ [name])) ∧ name.utf8ByteSize ≤ nameLimit ∧
      t.find (pathOf place) = .ok (place, .directory) ∧
      (result = .missing place name false ∨
        ∃ content executable, result = .existing (place ++ [name]) (.file content executable)) := by
  have hplace : IsPlace (place ++ [name]) :=
    h.isPlace.append (List.forall_mem_singleton.2 hname)
  obtain ⟨hadmissible, hshort, directory, hfind, hnone, hsome⟩ := find_of_resolve hplace hresolve
  obtain rfl : directory = place :=
    eq_of_find h.isPlace (fun _ hpre ↦ get?_ne_link h.closed h.directory hpre) hfind
  refine ⟨hadmissible, hshort, hfind, ?_⟩
  cases hget : t.get? (directory ++ [name]) with
  | none => exact .inl (hnone hget)
  | some entry =>
    obtain ⟨content, executable, rfl⟩ := h.files name entry hget
    exact .inr ⟨content, executable, hsome _ hget nofun⟩

/-- Opening a copy puts an empty file under its name. -/
theorem clear_append (h : Receives place t) (hname : IsName name) {opened : Place × FileTree}
    (hclear : t.clear (pathOf (place ++ [name])) executable = .ok opened) :
    opened = (place ++ [name], t.set (place ++ [name]) (.file [] executable)) := by
  obtain ⟨result, hresolve, hresult⟩ := bind_eq_ok_iff.1 hclear
  obtain ⟨-, -, -, rfl | ⟨content, runs, rfl⟩⟩ := h.resolve_append hname hresolve
  · exact (Except.ok.inj hresult).symm
  · exact (Except.ok.inj hresult).symm

end Receives

/-! ### What copies change -/

/-- **Files were put into a directory** under some names. -/
structure Filled (place : Place) (names : List String) (t t' : FileTree) : Prop where
  receives : Receives place t'
  unchanged : ∀ p, (∀ name ∈ names, p ≠ place ++ [name]) → t'.get? p = t.get? p
  current : t'.current = t.current

namespace Filled

theorem refl (h : Receives place t) : Filled place [] t t := ⟨h, fun _ _ ↦ rfl, rfl⟩

theorem append (h : Filled place names t between) (h' : Filled place more between t') :
    Filled place (names ++ more) t t' where
  receives := h'.receives
  unchanged p hp := by
    obtain ⟨hfirst, hsecond⟩ := List.forall_mem_append.1 hp
    rw [h'.unchanged p hsecond, h.unchanged p hfirst]
  current := h'.current.trans h.current

/-- A file under one name. -/
theorem singleton (h : Receives place t)
    (hget : ∀ p, t'.get? p =
      if p = place ++ [name] then some (.file content executable) else t.get? p)
    (hcurrent : t'.current = t.current) : Filled place [name] t t' := by
  have hother (p : Place) (hp : p ≠ place ++ [name]) : t'.get? p = t.get? p := by
    rw [hget, if_neg hp]
  have hdirectory (p : Place) (hp : t.get? p = some .directory) : t'.get? p = some .directory :=
    (hother p (h.ne_of_isWay hp trivial)).trans hp
  refine ⟨⟨h.isPlace, ?_, hdirectory place h.directory, ?_⟩, ?_, hcurrent⟩
  · intro above last hsome
    by_cases hnew : above ++ [last] = place ++ [name]
    · rw [List.append_inj_left' hnew rfl]
      exact hdirectory place h.directory
    · rw [hother _ hnew] at hsome
      exact hdirectory above (h.closed above last hsome)
  · intro last entry hentry
    rw [hget] at hentry
    split at hentry
    · exact ⟨content, executable, (Option.some.inj hentry).symm⟩
    · exact h.files last entry hentry
  · exact fun p hp ↦ hother p (hp name List.mem_cons_self)

/-- **What a path leads to stays**, unless it is a file that was put there. -/
theorem find (h : Filled place names t t') (ht : Receives place t)
    (hfind : t.find path = .ok (found, entry))
    (hfound : ∀ name ∈ names, found ≠ place ++ [name]) : t'.find path = .ok (found, entry) := by
  refine find_of_isWay h.current (fun p e hget hkept ↦ ?_) hfind
  rw [h.unchanged p, hget]
  rintro name hname rfl
  rcases hkept with rfl | hway
  · exact hfound name hname rfl
  · exact ht.ne_of_isWay hget hway rfl

end Filled

/-! ### One copy -/

/-- **A file was copied**: what the source leads to was read, and its content is found at the place
of the copy, unless that is where it was read. -/
structure Stored (place : Place) (name : String) (source : Path) (found : Place) (content : Bytes)
    (executable : Bool) (t t' : FileTree) : Prop where
  read : t.find source = .ok (found, .file content executable)
  opens : t'.find (pathOf (place ++ [name])) =
    .ok (place ++ [name],
      .file (if found = place ++ [name] then [] else content) executable)
  filled : Filled place [name] t t'

/-- A copy changes the place of its name and no other. The source is read again once the copy is
open, and then the file found may be empty. -/
theorem Receives.get?_of_copy (h : Receives place t) (hname : IsName name) {count : Nat}
    (hcopy : t.copy source (pathOf (place ++ [name])) = .ok (count, t')) :
    ∃ found content executable result, t.find source = .ok (found, .file content executable) ∧
      t.resolve true (pathOf (place ++ [name])) = .ok result ∧ t'.current = t.current ∧
      ∀ p, t'.get? p =
        if p = place ++ [name] then
          some (.file (if found = place ++ [name] then [] else content) executable)
        else t.get? p := by
  obtain ⟨⟨found, entry⟩, hfind, hcopy⟩ := bind_eq_ok_iff.1 (mapError_eq_ok_iff.1 hcopy)
  cases entry with
  | directory => exact nomatch hcopy
  | link => exact nomatch hcopy
  | utility => exact nomatch hcopy
  | sink => exact nomatch hcopy
  | zeros => exact nomatch hcopy
  | file content executable =>
    obtain ⟨opened, hclear, hcopy⟩ := bind_eq_ok_iff.1 hcopy
    obtain rfl := h.clear_append hname hclear
    obtain ⟨result, hresolve, -⟩ := bind_eq_ok_iff.1 hclear
    have hne : place ++ [name] ≠ [] := List.concat_ne_nil _ _
    have hagain : (t.set (place ++ [name]) (.file [] executable)).get? found =
        some (.file (if found = place ++ [name] then [] else content) executable) := by
      rw [get?_set _ _ _ hne]
      split
      · rfl
      · exact get?_of_find_ne_directory nofun hfind
    dsimp only at hcopy
    rw [hagain, get?_set _ _ _ hne, if_pos rfl] at hcopy
    obtain ⟨-, rfl⟩ := Prod.mk.inj (Except.ok.inj hcopy)
    refine ⟨found, content, executable, result, hfind, hresolve, rfl, fun p ↦ ?_⟩
    rw [get?_set _ _ _ hne, get?_set _ _ _ hne]
    by_cases hp : p = place ++ [name]
    · rw [if_pos hp, if_pos hp]
    · rw [if_neg hp, if_neg hp, if_neg hp]

theorem Receives.stored_of_copy (h : Receives place t) (hname : IsName name) {count : Nat}
    (hcopy : t.copy source (pathOf (place ++ [name])) = .ok (count, t')) :
    ∃ found content executable, Stored place name source found content executable t t' := by
  obtain ⟨found, content, executable, result, hfind, hresolve, hcurrent, hget⟩ :=
    h.get?_of_copy hname hcopy
  obtain ⟨hadmissible, hshort, habove, -⟩ := h.resolve_append hname hresolve
  have hfilled : Filled place [name] t t' := .singleton h hget hcurrent
  have hdirectory : t'.find (pathOf place) = .ok (place, .directory) :=
    hfilled.find h habove fun last _ ↦ h.ne_of_isWay h.directory trivial
  have hplace : IsPlace (place ++ [name]) :=
    h.isPlace.append (List.forall_mem_singleton.2 hname)
  have hthere := (hget (place ++ [name])).trans (if_pos rfl)
  refine ⟨found, content, executable, hfind, ?_, hfilled⟩
  exact find_eq_ok_iff.2
    (resolve_pathOf_append hplace hadmissible hshort hdirectory hthere fun _ ↦ nofun)

end ContestJudge.FileTree
