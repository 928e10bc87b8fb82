import ContestJudge.FileTree.Resolve
import ContestJudge.Proofs.Path.Joined

/-!
# The paths of places

The path of a place is its names with a slash before each. Reading it gives the names back, so
resolving it walks down these names from the root (`resolve_pathOf_eq_ok`), the path above it is the
path of the place above (`parent?_pathOf_append`), and joining a way down to it gives the path of
the place below (`join_pathOf`).

Names that entries may have are neither empty nor `.` or `..`, and have no slash in them
(`IsPlace`). That is what makes all of this true: a part that is a name carries meaning and stands
for a step into it (`ofPart_name`), so no part of the path is dropped, and no step of it leads up.

The root is the path of the place without names, and it is a slash although there is no name for it
to stand before. So most of what is said of texts is said of the other places only.

The system refuses paths that are too long or have a byte in them that ends a text. `Admissible` is
exactly that, and is all that comes between the path of a place and the walk along its names.
-/

namespace ContestJudge.FileTree

open ContestJudge.Path (IsName slashed slashed_nil slashed_cons slashed_append splitParts_slashed
  intercalate_cons toList_ne)

variable {t : FileTree} {place : Place} {names : List String} {name : String}

/-- A place whose names entries may have. -/
def IsPlace (place : Place) : Prop := ∀ name ∈ place, IsName name

theorem isPlace_nil : IsPlace [] := List.forall_mem_nil _

theorem IsPlace.append (hplace : IsPlace place) (hnames : ∀ name ∈ names, IsName name) :
    IsPlace (place ++ names) := fun name hname ↦
  (List.mem_append.1 hname).elim (hplace name) (hnames name)

theorem IsPlace.of_append (h : IsPlace (place ++ names)) : IsPlace place := fun name hname ↦
  h name (List.mem_append_left _ hname)

theorem IsPlace.noSlash (h : IsPlace place) : ∀ part ∈ place.map String.toList, '/' ∉ part :=
  List.forall_mem_map.2 fun name hname ↦ (h name hname).noSlash

/-! ### Their text -/

theorem toList_pathOf (h : place ≠ []) :
    (pathOf place).text.toList = slashed (place.map String.toList) := by
  obtain ⟨first, rest, rfl⟩ := List.exists_cons_of_ne_nil h
  rw [pathOf, String.toList_append, String.toList_intercalate, List.map_cons]
  exact congrArg ('/' :: ·) (intercalate_cons _ _)

theorem splitParts_pathOf (h : IsPlace place) (hne : place ≠ []) :
    Path.splitParts (pathOf place).text.toList = [] :: place.map String.toList := by
  rw [toList_pathOf hne]
  exact splitParts_slashed List.not_mem_nil h.noSlash

theorem getLast?_pathOf (h : IsPlace (place ++ [name])) :
    ∃ c, (pathOf (place ++ [name])).text.toList.getLast? = some c ∧ c ≠ '/' := by
  have hname : IsName name := h name (List.mem_append_right _ List.mem_cons_self)
  obtain ⟨c, hc, hslash⟩ := Path.exists_getLast? (toList_ne hname.nonempty) hname.noSlash
  refine ⟨c, ?_, hslash⟩
  have hne : place ++ [name] ≠ [] := List.concat_ne_nil _ _
  rw [toList_pathOf hne, List.map_append, slashed_append, List.getLast?_append]
  have hlast : (slashed [name.toList]).getLast? = some c := by
    rw [slashed_cons, slashed_nil, List.append_nil, List.getLast?_cons, hc]
    rfl
  rw [List.map_cons, List.map_nil, hlast]
  rfl

theorem length_le_length_pathOf (place : Place) : place.length ≤ (pathOf place).text.length := by
  have hslashed : ∀ parts, parts.length ≤ (slashed parts).length := by
    intro parts
    induction parts with
    | nil => exact Nat.le_refl _
    | cons part rest ih =>
      rw [slashed_cons, List.length_cons, List.length_append, List.length_cons]
      omega
  cases place with
  | nil => exact Nat.zero_le _
  | cons first rest =>
    rw [← String.length_toList, toList_pathOf (List.cons_ne_nil _ _)]
    simpa using hslashed ((first :: rest).map String.toList)

/-! ### The paths above and below -/

theorem not_isIdle (h : IsName name) : Path.isIdle name.toList = false := by
  have hidle : ¬(name.toList = [] ∨ name.toList = ['.']) :=
    not_or.2 ⟨toList_ne h.nonempty, toList_ne h.ne_current⟩
  simpa [Path.isIdle] using hidle

theorem isAbsolute_pathOf (place : Place) : (pathOf place).isAbsolute = true := by
  rw [pathOf, Path.isAbsolute, String.toList_append]
  rfl

/-- Parts of names all carry meaning, so none of them is dropped. -/
theorem dropIdle_reverse (h : IsPlace place) :
    Path.dropIdle (place.map String.toList).reverse = (place.map String.toList).reverse := by
  rcases List.eq_nil_or_concat' place with rfl | ⟨above, name, rfl⟩
  · rfl
  · have hname : IsName name := h name (List.mem_append_right _ List.mem_cons_self)
    rw [List.map_append, List.reverse_append]
    exact List.dropWhile_cons_of_neg (Bool.eq_false_iff.1 (not_isIdle hname))

theorem parent?_pathOf_append (h : IsPlace (place ++ [name])) :
    (pathOf (place ++ [name])).parent? = some (pathOf place) := by
  have hne : place ++ [name] ≠ [] := List.concat_ne_nil _ _
  have hdrop : Path.dropIdle ((place ++ [name]).map String.toList).reverse =
      name.toList :: (place.map String.toList).reverse := by
    rw [dropIdle_reverse h, List.map_append, List.reverse_append]
    rfl
  rw [Path.parent?, splitParts_pathOf h hne]
  simp only [hdrop, dropIdle_reverse h.of_append]
  cases hreverse : (place.map String.toList).reverse with
  | nil =>
    obtain rfl : place = [] := List.map_eq_nil_iff.1 (List.reverse_eq_nil_iff.1 hreverse)
    simp only [isAbsolute_pathOf, if_true]
    rfl
  | cons last rest =>
    have hkept : (last :: rest).reverse = place.map String.toList := by
      rw [← hreverse, List.reverse_reverse]
    have hplace : place ≠ [] := by
      rintro rfl
      exact nomatch hreverse
    have hwrite : Path.writeParts ([] :: place.map String.toList) = (pathOf place).text := by
      have hread : place.map (String.ofList ∘ String.toList) = place :=
        List.map_congr_left (fun _ _ ↦ String.ofList_toList) |>.trans (List.map_id _)
      rw [← String.toList_inj, toList_pathOf hplace, Path.writeParts, List.map_cons, List.map_map,
        hread, String.toList_intercalate, List.map_cons]
      exact intercalate_cons _ _
    simp only [hkept, hwrite]

/-- The path of a place and everything above it, nearest first. -/
theorem ancestorsWithin_pathOf (h : IsPlace (place ++ [name])) (fuel : Nat) :
    Path.ancestorsWithin (fuel + 1) (pathOf (place ++ [name])) =
      pathOf (place ++ [name]) :: Path.ancestorsWithin fuel (pathOf place) := by
  rw [Path.ancestorsWithin, parent?_pathOf_append h]
  rfl

/-- Joining a way down to the path of a place gives the path of the place below. -/
theorem join_pathOf (hplace : IsPlace place) (hnames : ∀ name ∈ names, IsName name)
    (hne : names ≠ []) : (pathOf place).join ⟨"/".intercalate names⟩ = pathOf (place ++ names) := by
  obtain ⟨first, rest, rfl⟩ := List.exists_cons_of_ne_nil hne
  have hfirst : IsName first := hnames first List.mem_cons_self
  have htext : ("/".intercalate (first :: rest)).toList =
      first.toList ++ slashed (rest.map String.toList) := by
    rw [String.toList_intercalate, List.map_cons]
    exact intercalate_cons _ _
  have hrelative : (⟨"/".intercalate (first :: rest)⟩ : Path).isAbsolute = false := by
    refine decide_eq_false fun hhead ↦ hfirst.noSlash (List.mem_of_mem_head? ?_)
    rwa [htext, List.head?_append_of_ne_nil _ (toList_ne hfirst.nonempty)] at hhead
  rcases List.eq_nil_or_concat' place with rfl | ⟨above, name, rfl⟩
  · rw [Path.join, hrelative, if_neg Bool.false_ne_true, if_pos (.inr rfl)]
    rfl
  · obtain ⟨c, hc, hslash⟩ := getLast?_pathOf hplace
    have hplace' : above ++ [name] ≠ [] := List.concat_ne_nil _ _
    generalize above ++ [name] = place at hc hplace' ⊢
    have hall : place ++ first :: rest ≠ [] := List.append_ne_nil_of_left_ne_nil hplace' _
    have hchars : ((pathOf place).join ⟨"/".intercalate (first :: rest)⟩).text.toList =
        (pathOf (place ++ first :: rest)).text.toList := by
      rw [Path.toList_join hc hslash hrelative, htext, toList_pathOf hplace', toList_pathOf hall,
        List.map_append, slashed_append, List.map_cons, slashed_cons, List.cons_append]
    exact congrArg Path.mk (String.toList_inj.1 hchars)

theorem pathOf_ne_empty (place : Place) : (pathOf place).text ≠ "" :=
  Path.text_ne_empty (isAbsolute_pathOf place)

/-- What is joined to the path of a place stands behind a slash, also at the root. -/
theorem toList_join_pathOf {x : String} (h : IsPlace place) (hx : (⟨x⟩ : Path).isAbsolute = false) :
    ((pathOf place).join ⟨x⟩).text.toList =
      slashed (place.map String.toList) ++ '/' :: x.toList := by
  rw [Path.toList_join_relative (pathOf_ne_empty place) hx]
  rcases List.eq_nil_or_concat' place with rfl | ⟨above, name, rfl⟩
  · rfl
  · obtain ⟨c, hc, hslash⟩ := getLast?_pathOf h
    have hopen : (pathOf (above ++ [name])).text.toList.getLast? ≠ some '/' := by
      rw [hc]
      exact fun h ↦ hslash (Option.some.inj h)
    rw [if_neg hopen, toList_pathOf (List.concat_ne_nil _ _)]

/-! ### Resolving them -/

theorem ofPart_name (h : IsName name) : Step.ofPart name.toList = some (.into name) := by
  have hchars : name.toList ≠ [] := toList_ne h.nonempty
  have hcurrent : name.toList ≠ ['.'] := toList_ne h.ne_current
  have hparent : name.toList ≠ ['.', '.'] := toList_ne h.ne_parent
  rw [Step.ofPart, if_neg hchars, if_neg hcurrent, if_neg hparent, String.ofList_toList]

theorem filterMap_ofPart (h : IsPlace place) :
    (place.map String.toList).filterMap Step.ofPart = place.map .into := by
  have hstep : ∀ name ∈ place, (Step.ofPart ∘ String.toList) name = some (.into name) :=
    fun name hname ↦ ofPart_name (h name hname)
  rw [List.filterMap_map, List.filterMap_congr hstep, ← List.filterMap_eq_map]
  rfl

theorem steps_pathOf (h : IsPlace place) (hne : place ≠ []) :
    steps (pathOf place).text = place.map .into := by
  have hend : (pathOf place).text.toList.getLast? ≠ some '/' := by
    obtain ⟨above, name, rfl⟩ := (List.eq_nil_or_concat' place).resolve_left hne
    obtain ⟨c, hc, hslash⟩ := getLast?_pathOf h
    exact fun h ↦ hslash (Option.some.inj (hc.symm.trans h))
  rw [steps, splitParts_pathOf h hne, if_neg hend, List.append_nil, ← filterMap_ofPart h]
  rfl

/-- The system looks a path up at all. -/
structure Admissible (path : Path) : Prop where
  noNul : path.text.toList.contains '\x00' = false
  short : path.text.utf8ByteSize ≤ pathLimit

theorem Admissible.of_append (h : Admissible (pathOf (place ++ names))) :
    Admissible (pathOf place) := by
  obtain ⟨rest, htext⟩ : ∃ rest, (pathOf (place ++ names)).text = (pathOf place).text ++ rest := by
    by_cases hne : place = []
    · subst hne
      exact ⟨"/".intercalate names, rfl⟩
    · refine ⟨String.ofList (slashed (names.map String.toList)), String.toList_inj.1 ?_⟩
      rw [toList_pathOf (List.append_ne_nil_of_left_ne_nil hne _), String.toList_append,
        toList_pathOf hne, String.toList_ofList, List.map_append, slashed_append]
  constructor
  · have hnul := h.noNul
    rw [htext, String.toList_append, List.contains_append, Bool.or_eq_false_iff] at hnul
    exact hnul.1
  · have hshort := h.short
    rw [htext, String.utf8ByteSize_append] at hshort
    omega

/-- A path that says anything is walked from the root or from the current directory. -/
theorem resolve_eq_ok_iff_walk {path : Path} {followLast : Bool} {result : Target}
    (hempty : path.text ≠ "") :
    t.resolve followLast path = .ok result ↔
      Admissible path ∧
        t.walk followLast linkLimit (if startsAtRoot path.text then [] else t.current)
          (steps path.text) = .ok result := by
  rw [resolve, if_neg hempty]
  by_cases hnul : path.text.toList.contains '\x00' = true
  · rw [if_pos hnul]
    exact ⟨nofun, fun ⟨hadmissible, _⟩ ↦ nomatch hadmissible.noNul.symm.trans hnul⟩
  · rw [if_neg hnul]
    by_cases hlong : pathLimit < path.text.utf8ByteSize
    · rw [if_pos hlong]
      exact ⟨nofun, fun ⟨hadmissible, _⟩ ↦ absurd hadmissible.short (Nat.not_le.2 hlong)⟩
    · rw [if_neg hlong]
      exact ⟨fun h ↦ ⟨⟨Bool.eq_false_iff.2 hnul, Nat.not_lt.1 hlong⟩, h⟩, And.right⟩

theorem text_ne_empty_of_resolve {path : Path} {followLast : Bool} {result : Target}
    (h : t.resolve followLast path = .ok result) : path.text ≠ "" := by
  intro hempty
  rw [resolve, hempty] at h
  exact nomatch h

/-- An absolute path is walked from the root. -/
theorem resolve_eq_ok_iff {path : Path} {followLast : Bool} {result : Target}
    (hroot : startsAtRoot path.text = true) :
    t.resolve followLast path = .ok result ↔
      Admissible path ∧ t.walk followLast linkLimit [] (steps path.text) = .ok result := by
  rw [resolve_eq_ok_iff_walk (Path.text_ne_empty hroot), hroot, if_pos rfl]

/-- **The path of a place is walked from the root**, name by name. -/
theorem resolve_pathOf_eq_ok (h : IsPlace place) {followLast : Bool} {result : Target} :
    t.resolve followLast (pathOf place) = .ok result ↔
      Admissible (pathOf place) ∧
        t.walk followLast linkLimit [] (place.map .into) = .ok result := by
  have hroot : startsAtRoot (pathOf place).text = true := isAbsolute_pathOf place
  have hwalk : t.walk followLast linkLimit [] (steps (pathOf place).text) =
      t.walk followLast linkLimit [] (place.map .into) := by
    by_cases hne : place = []
    · subst hne
      rfl
    · rw [steps_pathOf h hne]
  rw [resolve_eq_ok_iff hroot, hwalk]

end ContestJudge.FileTree
