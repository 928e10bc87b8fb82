import ContestJudge.Proofs.FileTree.Beside
import ContestJudge.Proofs.Glob.Literal
import Mathlib.Data.List.Forall2

/-!
# Searching a tree inside another one

The search for a pattern below a directory begins at the root, with the names of the directory as
the first components. When these have no wildcards, it comes down to the directory and goes on with
the pattern alone. From there on it visits the same paths wherever the tree lies, as long as no
component leads up.

* `paths_join` — coming down: a directory without wildcards is taken as it is written, so the names
  of the directory are used up on the way to it (`fill_pathOf`). That the joined text is read so is
  known from `componentTexts_join`; that each name is found is part of the directory being
  reachable.
* `Search.fill_hosted` — going on below it: the relation of the paths that the two searches visit is
  `Beside`. Every component that is used up may have added two bytes that name nothing, so the
  relation gets weaker by as much with each component, up to a limit that is known beforehand.
* `pathsBelow_hosted` — both together, for the patterns whose components lead down (`GoesDown`).

The induction is on the fuel of the search, which is the same for both. It is bounded by the length
of paths, so it never runs out, but nothing is said of that here: the two searches agree at each
fuel.

A component `..` is left out because it leads up, and so is a pattern that matches it: names that
begin with a dot are matched by a pattern that begins with one, `..` among them.
-/

namespace ContestJudge.Glob

open FileTree (pathOf IsPlace Reachable Beside Agree pathLimit)
open ContestJudge.Path (slashed IsName)

/-- A component that leads to what it names or to where it starts, but not up. -/
structure Pattern.GoesDown (q : Pattern) : Prop where
  noParent : ".." ∉ Search.dotChildren q
  noSlash : ∀ literal, q.literal? = some literal → '/' ∉ literal.toList

/-- A text that is read as a pattern whose components do not lead up. -/
def GoesDown (text : String) : Prop :=
  ∀ component ∈ componentTexts text, ∀ q, Pattern.parse component = .ok q →
    ".." ∉ Search.dotChildren q

instance (text : String) : Decidable (GoesDown text) :=
  decidable_of_iff
    (((componentTexts text).all fun component ↦ match Pattern.parse component with
      | .ok q => !(Search.dotChildren q).contains ".."
      | .error _ => true) = true) <| by
    rw [List.all_eq_true]
    refine forall₂_congr fun component _ ↦ ?_
    cases Pattern.parse component with
    | error => exact iff_of_true rfl nofun
    | ok q => simp

/-- The paths that match a text below a directory; only the text is read as a pattern. -/
def pathsBelow (tree : FileTree) (base : Path) (text : String) :
    Except PatternFault (List Path) := do
  let _ ← Pattern.parse text
  let patterns ← (componentTexts text).mapM Pattern.parse
  let search : Search := ⟨tree, text.toList.getLast? = some '/'⟩
  return search.fill (patterns.length + pathLimit) patterns base

variable {t inner : FileTree} {base above names : Place} {text : String} {more : Nat}

/-! ### Coming down to the directory -/

theorem Pattern.GoesDown.ne_parent {q : Pattern} (h : q.GoesDown) {literal : String}
    (hliteral : q.literal? = some literal) : literal ≠ ".." := by
  rintro rfl
  refine h.noParent ?_
  have htokens : q.tokens = [.literal '.', .literal '.'] := tokens_of_literal? hliteral
  have hmatches : q.matchesText ".." = true := by
    rw [matchesText, htokens]
    decide
  rw [Search.dotChildren, htokens, List.head?_cons, if_pos rfl]
  exact List.mem_filter.2 ⟨List.mem_cons_self, hmatches⟩

theorem childPath_of_rooted {path : Path} (h : path.isAbsolute = true) (name : String) :
    childPath path name = path.join ⟨name⟩ := by
  have hroot := Path.root_mem_components h
  have hcurrent : path.components ≠ [.current] := by
    intro hcurrent
    rw [hcurrent] at hroot
    exact absurd hroot (by decide)
  rw [childPath, if_neg hcurrent]

/-- A name on the way is looked up and found. -/
theorem literalChild_pathOf {name : String} (hbase : t.Reachable base more)
    (habove : above ++ [name] <+: base) (d : Bool) :
    (⟨t, d⟩ : Search).literalChild (pathOf above) name = some (pathOf (above ++ [name])) := by
  have hplace : IsPlace (above ++ [name]) := fun n hn ↦ hbase.place n (habove.subset hn)
  have hname : IsName name := hplace name (List.mem_append_right _ List.mem_cons_self)
  have hjoin : (pathOf above).join ⟨"/".intercalate [name]⟩ = pathOf (above ++ [name]) :=
    FileTree.join_pathOf hplace.of_append (List.forall_mem_singleton.2 hname) (List.cons_ne_nil _ _)
  rw [String.intercalate_singleton] at hjoin
  have hdots : ¬(name = "." ∨ name = "..") := not_or.2 ⟨hname.ne_current, hname.ne_parent⟩
  have hfind := hbase.find_pathOf habove
  unfold Search.literalChild
  simp only [if_neg hdots, childPath_of_rooted (FileTree.isAbsolute_pathOf above), hjoin, hfind]
  rfl

/-- **The names of the directory** are used up on the way down to it. -/
theorem fill_pathOf (hbase : t.Reachable base more) (habove : above ++ names <+: base) (d : Bool)
    (fuel : Nat) {patterns : List Pattern} (hpatterns : patterns ≠ []) :
    (⟨t, d⟩ : Search).fill (names.length + fuel) (names.map Pattern.ofLiteral ++ patterns)
        (pathOf above) = (⟨t, d⟩ : Search).fill fuel patterns (pathOf (above ++ names)) := by
  induction names generalizing above with
  | nil => rw [List.length_nil, Nat.zero_add, List.map_nil, List.nil_append, List.append_nil]
  | cons name rest ih =>
    have hassoc : above ++ [name] ++ rest = above ++ name :: rest := List.append_assoc _ _ _
    rw [← hassoc] at habove
    have hnext : above ++ [name] <+: base := (List.prefix_append _ rest).trans habove
    have hrest : (rest.map Pattern.ofLiteral ++ patterns).isEmpty = false := by
      rw [List.isEmpty_eq_false_iff]
      exact List.append_ne_nil_of_right_ne_nil _ hpatterns
    rw [List.length_cons, Nat.add_right_comm, List.map_cons, List.cons_append, Search.fill]
    simp only [Pattern.literal?_ofLiteral, literalChild_pathOf hbase hnext, Option.map_some,
      Option.getD_some, hrest, Bool.false_eq_true, if_false]
    rw [ih habove, hassoc]

theorem mapM_parse_names (hnames : ∀ name ∈ names, IsLiteral name.toList) :
    names.mapM Pattern.parse = .ok (names.map Pattern.ofLiteral) := by
  induction names with
  | nil => rfl
  | cons name rest ih =>
    obtain ⟨hname, hrest⟩ := List.forall_mem_cons.1 hnames
    rw [List.mapM_cons, Pattern.parse_literal hname, ih hrest]
    rfl

theorem isLiteral_slashed (hnames : ∀ name ∈ names, IsLiteral name.toList) :
    IsLiteral (slashed (names.map String.toList)) := by
  intro c hc
  obtain ⟨part, hpart, hc⟩ := List.mem_flatMap.1 hc
  obtain ⟨name, hname, rfl⟩ := List.mem_map.1 hpart
  rcases List.mem_cons.1 hc with rfl | hc
  · decide
  · exact hnames name hname c hc

/-- **A directory without wildcards is taken as it is written**: only what follows it is read as a
pattern. Faults have their place in another text, so they may differ. -/
theorem paths_join (hbase : t.Reachable base more) (hnames : ∀ name ∈ base, IsLiteral name.toList)
    (hroot : FileTree.startsAtRoot text = false) (htext : text ≠ "") :
    (paths t ((pathOf base).join ⟨text⟩).text).toOption =
      (pathsBelow t (pathOf base) text).toOption := by
  have hjoined := FileTree.toList_join_pathOf (x := text) hbase.place hroot
  generalize ((pathOf base).join ⟨text⟩).text = joined at hjoined
  have hrelative : text.toList.head? ≠ some '/' := of_decide_eq_false hroot
  have hparse : (Pattern.parse joined).toBool = (Pattern.parse text).toBool :=
    Pattern.toBool_parse_join (isLiteral_slashed hnames) hjoined
  have hslash : ∀ name ∈ base, '/' ∉ name.toList :=
    fun name hname ↦ (hbase.place name hname).noSlash
  have hcomponents : componentTexts joined = base ++ componentTexts text := by
    rw [componentTexts_of_relative hrelative htext]
    exact componentTexts_join hslash (.inr htext) hjoined
  have hlast : joined.toList.getLast? = text.toList.getLast? := by
    obtain ⟨c, cs, hcs⟩ := List.exists_cons_of_ne_nil (mt String.toList_eq_nil_iff.1 htext)
    rw [hjoined, List.getLast?_append_of_ne_nil _ (List.cons_ne_nil _ _), hcs,
      List.getLast?_cons_cons]
  have hstart : FileTree.startsAtRoot joined = true := by
    rw [FileTree.startsAtRoot, hjoined]
    cases base <;> rfl
  -- the names of the directory are used up on the way, and then the components of the text are left
  have hway {patterns : List Pattern} (hpatterns : patterns ≠ []) (d : Bool) :
      (⟨t, d⟩ : Search).fill ((base.map Pattern.ofLiteral ++ patterns).length + pathLimit)
          (base.map Pattern.ofLiteral ++ patterns) ⟨"/"⟩ =
        (⟨t, d⟩ : Search).fill (patterns.length + pathLimit) patterns (pathOf base) := by
    have hprefix : [] ++ base <+: base := List.prefix_refl base
    rw [List.length_append, List.length_map, Nat.add_assoc]
    exact fill_pathOf hbase hprefix d _ hpatterns
  have hcomponents' : componentTexts text ≠ [] := componentTexts_ne_nil hrelative htext
  rw [paths, pathsBelow, hcomponents, hlast, hstart, if_pos rfl, List.mapM_append,
    mapM_parse_names hnames]
  cases hfirst : Pattern.parse text with
  | error fault =>
    cases hfirst' : Pattern.parse joined with
    | error => rfl
    | ok => rw [hfirst, hfirst'] at hparse; exact nomatch hparse
  | ok =>
    cases hfirst' : Pattern.parse joined with
    | error => rw [hfirst, hfirst'] at hparse; exact nomatch hparse
    | ok =>
      cases hpatterns : (componentTexts text).mapM Pattern.parse with
      | error => rfl
      | ok patterns =>
        have hne : patterns ≠ [] := by
          rw [← List.length_pos_iff, length_of_mapM hpatterns]
          exact List.length_pos_iff.2 hcomponents'
        exact congrArg some (hway hne _)

theorem fill_literal {s : Search} {path next : Path} {literal : String} (fuel : Nat)
    (hchild : s.literalChild path literal = some next) (hnext : s.tree.isDirectory next = true) :
    s.fill (fuel + 1) [Pattern.ofLiteral literal] path = [next] := by
  rw [Search.fill]
  simp only [Pattern.literal?_ofLiteral, hchild, Option.map_some, Option.getD_some,
    List.isEmpty_nil, if_true, Search.accept, hnext, Bool.not_true, Bool.and_false,
    Bool.false_eq_true, if_false]

/-- The root has nothing below it that has no name. -/
theorem literalChild_root (t : FileTree) (d : Bool) :
    (⟨t, d⟩ : Search).literalChild (pathOf []) "" = some (pathOf []) := by
  have hnext : (pathOf []).join ⟨""⟩ = pathOf [] := by decide
  have hdots : ¬("" = "." ∨ "" = "..") := by decide
  unfold Search.literalChild
  simp only [if_neg hdots, childPath_of_rooted (FileTree.isAbsolute_pathOf []), hnext,
    FileTree.find_root]
  rfl

theorem pathsBelow_empty (t : FileTree) : pathsBelow t (pathOf []) "" = .ok [pathOf []] := by
  have hempty : IsLiteral "".toList := by decide
  have hfind : t.isDirectory (pathOf []) = true := by
    rw [FileTree.isDirectory, FileTree.find_root]
  have hcomponents : componentTexts "" = [""] := rfl
  rw [pathsBelow, Pattern.parse_literal hempty, hcomponents,
    mapM_parse_names (List.forall_mem_singleton.2 hempty)]
  exact congrArg Except.ok (fill_literal _ (literalChild_root t _) hfind)

/-- Nothing to look for below a directory finds the directory itself. -/
theorem paths_join_empty (hbase : t.Reachable base more)
    (hnames : ∀ name ∈ base, IsLiteral name.toList) :
    paths t ((pathOf base).join ⟨""⟩).text = .ok [pathOf base] := by
  have hjoined := FileTree.toList_join_pathOf (x := "") hbase.place rfl
  generalize ((pathOf base).join ⟨""⟩).text = joined at hjoined
  have hliteral : IsLiteral joined.toList := by
    rw [hjoined]
    intro c hc
    rcases List.mem_append.1 hc with hc | hc
    · exact isLiteral_slashed hnames c hc
    · obtain rfl := List.mem_singleton.1 hc
      decide
  have hlast : joined.toList.getLast? = some '/' := by
    rw [hjoined]
    exact List.getLast?_concat
  have hstart : FileTree.startsAtRoot joined = true := by
    rw [FileTree.startsAtRoot, hjoined]
    cases base <;> rfl
  have hfind : t.isDirectory (pathOf base) = true := by
    rw [FileTree.isDirectory, hbase.find_pathOf (List.prefix_refl base)]
  have hparse : Pattern.parse joined = .ok (Pattern.ofLiteral joined) :=
    Pattern.parse_literal hliteral
  rcases List.eq_nil_or_concat' base with rfl | ⟨init, last, rfl⟩
  · obtain rfl : joined = "/" := String.toList_inj.1 hjoined
    have hempty : IsLiteral "".toList := by decide
    have hcomponents : componentTexts "/" = [""] := rfl
    rw [paths, hparse, hcomponents, mapM_parse_names (List.forall_mem_singleton.2 hempty)]
    exact congrArg Except.ok (fill_literal _ (literalChild_root t true) hfind)
  · have hne : init ++ [last] ≠ [] := List.concat_ne_nil _ _
    have hslash : ∀ name ∈ init ++ [last], '/' ∉ name.toList :=
      fun name hname ↦ (hbase.place name hname).noSlash
    have hcomponents : componentTexts joined = init ++ [last] := by
      rw [componentTexts_join hslash (.inl hne) hjoined]
      exact List.append_nil _
    have hchild : (⟨t, true⟩ : Search).literalChild (pathOf init) last =
        some (pathOf (init ++ [last])) := literalChild_pathOf hbase (List.prefix_refl _) true
    have hinit : [] ++ init <+: init ++ [last] := List.prefix_append _ _
    have hway : (⟨t, true⟩ : Search).fill (init.length + (pathLimit + 1))
        (init.map Pattern.ofLiteral ++ [Pattern.ofLiteral last]) (pathOf []) =
          [pathOf (init ++ [last])] := by
      rw [fill_pathOf hbase hinit true (pathLimit + 1) (List.cons_ne_nil _ _)]
      exact fill_literal _ hchild hfind
    have hlength : ((init ++ [last]).map Pattern.ofLiteral).length + pathLimit =
        init.length + (pathLimit + 1) := by
      rw [List.length_map, List.length_append, List.length_singleton]
      omega
    rw [paths, hparse, hcomponents, mapM_parse_names hnames, hlast, hstart, if_pos rfl]
    show Except.ok ((⟨t, decide (some '/' = some '/')⟩ : Search).fill _ _ _) = _
    rw [hlength, List.map_append]
    exact congrArg Except.ok hway

/-! ### Going on below it -/

namespace Search

theorem eq_current_of_mem {q : Pattern} (hq : q.GoesDown) {name : String}
    (h : name ∈ dotChildren q) : name = "." := by
  have hdots : name ∈ ["..", "."] := by
    rw [dotChildren] at h
    split at h
    · exact List.mem_of_mem_filter h
    · exact absurd h List.not_mem_nil
  rcases List.mem_cons.1 hdots with rfl | hdots
  · exact absurd h hq.noParent
  · exact List.mem_singleton.1 hdots

theorem isName_of_mem_names (hinner : inner.Contained) {d : Bool} {path : Path} {name : String}
    (h : name ∈ (⟨inner, d⟩ : Search).names path) : IsName name := by
  unfold names at h
  split at h
  next place _ => exact hinner.names place name h
  · exact absurd h List.not_mem_nil

section Hosted

variable {room limit idle : Nat} {d : Bool} {inside outside : Path} {patterns : List Pattern}
  {fillInside fillOutside : List Pattern → Path → List Path}

/-- The paths that a search visits, up to where the tree lies. -/
abbrev Matches (base : Place) (limit : Nat) : List Path → List Path → Prop :=
  List.Forall₂ (Beside base limit)

variable (hinner : inner.Contained) (hhosts : t.Hosts base inner) (hroom : inner.Room room)
  (hbase : t.Reachable base (room + 1 + limit))
include hinner hhosts hroom hbase

theorem isDirectory_hosted (h : Beside base limit inside outside) :
    t.isDirectory outside = inner.isDirectory inside :=
  (h.find hinner hhosts hroom hbase).isDirectory_eq

theorem accept_hosted (h : Beside base limit inside outside) :
    Matches base limit ((⟨inner, d⟩ : Search).accept inside)
      ((⟨t, d⟩ : Search).accept outside) := by
  unfold accept
  simp only [isDirectory_hosted hinner hhosts hroom hbase h]
  split
  · exact .nil
  · exact .cons h .nil

theorem names_hosted (h : Beside base limit inside outside) :
    (⟨t, d⟩ : Search).names outside = (⟨inner, d⟩ : Search).names inside := by
  have hfind := h.find hinner hhosts hroom hbase
  unfold names
  simp only
  generalize inner.find inside = x at hfind
  generalize t.find outside = y at hfind
  cases hfind with
  | lost => rfl
  | found place entry =>
    cases entry with
    | directory => exact hhosts.listed place
    | _ => rfl

theorem literalChild_hosted (h : Beside base idle inside outside) (hidle : idle + 2 ≤ limit)
    {literal : String} (hslash : '/' ∉ literal.toList) (hparent : literal ≠ "..") :
    Option.Rel (Beside base (idle + 2)) ((⟨inner, d⟩ : Search).literalChild inside literal)
      ((⟨t, d⟩ : Search).literalChild outside literal) := by
  have hplace : IsPlace base := hbase.place
  have hnext := h.join_of_ne_parent hplace hslash hparent
  have hstart := isDirectory_hosted hinner hhosts hroom hbase (h.mono (by omega))
  have hfind := ((hnext.mono hidle).find hinner hhosts hroom hbase).toBool_eq
  have hfindLink := ((hnext.mono hidle).findLink hinner hhosts hroom hbase).toBool_eq
  unfold literalChild
  simp only [childPath_of_rooted h.rooted, childPath_of_rooted h.startsAtRoot_outside, hstart,
    hfind, hfindLink]
  have hrel (isThere : Bool) :
      Option.Rel (Beside base (idle + 2)) (if isThere then some (inside.join ⟨literal⟩) else none)
        (if isThere then some (outside.join ⟨literal⟩) else none) := by
    cases isThere with
    | false => exact .none
    | true => exact .some hnext
  exact hrel _

variable (hfill : ∀ patterns, (∀ q ∈ patterns, q.GoesDown) → idle + 2 * patterns.length ≤ limit →
  Matches base limit (fillInside patterns inside) (fillOutside patterns outside))
include hfill

theorem compareName_hosted (h : Beside base idle inside outside)
    (hname : outside.fileName? = inside.fileName?) (hpatterns : ∀ q ∈ patterns, q.GoesDown)
    (hidle : idle + 2 * patterns.length ≤ limit) :
    Matches base limit ((⟨inner, d⟩ : Search).compareName fillInside inside patterns)
      ((⟨t, d⟩ : Search).compareName fillOutside outside patterns) := by
  cases patterns with
  | nil => exact .nil
  | cons pattern rest =>
    rw [List.length_cons] at hidle
    obtain ⟨-, hrest⟩ := List.forall_mem_cons.1 hpatterns
    unfold compareName
    simp only [hname]
    cases inside.fileName? with
    | none => exact .nil
    | some name =>
      simp only
      split
      · exact .nil
      · split
        · exact accept_hosted hinner hhosts hroom hbase (h.mono (by omega))
        · exact hfill rest hrest (by omega)

theorem visit_hosted (h : Beside base idle inside outside)
    (hname : outside.fileName? = inside.fileName?) (hpatterns : ∀ q ∈ patterns, q.GoesDown)
    (hidle : idle + 2 * patterns.length ≤ limit) :
    Matches base limit ((⟨inner, d⟩ : Search).visit fillInside patterns inside)
      ((⟨t, d⟩ : Search).visit fillOutside patterns outside) := by
  cases patterns with
  | nil => exact .nil
  | cons pattern rest =>
    rw [List.length_cons] at hidle
    have hhere : Beside base limit inside outside := h.mono (by omega)
    obtain ⟨hpattern, hrest⟩ := List.forall_mem_cons.1 hpatterns
    have hdrop : ∀ q ∈ rest.dropWhile Pattern.isRecursive, q.GoesDown :=
      fun q hq ↦ hrest q ((List.dropWhile_sublist _).subset hq)
    -- several components `**` in a row count as one, so no more are left than before
    have hlength : (rest.dropWhile Pattern.isRecursive).length ≤ rest.length :=
      (List.dropWhile_sublist _).length_le
    have hcompare := compareName_hosted (d := d) hinner hhosts hroom hbase hfill h hname hdrop
      (by omega)
    unfold visit
    simp only [isDirectory_hosted hinner hhosts hroom hbase hhere]
    split
    · exact compareName_hosted hinner hhosts hroom hbase hfill h hname hpatterns
        (by rw [List.length_cons]; omega)
    · split
      · have hagain : ∀ q ∈ pattern :: rest.dropWhile Pattern.isRecursive, q.GoesDown :=
          List.forall_mem_cons.2 ⟨hpattern, hdrop⟩
        refine List.rel_append ?_ (hfill _ hagain (by rw [List.length_cons]; omega))
        split
        · exact .cons hhere .nil
        · exact hcompare
      · exact hcompare

omit hfill

theorem fill_hosted (fuel : Nat) (h : Beside base idle inside outside)
    (hpatterns : ∀ q ∈ patterns, q.GoesDown) (hidle : idle + 2 * patterns.length ≤ limit) :
    Matches base limit ((⟨inner, d⟩ : Search).fill fuel patterns inside)
      ((⟨t, d⟩ : Search).fill fuel patterns outside) := by
  induction fuel generalizing idle inside outside patterns with
  | zero => exact .nil
  | succ fuel ih =>
    cases patterns with
    | nil => exact .nil
    | cons pattern rest =>
      rw [List.length_cons] at hidle
      have hhere : Beside base limit inside outside := h.mono (by omega)
      obtain ⟨hpattern, hrest⟩ := List.forall_mem_cons.1 hpatterns
      have hadvance {next next' : Path} (hnext : Beside base (idle + 2) next next') :
          Matches base limit
            (if rest.isEmpty then (⟨inner, d⟩ : Search).accept next
              else (⟨inner, d⟩ : Search).fill fuel rest next)
            (if rest.isEmpty then (⟨t, d⟩ : Search).accept next'
              else (⟨t, d⟩ : Search).fill fuel rest next') := by
        split
        · exact accept_hosted hinner hhosts hroom hbase (hnext.mono (by omega))
        · exact ih hnext hrest (by omega)
      unfold fill
      cases hliteral : pattern.literal? with
      | some literal =>
        have hchild := literalChild_hosted (d := d) hinner hhosts hroom hbase h (by omega)
          (hpattern.noSlash _ hliteral) (hpattern.ne_parent hliteral)
        simp only
        generalize (⟨inner, d⟩ : Search).literalChild inside literal = x at hchild
        generalize (⟨t, d⟩ : Search).literalChild outside literal = y at hchild
        cases hchild with
        | none => exact .nil
        | some hnext => exact hadvance hnext
      | none =>
        simp only [isDirectory_hosted hinner hhosts hroom hbase hhere,
          names_hosted hinner hhosts hroom hbase hhere]
        split
        · exact .nil
        · have hdots : List.Forall₂ (fun a b ↦ a = b ∧ a = ".") (dotChildren pattern)
              (dotChildren pattern) :=
            List.forall₂_same.2 fun name hname ↦ ⟨rfl, eq_current_of_mem hpattern hname⟩
          have hnames : List.Forall₂ (fun a b ↦ a = b ∧ IsName a)
              ((⟨inner, d⟩ : Search).names inside) ((⟨inner, d⟩ : Search).names inside) :=
            List.forall₂_same.2 fun name hname ↦ ⟨rfl, isName_of_mem_names hinner hname⟩
          -- a `.` adds bytes that name nothing, but it also uses up a component; names add none
          refine List.rel_append (List.rel_flatMap hdots ?_) (List.rel_flatMap hnames ?_)
          · rintro _ _ ⟨rfl, rfl⟩
            exact hadvance (h.join_of_ne_parent hbase.place (by decide) (by decide))
          · rintro name _ ⟨rfl, hname⟩
            dsimp only
            rw [childPath_of_rooted h.rooted, childPath_of_rooted h.startsAtRoot_outside]
            refine visit_hosted hinner hhosts hroom hbase (fun patterns hpatterns hidle ↦
              ih (h.join_name hbase.place hname) hpatterns hidle)
              (h.join_name hbase.place hname) ?_ hpatterns (by rw [List.length_cons]; omega)
            rw [Path.fileName?_join_name h.rooted hname,
              Path.fileName?_join_name h.startsAtRoot_outside hname]

end Hosted

end Search

/-- **A pattern finds the same paths** below the directory, wherever it is. -/
theorem pathsBelow_hosted {room limit : Nat} (hinner : inner.Contained)
    (hhosts : t.Hosts base inner) (hroom : inner.Room room)
    (hbase : t.Reachable base (room + 1 + limit)) (hdown : GoesDown text)
    (hlimit : 2 * (componentTexts text).length ≤ limit) :
    Option.Rel (Search.Matches base limit) (pathsBelow inner (pathOf []) text).toOption
      (pathsBelow t (pathOf base) text).toOption := by
  rw [pathsBelow, pathsBelow]
  cases Pattern.parse text with
  | error => exact .none
  | ok =>
    cases hpatterns : (componentTexts text).mapM Pattern.parse with
    | error => exact .none
    | ok patterns =>
      have hgoesDown : ∀ q ∈ patterns, q.GoesDown := by
        intro q hq
        obtain ⟨component, hcomponent, hparse⟩ := exists_of_mem_mapM hpatterns hq
        have hslash : '/' ∉ component.toList := noSlash_of_mem_componentTexts hcomponent
        exact ⟨hdown component hcomponent q hparse,
          fun literal hliteral ↦ Pattern.noSlash_of_literal? hparse hslash hliteral⟩
      have hlength : 0 + 2 * patterns.length ≤ limit := by
        rw [length_of_mapM hpatterns, Nat.zero_add]
        exact hlimit
      exact .some (Search.fill_hosted hinner hhosts hroom hbase _ (Beside.root base) hgoesDown
        hlength)

end ContestJudge.Glob
