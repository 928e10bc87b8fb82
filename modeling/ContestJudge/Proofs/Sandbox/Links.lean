import ContestJudge.Proofs.FileTree.Making

/-!
# Where links land

The name of a link is checked as it is written, but looked up among the links that were placed
before it. So a link lands below whatever directory the first part of its name leads to (`Landed`),
which need not lie inside the directory of the launch: an earlier link may lead out of it. As long
as no name goes through an earlier link, the links lie where their names say and nothing else is
touched (`Laid`).

* `landed_of_placeLink` — one link. The directories above it are made first (`makeParents_pathOf`),
  which goes from where its name leads already straight down, and then the link itself
  (`symlink_pathOf`).
* `Laid.step` — one more link that goes through no earlier one is laid as its names say. Where a
  name leads without passing a link is the place of its names (`Landed.exists_way`).
* `placeLinks_lands` — all links, in a new directory: for each of them where it landed, and for all
  together where they lie if none goes through an earlier one.
* `placeLinks_lands_outside` — two links of which the second lands outside.

That a link lies inside exactly if the directory does that it was led to (`Landed.below_iff`) is
what makes the difference exact. Nothing needs to be known of where an outer directory is, and
nothing outside changes but the one place (`Landed.unchanged_outside`).

Names are compared by what is left of them (`linkNames`), since `./a` and `a` are one name here.
-/

namespace ContestJudge.FileTree

variable {t t' : FileTree} {directory found p : Place} {made : List String} {name : String}
  {link : String × Path}

/-! ### One link -/

/-- The names of a link, from the directory down. -/
def linkNames (link : String × Path) : List String := Path.names ⟨link.1⟩

/-- Whether a place lies inside a directory. -/
def Below (directory p : Place) : Prop := ∃ names, names ≠ [] ∧ p = directory ++ names

/-- **A link has landed**: the first of its names lead to a directory, by way of whatever links
there are, the next ones are those of new directories below it, and the last is its own. -/
structure Landed (directory : Place) (t : FileTree) (link : String × Path) (found : Place)
    (made : List String) (name : String) (t' : FileTree) : Prop where
  plain : ∀ name ∈ linkNames link, Path.IsName name
  led : ∃ way, linkNames link = way ++ made ++ [name] ∧
    t.find (pathOf (directory ++ way)) = .ok (found, .directory)
  /-- There was nothing where directories are made. -/
  free : ∀ part, part ≠ [] → part <+: made → t.get? (found ++ part) = none
  /-- Only a link is replaced. -/
  replaced : ∀ entry, t.get? (found ++ made ++ [name]) = some entry → ∃ old, entry = .link old
  opened : ∀ part, part ≠ [] → part <+: made → t'.get? (found ++ part) = some .directory
  placed : t'.get? (found ++ made ++ [name]) = some (.link link.2.text)
  unchanged : ∀ p, (∀ part, part ≠ [] → part <+: made ++ [name] → p ≠ found ++ part) →
    t'.get? p = t.get? p

theorem joinWithin_pathOf {child path : Path} (hplace : IsPlace directory)
    (h : joinWithin (pathOf directory) child = .ok path) :
    child.names ≠ [] ∧ (∀ name ∈ child.names, Path.IsName name) ∧
      path = pathOf (directory ++ child.names) := by
  unfold joinWithin at h
  split at h
  next inside hinside =>
    obtain rfl := Except.ok.inj h
    obtain ⟨hne, hnames, hpath⟩ := Path.names_of_within? hinside
    exact ⟨hne, hnames, hpath.trans (join_pathOf hplace hnames hne)⟩
  · exact nomatch h

/-- The way that is made for a link begins inside the directory. -/
theorem MadeWay.exists_way {above : Place} {names : List String} (ht : t.Closed)
    (hplace : IsPlace directory) (hdirectory : t.get? directory = some .directory)
    (h : MadeWay t (directory ++ names) above found made t') :
    ∃ way, above = directory ++ way ∧ names = way ++ made := by
  rcases List.append_eq_append_iff.1 h.names.symm with ⟨rest, hrest, hmade⟩ | ⟨way, habove, hnames⟩
  · by_cases hne : rest = []
    · subst hne
      exact ⟨[], by simpa using hrest.symm, hmade.symm⟩
    · -- Otherwise some of the way to the directory would be missing, but the directory is there.
      have hpre : above <+: directory := ⟨rest, hrest.symm⟩
      have habove : IsPlace above := (hrest ▸ hplace : IsPlace (above ++ rest)).of_append
      have hfound : found = above := eq_of_find habove
        (fun part hpart ↦ get?_ne_link ht hdirectory (hpart.trans hpre)) h.start
      have hfree := h.opened.absent rest hne ⟨names, hmade.symm⟩
      rw [hfound, ← hrest] at hfree
      exact nomatch hfree.symm.trans hdirectory
  · exact ⟨way, habove, hnames⟩

/-- A link lands where the part of its name that is there already leads, and it is found by its
name. -/
theorem exists_landed (ht : t.Closed) (hplace : IsPlace directory)
    (hdirectory : t.get? directory = some .directory)
    (h : t.placeLink (pathOf directory) link = .ok t') :
    ∃ found made name, Landed directory t link found made name t' ∧
      t'.findLink (pathOf (directory ++ linkNames link)) =
        .ok (found ++ made ++ [name], .link link.2.text) := by
  obtain ⟨path, hjoin, hlink⟩ := bind_eq_ok_iff.1 h
  obtain ⟨hne, hnames, rfl⟩ := joinWithin_pathOf hplace hjoin
  obtain ⟨above, name, hsplit⟩ := (List.eq_nil_or_concat' (linkNames link)).resolve_left hne
  have hfull : IsPlace (directory ++ above ++ [name]) := by
    rw [List.append_assoc, ← hsplit]
    exact hplace.append hnames
  have hpath : pathOf (directory ++ linkNames link) = pathOf (directory ++ above ++ [name]) := by
    rw [hsplit, List.append_assoc]
  rw [show Path.names ⟨link.1⟩ = linkNames link from rfl, hpath] at hlink
  obtain ⟨between, hparents, hlink⟩ := bind_eq_ok_iff.1 hlink
  obtain ⟨start, found, made, hway⟩ := makeParents_pathOf ht hfull hparents
  obtain ⟨way, rfl, hmade⟩ := hway.exists_way ht hplace hdirectory
  have hstart : t.get? found = some .directory :=
    get?_of_find ht (hway.names ▸ hfull.of_append).of_append hway.start
  obtain ⟨last, hfind, hreplaced, hlookup, hnew⟩ :=
    symlink_pathOf (hway.opened.closed ht hstart) hfull hlink
  obtain rfl : found ++ made = last := eq_of_find_eq hway.finish hfind
  refine ⟨found, made, name, ?_, hpath ▸ hnew⟩
  constructor
  · exact hnames
  · exact ⟨way, by rw [hsplit, hmade], hway.start⟩
  · exact hway.opened.absent
  · rw [← hway.opened.get?_snoc]
    exact hreplaced
  · intro part hne hpre
    rw [hlookup, if_neg (Made.append_ne_snoc hpre), hway.opened.directory part hne hpre]
  · rw [hlookup, if_pos rfl]
  · intro p hp
    have hlast : p ≠ found ++ made ++ [name] :=
      List.append_assoc found made [name] ▸
        hp (made ++ [name]) (List.concat_ne_nil _ _) List.prefix_rfl
    rw [hlookup, if_neg hlast]
    exact hway.opened.unchanged p fun part hne hpre ↦
      hp part hne (hpre.trans (List.prefix_append _ _))

/-- **Each link lands** where the part of its name that is there already leads. -/
theorem landed_of_placeLink (ht : t.Closed) (hplace : IsPlace directory)
    (hdirectory : t.get? directory = some .directory)
    (h : t.placeLink (pathOf directory) link = .ok t') :
    ∃ found made name, Landed directory t link found made name t' := by
  obtain ⟨found, made, name, hlanded, -⟩ := exists_landed ht hplace hdirectory h
  exact ⟨found, made, name, hlanded⟩

namespace Landed

/-- A place that changes is free or that of a link. -/
theorem unchanged_of_ne_link (h : Landed directory t link found made name t') {entry : Entry}
    (hp : t.get? p = some entry) (hlink : ∀ target, entry ≠ .link target) :
    t'.get? p = t.get? p := by
  refine h.unchanged p fun part hne hpre heq ↦ ?_
  subst heq
  rcases List.prefix_concat_iff.1 hpre with rfl | hpre
  · rw [← List.append_assoc] at hp
    obtain ⟨old, hold⟩ := h.replaced _ hp
    exact hlink old hold
  · exact nomatch (h.free part hne hpre).symm.trans hp

theorem unchanged_of_directory (h : Landed directory t link found made name t')
    (hp : t.get? p = some .directory) : t'.get? p = t.get? p :=
  h.unchanged_of_ne_link hp nofun

theorem isPlace (h : Landed directory t link found made name t') (hplace : IsPlace directory)
    {way : List String} (hnames : linkNames link = way ++ made ++ [name]) :
    IsPlace (directory ++ way) :=
  hplace.append fun name hname ↦
    h.plain name (hnames ▸ List.mem_append_left _ (List.mem_append_left _ hname))

theorem get?_found (h : Landed directory t link found made name t') (ht : t.Closed)
    (hplace : IsPlace directory) : t.get? found = some .directory := by
  obtain ⟨way, hnames, hfind⟩ := h.led
  exact get?_of_find ht (h.isPlace hplace hnames) hfind

theorem closed (h : Landed directory t link found made name t') (ht : t.Closed)
    (hplace : IsPlace directory) : t'.Closed := by
  have hfound := h.get?_found ht hplace
  refine ht.of_changed (fun part last hpre ↦ ?_)
    (fun p hp ↦ (h.unchanged_of_directory hp).trans hp) h.unchanged
  have hpart : part <+: made := by
    rcases List.prefix_concat_iff.1 hpre with heq | hpre
    · exact List.append_inj_left' heq rfl ▸ List.prefix_rfl
    · exact (List.prefix_append _ _).trans hpre
  by_cases hnil : part = []
  · subst hnil
    rw [List.append_nil, h.unchanged_of_directory hfound, hfound]
  · exact h.opened part hnil hpart

/-- A link lies inside exactly if the directory that it was led to does. -/
theorem below_iff (h : Landed directory t link found made name t')
    (hdirectory : t.get? directory = some .directory) :
    Below directory (found ++ made ++ [name]) ↔ directory <+: found := by
  constructor
  · rintro ⟨names, hne, heq⟩
    obtain ⟨before, last, rfl⟩ := (List.eq_nil_or_concat' names).resolve_left hne
    rw [← List.append_assoc] at heq
    have hsplit : found ++ made = directory ++ before := List.append_inj_left' heq rfl
    rcases List.append_eq_append_iff.1 hsplit with ⟨rest, hrest, hmade⟩ | ⟨rest, hrest, -⟩
    · by_cases hnil : rest = []
      · subst hnil
        exact ⟨[], by rw [hrest, List.append_nil, List.append_nil]⟩
      · -- The directory is no new one.
        have hfree := h.free rest hnil ⟨before, hmade.symm⟩
        rw [← hrest] at hfree
        exact nomatch hfree.symm.trans hdirectory
    · exact ⟨rest, hrest.symm⟩
  · rintro ⟨below, rfl⟩
    exact ⟨below ++ made ++ [name], List.concat_ne_nil _ _, by simp only [List.append_assoc]⟩

/-- A link that leads inside changes nothing outside. -/
theorem unchanged_outside (h : Landed directory t link found made name t')
    (hinside : directory <+: found) (hp : ¬Below directory p) : t'.get? p = t.get? p := by
  refine h.unchanged p fun part hne _ heq ↦ hp ?_
  obtain ⟨below, rfl⟩ := hinside
  rw [List.append_assoc] at heq
  exact ⟨below ++ part, List.append_ne_nil_of_right_ne_nil _ hne, heq⟩

end Landed

/-! ### All links -/

/-- What links put at a place, given by the names from the directory down: the last link of these
names, or a directory if it is on the way to some link. -/
def laid (links : List (String × Path)) (names : List String) : Option Entry :=
  match links.reverse.find? fun link ↦ linkNames link = names with
  | some link => some (.link link.2.text)
  | none => if links.any fun link ↦ names.isPrefixOf (linkNames link) then some .directory else none

/-- Whether a link goes through the place of an earlier one. -/
def Through (earlier link : String × Path) : Prop :=
  linkNames earlier <+: linkNames link ∧ linkNames earlier ≠ linkNames link

section laid

variable {links : List (String × Path)} {names : List String}

theorem laid_concat_self : laid (links ++ [link]) (linkNames link) = some (.link link.2.text) := by
  simp only [laid, List.reverse_append, List.reverse_singleton, List.singleton_append,
    List.find?_cons, decide_true]

theorem laid_concat_of_ne (hne : linkNames link ≠ names) :
    laid (links ++ [link]) names = (laid links names).or
      (if names.isPrefixOf (linkNames link) then some .directory else none) := by
  simp only [laid, List.reverse_append, List.reverse_singleton, List.singleton_append,
    List.find?_cons, hne, decide_false, List.any_append, List.any_cons, List.any_nil, Bool.or_false,
    Bool.or_eq_true]
  cases links.reverse.find? fun link ↦ linkNames link = names with
  | some earlier => rfl
  | none =>
    by_cases hany : (links.any fun link ↦ names.isPrefixOf (linkNames link)) = true
    · simp only [hany, true_or, if_true, Option.some_or]
    · simp only [hany, Bool.false_eq_true, false_or, if_false, Option.none_or]

theorem exists_of_laid_eq_link {target : String} (h : laid links names = some (.link target)) :
    ∃ link ∈ links, linkNames link = names := by
  unfold laid at h
  split at h
  next link hfind =>
    exact ⟨link, List.mem_reverse.1 (List.mem_of_find?_eq_some hfind),
      by simpa using List.find?_some hfind⟩
  · split at h
    · exact nomatch h
    · exact nomatch h

end laid

/-- **Links lie as their names say**, and nothing else is touched. -/
structure Laid (directory : Place) (t : FileTree) (links : List (String × Path)) (t' : FileTree) :
    Prop where
  outside : ∀ p, ¬Below directory p → t'.get? p = t.get? p
  inside : ∀ names, names ≠ [] → t'.get? (directory ++ names) = laid links names

/-- What a run of placing links keeps: the directory is there, in a tree whose entries lie in
directories. -/
structure Kept (directory : Place) (t : FileTree) : Prop where
  closed : t.Closed
  stays : t.get? directory = some .directory

theorem Kept.step (hplace : IsPlace directory) (h : Kept directory t)
    (hlink : t.placeLink (pathOf directory) link = .ok t') : Kept directory t' := by
  obtain ⟨found, made, name, hlanded⟩ := landed_of_placeLink h.closed hplace h.stays hlink
  exact ⟨hlanded.closed h.closed hplace, (hlanded.unchanged_of_directory h.stays).trans h.stays⟩

/-- A link inside is one that was placed. -/
theorem Laid.exists_of_get?_eq_link {before : FileTree} {links : List (String × Path)}
    {names : List String} {target : String} (h : Laid directory t links before) (hne : names ≠ [])
    (hlink : before.get? (directory ++ names) = some (.link target)) :
    ∃ earlier ∈ links, linkNames earlier = names :=
  exists_of_laid_eq_link ((h.inside names hne).symm.trans hlink)

/-- A link that goes through no earlier one is led to where its names say. -/
theorem Landed.exists_way {before : FileTree} {links : List (String × Path)}
    (h : Landed directory before link found made name t') (hbefore : Kept directory before)
    (hplace : IsPlace directory) (hlaid : Laid directory t links before)
    (hthrough : ∀ earlier ∈ links, ¬Through earlier link) :
    ∃ way, found = directory ++ way ∧ linkNames link = way ++ made ++ [name] := by
  obtain ⟨way, hnames, hfind⟩ := h.led
  have hway : IsPlace (directory ++ way) := h.isPlace hplace hnames
  refine ⟨way, eq_of_find hway (fun part hpart target hlink ↦ ?_) hfind, hnames⟩
  obtain ⟨rest, hrest⟩ := hpart
  rcases List.append_eq_append_iff.1 hrest with ⟨below, hbelow, -⟩ | ⟨names, hpart, hsplit⟩
  · exact get?_ne_link hbefore.closed hbefore.stays ⟨below, hbelow.symm⟩ target hlink
  · subst hpart
    by_cases hne : names = []
    · subst hne
      rw [List.append_nil, hbefore.stays] at hlink
      exact nomatch hlink
    · obtain ⟨earlier, hmem, hearlier⟩ := hlaid.exists_of_get?_eq_link hne hlink
      refine hthrough earlier hmem ⟨?_, fun heq ↦ ?_⟩
      · rw [hearlier, hnames, hsplit, List.append_assoc, List.append_assoc]
        exact List.prefix_append _ _
      · rw [heq, hnames, hsplit] at hearlier
        have hlength := congrArg List.length hearlier
        simp only [List.length_append, List.length_singleton] at hlength
        omega

/-- **One more link** that goes through no earlier one is laid as its names say. -/
theorem Laid.step {before : FileTree} {links : List (String × Path)}
    (hlaid : Laid directory t links before) (hbefore : Kept directory before)
    (hplace : IsPlace directory) (hthrough : ∀ earlier ∈ links, ¬Through earlier link)
    (hlink : before.placeLink (pathOf directory) link = .ok t') :
    Laid directory t (links ++ [link]) t' := by
  obtain ⟨found, made, name, hlanded⟩ :=
    landed_of_placeLink hbefore.closed hplace hbefore.stays hlink
  obtain ⟨way, rfl, hnames⟩ := hlanded.exists_way hbefore hplace hlaid hthrough
  have hfound := hlanded.get?_found hbefore.closed hplace
  constructor
  · intro p hp
    rw [hlanded.unchanged_outside (List.prefix_append _ _) hp, hlaid.outside p hp]
  intro names hne
  by_cases hself : linkNames link = names
  · subst hself
    rw [laid_concat_self, ← hlanded.placed, hnames]
    simp only [List.append_assoc]
  rw [laid_concat_of_ne hself, ← hlaid.inside names hne]
  by_cases hnew : ∃ part, part ≠ [] ∧ part <+: made ∧ names = way ++ part
  · -- A new directory on the way to the link.
    obtain ⟨part, hpart, hpre, rfl⟩ := hnew
    have hthis : (way ++ part).isPrefixOf (linkNames link) = true := by
      rw [List.isPrefixOf_iff_prefix, hnames, List.append_assoc]
      exact (List.prefix_append_right_inj way).2 (hpre.trans (List.prefix_append _ _))
    rw [← List.append_assoc, hlanded.opened part hpart hpre, hlanded.free part hpart hpre,
      if_pos hthis]
    rfl
  · have hsame : t'.get? (directory ++ names) = before.get? (directory ++ names) := by
      refine hlanded.unchanged _ fun part hpart hpre heq ↦ ?_
      rw [List.append_assoc, List.append_cancel_left_eq] at heq
      rcases List.prefix_concat_iff.1 hpre with rfl | hpre
      · exact hself (by rw [hnames, heq, List.append_assoc])
      · exact hnew ⟨part, hpart, hpre, heq⟩
    rw [hsame]
    split
    next hpre =>
      -- A directory that was there before, as the link was led through it.
      rw [List.isPrefixOf_iff_prefix, hnames, List.prefix_concat_iff, ← hnames] at hpre
      obtain ⟨rest, hrest⟩ := hpre.resolve_left (Ne.symm hself)
      have hway : names <+: way := by
        rcases List.append_eq_append_iff.1 hrest with ⟨below, hbelow, -⟩ | ⟨part, hpart, hmade⟩
        · exact ⟨below, hbelow.symm⟩
        · by_cases hnil : part = []
          · exact ⟨[], by rw [hpart, hnil, List.append_nil, List.append_nil]⟩
          · exact absurd ⟨part, hnil, ⟨rest, hmade.symm⟩, hpart⟩ hnew
      have hthere := hbefore.closed.get?_of_prefix
        ((List.prefix_append_right_inj directory).2 hway) hfound
      rw [hthere]
      rfl
    · rw [Option.or_none]

theorem kept_of_foldlM {links : List (String × Path)} (hplace : IsPlace directory)
    (h : Kept directory t) (hrun : links.foldlM (placeLink (pathOf directory)) t = .ok t') :
    Kept directory t' :=
  foldlM_invariant (I := fun _ ↦ Kept directory) (fun hkept hlink ↦ hkept.step hplace hlink) h hrun

theorem Laid.nil (ht : t.Closed) (hempty : ∀ name, t.get? (directory ++ [name]) = none) :
    Laid directory t [] t where
  outside _ _ := rfl
  inside names hne := by
    obtain ⟨first, rest, rfl⟩ := List.exists_cons_of_ne_nil hne
    by_cases hrest : rest = []
    · subst hrest
      exact hempty first
    · have hfirst : t.get? (directory ++ [first]) ≠ some .directory := by
        rw [hempty first]
        exact nofun
      have hnone := ht.get?_append_eq_none hfirst hrest
      rwa [List.append_assoc] at hnone

theorem laid_of_foldlM {links : List (String × Path)} (hplace : IsPlace directory)
    (h : Kept directory t) (hempty : ∀ name, t.get? (directory ++ [name]) = none)
    (hthrough : links.Pairwise fun earlier link ↦ ¬Through earlier link)
    (hrun : links.foldlM (placeLink (pathOf directory)) t = .ok t') :
    Laid directory t links t' := by
  obtain ⟨done, hdone, -, hlaid⟩ := foldlM_invariant
    (I := fun rest s ↦ ∃ done, done ++ rest = links ∧ Kept directory s ∧ Laid directory t done s)
    (by
      rintro link rest before after ⟨done, hdone, hkept, hlaid⟩ hlink
      have hearlier : ∀ earlier ∈ done, ¬Through earlier link := fun earlier hmem ↦
        (List.pairwise_append.1 (hdone ▸ hthrough)).2.2 earlier hmem link List.mem_cons_self
      refine ⟨done ++ [link], ?_, hkept.step hplace hlink, hlaid.step hkept hplace hearlier hlink⟩
      rw [List.append_assoc, List.singleton_append, hdone])
    ⟨[], rfl, h, .nil h.closed hempty⟩ hrun
  rw [List.append_nil] at hdone
  exact hdone ▸ hlaid

/-- **Where links land** when all of them are placed in a new directory. Each one is led to a
directory by what lies there already, and it lies inside exactly if that directory does; it then
changes nothing outside. When no name goes through an earlier link, the links lie as their names
say. -/
theorem placeLinks_lands {links : NameMap Path} (hplace : IsPlace directory) (ht : t.Closed)
    (hdirectory : t.get? directory = some .directory)
    (hempty : ∀ name, t.get? (directory ++ [name]) = none)
    (h : t.placeLinks (pathOf directory) links = .ok t') :
    (∀ done link rest, links.toList = done ++ link :: rest →
      ∃ before after found made name,
        done.foldlM (placeLink (pathOf directory)) t = .ok before ∧
        before.placeLink (pathOf directory) link = .ok after ∧
        Landed directory before link found made name after ∧
        (Below directory (found ++ made ++ [name]) ↔ directory <+: found) ∧
        (directory <+: found → ∀ p, ¬Below directory p → after.get? p = before.get? p)) ∧
    (links.toList.Pairwise (fun earlier link ↦ ¬Through earlier link) →
      Laid directory t links.toList t') := by
  have hkept : Kept directory t := ⟨ht, hdirectory⟩
  refine ⟨fun done link rest hsplit ↦ ?_,
    fun hthrough ↦ laid_of_foldlM hplace hkept hempty hthrough h⟩
  rw [placeLinks, hsplit, List.foldlM_append] at h
  obtain ⟨before, hdone, hrest⟩ := bind_eq_ok_iff.1 h
  rw [List.foldlM_cons] at hrest
  obtain ⟨after, hlink, -⟩ := bind_eq_ok_iff.1 hrest
  have hbefore : Kept directory before := kept_of_foldlM hplace hkept hdone
  obtain ⟨found, made, name, hlanded⟩ :=
    landed_of_placeLink hbefore.closed hplace hbefore.stays hlink
  exact ⟨before, after, found, made, name, hdone, hlink, hlanded, hlanded.below_iff hbefore.stays,
    fun hinside p hp ↦ hlanded.unchanged_outside hinside hp⟩

/-- A tree with two empty directories, `/w` and `/tmp`. -/
def freshTree : FileTree where
  entries := [(["w"], .directory), (["tmp"], .directory)]
  current := []

/-- Links of which none goes through another. -/
def linksApart : NameMap Path := ⟨[("a", ⟨"/tmp"⟩), ("b/c", ⟨"x"⟩)], by decide⟩

/-- Links of which the second goes through the first, which leads out. -/
def linksOutward : NameMap Path := ⟨[("a", ⟨"/tmp"⟩), ("a/b", ⟨"x"⟩)], by decide⟩

theorem placeLinks_lands_apart :
    ∃ t', freshTree.placeLinks (pathOf ["w"]) linksApart = .ok t' ∧
      Laid ["w"] freshTree linksApart.toList t' ∧ t'.get? ["w", "b", "c"] = some (.link "x") := by
  have hplace : IsPlace ["w"] :=
    List.forall_mem_singleton.2 ⟨by decide, by decide, by decide, by decide⟩
  have hclosed : freshTree.Closed := closed_of_entries (by decide)
  obtain ⟨t', h⟩ : ∃ t', freshTree.placeLinks (pathOf ["w"]) linksApart = .ok t' :=
    toBool_eq_true_iff.1 (by
      delta placeLinks placeLink symlinkWithParents symlink createLink
      simp only [String.contains_char_eq]
      decide +kernel)
  have hapart : linksApart.toList.Pairwise fun earlier link ↦ ¬Through earlier link := by
    unfold Through
    decide +kernel
  have hlaid := (placeLinks_lands hplace hclosed rfl (fun _ ↦ rfl) h).2 hapart
  refine ⟨t', h, hlaid, (hlaid.inside ["b", "c"] (by decide)).trans ?_⟩
  decide +kernel

/-- **A link lands outside** when its name goes through a link that leads there. -/
theorem placeLinks_lands_outside :
    freshTree.get? ["w"] = some .directory ∧ (∀ name, freshTree.get? (["w"] ++ [name]) = none) ∧
      freshTree.get? ["tmp", "b"] = none ∧ ¬Below ["w"] ["tmp", "b"] ∧
      (freshTree.placeLinks (pathOf ["w"]) linksOutward).map (·.get? ["tmp", "b"]) =
        .ok (some (.link "x")) := by
  refine ⟨rfl, fun _ ↦ rfl, rfl, ?_, ?_⟩
  · rintro ⟨names, -, h⟩
    exact absurd (List.cons.inj h).1 (by decide)
  · delta placeLinks placeLink symlinkWithParents symlink createLink
    simp only [String.contains_char_eq]
    decide +kernel

end ContestJudge.FileTree
