import ContestJudge.Proofs.Sandbox.Links

/-!
# Which links are kept

Names that are written in different ways may be names of one place, and that place keeps only the
link that was placed last. A name that goes through another link is the name of a place elsewhere.
In a new directory a link is missing from its place for no other reason (`Apart`). Wherever a link
was led to, its name leads there for as long as no later link takes the place of one that it needs.

* `findLink_of_foldlM` — the name of a link leads to it once it is placed, and for as long as the
  links stay. Placing links changes nothing that was there but links (`get?_of_foldlM`), and a walk
  to an entry depends on nothing else than directories and links on its way.
* `apart_of_lies` — links that lie where they should leave each other alone, since a place has one
  entry, and nothing lies below a link.
* `placeLinks_keeps` — with `Laid` for the other direction, all links are kept exactly if they leave
  each other alone.
* `placeLinks_loses` — two names of one place, of which one is lost.
-/

namespace ContestJudge.FileTree

variable {t t' : FileTree} {directory found p : Place} {links done rest : List (String × Path)}
  {link a b : String × Path}

/-- A link lies where its names say. -/
def Lies (directory : Place) (t : FileTree) (link : String × Path) : Prop :=
  t.get? (directory ++ linkNames link) = some (.link link.2.text)

/-- The second of two links leaves the first alone: it does not go through it, and where it has the
same place it is the same link. -/
def Apart (a b : String × Path) : Prop :=
  ¬Through a b ∧ (linkNames a = linkNames b → a.2.text = b.2.text)

/-! ### One link among others -/

/-- Each link is placed between those before it and those after it. -/
theorem exists_placeLink
    (h : (done ++ link :: rest).foldlM (placeLink (pathOf directory)) t = .ok t') :
    ∃ before after, done.foldlM (placeLink (pathOf directory)) t = .ok before ∧
      before.placeLink (pathOf directory) link = .ok after ∧
      rest.foldlM (placeLink (pathOf directory)) after = .ok t' := by
  rw [List.foldlM_append] at h
  obtain ⟨before, hdone, hrest⟩ := bind_eq_ok_iff.1 h
  rw [List.foldlM_cons] at hrest
  obtain ⟨after, hlink, hrest⟩ := bind_eq_ok_iff.1 hrest
  exact ⟨before, after, hdone, hlink, hrest⟩

theorem isPlace_of_placeLink (hplace : IsPlace directory)
    (h : t.placeLink (pathOf directory) link = .ok t') :
    linkNames link ≠ [] ∧ IsPlace (directory ++ linkNames link) := by
  obtain ⟨path, hjoin, -⟩ := bind_eq_ok_iff.1 h
  obtain ⟨hne, hnames, -⟩ := joinWithin_pathOf hplace hjoin
  exact ⟨hne, hplace.append hnames⟩

theorem linkNames_ne_nil (hplace : IsPlace directory)
    (hrun : links.foldlM (placeLink (pathOf directory)) t = .ok t') (hlink : link ∈ links) :
    linkNames link ≠ [] := by
  obtain ⟨done, rest, rfl⟩ := List.append_of_mem hlink
  obtain ⟨before, after, -, hplaced, -⟩ := exists_placeLink hrun
  exact (isPlace_of_placeLink hplace hplaced).1

/-- Placing links changes nothing that is there but links. -/
theorem get?_of_foldlM (hplace : IsPlace directory) (h : Kept directory t)
    (hrun : links.foldlM (placeLink (pathOf directory)) t = .ok t') {entry : Entry}
    (hp : t.get? p = some entry) (hlink : ∀ target, entry ≠ .link target) :
    t'.get? p = some entry := by
  refine (foldlM_invariant (I := fun _ s ↦ Kept directory s ∧ s.get? p = some entry)
    (fun {link _ before after} hbefore hplaced ↦ ?_) ⟨h, hp⟩ hrun).2
  obtain ⟨hkept, hp⟩ := hbefore
  obtain ⟨found, made, name, hlanded⟩ :=
    landed_of_placeLink hkept.closed hplace hkept.stays hplaced
  exact ⟨hkept.step hplace hplaced, (hlanded.unchanged_of_ne_link hp hlink).trans hp⟩

/-- **The name of a link leads to it** once it is placed, and for as long as the links stay. -/
theorem findLink_of_foldlM (hplace : IsPlace directory) (h : Kept directory t)
    (hrun : (done ++ link :: rest).foldlM (placeLink (pathOf directory)) t = .ok t') :
    ∃ after found, (done ++ [link]).foldlM (placeLink (pathOf directory)) t = .ok after ∧
      after.findLink (pathOf (directory ++ linkNames link)) = .ok (found, .link link.2.text) ∧
      ((∀ p target, after.get? p = some (.link target) → t'.get? p = some (.link target)) →
        t'.findLink (pathOf (directory ++ linkNames link)) = .ok (found, .link link.2.text)) := by
  obtain ⟨before, after, hdone, hlink, hrest⟩ := exists_placeLink hrun
  have hbefore : Kept directory before := kept_of_foldlM hplace h hdone
  obtain ⟨found, made, name, -, hfind⟩ :=
    exists_landed hbefore.closed hplace hbefore.stays hlink
  refine ⟨after, found ++ made ++ [name], ?_, hfind, fun hlinks ↦ ?_⟩
  · rw [List.foldlM_append]
    refine bind_eq_ok_iff.2 ⟨before, hdone, ?_⟩
    rw [List.foldlM_cons]
    exact bind_eq_ok_iff.2 ⟨after, hlink, rfl⟩
  · -- The links stay by assumption, and the later ones change nothing else that is there.
    refine findLink_mono (isPlace_of_placeLink hplace hlink).2 (fun p hp ↦ ?_) hfind
    obtain ⟨entry, hentry⟩ := Option.ne_none_iff_exists'.1 hp
    rw [hentry]
    by_cases hway : ∃ target, entry = .link target
    · obtain ⟨target, rfl⟩ := hway
      exact hlinks p target hentry
    · exact get?_of_foldlM hplace (hbefore.step hplace hlink) hrest hentry (not_exists.1 hway)

/-! ### All links -/

/-- The place of a link has the last link of that place. -/
theorem exists_last (hlink : link ∈ links) :
    ∃ last, links.reverse.find? (fun other ↦ linkNames other = linkNames link) = some last ∧
      laid links (linkNames link) = some (.link last.2.text) := by
  have hsome : (links.reverse.find? fun other ↦ linkNames other = linkNames link).isSome = true :=
    List.find?_isSome.2 ⟨link, List.mem_reverse.2 hlink, decide_eq_true rfl⟩
  obtain ⟨last, hlast⟩ := Option.isSome_iff_exists.1 hsome
  refine ⟨last, hlast, ?_⟩
  rw [laid, hlast]

/-- Links that lie where they should leave each other alone. -/
theorem apart_of_lies (ht : t.Closed) (ha : Lies directory t a) (hb : Lies directory t b) :
    Apart a b := by
  refine ⟨?_, fun hsame ↦ ?_⟩
  · rintro ⟨⟨more, hmore⟩, hne⟩
    have hnil : more ≠ [] := by
      rintro rfl
      exact hne (hmore ▸ (List.append_nil _).symm)
    have hnot : t.get? (directory ++ linkNames a) ≠ some .directory := by
      rw [ha]
      exact nofun
    -- Nothing lies below a link.
    have hbelow := ht.get?_append_eq_none hnot hnil
    rw [List.append_assoc, hmore] at hbelow
    exact nomatch hbelow.symm.trans hb
  · have hone : t.get? (directory ++ linkNames a) = some (.link b.2.text) := by
      rw [hsame]
      exact hb
    exact Entry.link.inj (Option.some.inj (ha.symm.trans hone))

/-- **Which links are kept** when all of them are placed in a new directory. All of them lie where
their names say exactly if none goes through another and those of one place are the same link. While
none goes through an earlier one, a link lies there exactly if the last one of its place is the
same. And in any case the name of a link leads to it once it is placed, and still does at the end
unless a later one has taken the place of a link. -/
theorem placeLinks_keeps {links : NameMap Path} (hplace : IsPlace directory) (ht : t.Closed)
    (hdirectory : t.get? directory = some .directory)
    (hempty : ∀ name, t.get? (directory ++ [name]) = none)
    (h : t.placeLinks (pathOf directory) links = .ok t') :
    ((∀ link ∈ links.toList, Lies directory t' link) ↔
      ∀ a ∈ links.toList, ∀ b ∈ links.toList, Apart a b) ∧
    (links.toList.Pairwise (fun earlier link ↦ ¬Through earlier link) →
      ∀ link ∈ links.toList, ∃ last,
        links.toList.reverse.find? (fun other ↦ linkNames other = linkNames link) = some last ∧
        (Lies directory t' link ↔ last.2.text = link.2.text)) ∧
    ∀ done link rest, links.toList = done ++ link :: rest →
      ∃ after found, (done ++ [link]).foldlM (placeLink (pathOf directory)) t = .ok after ∧
        after.findLink (pathOf (directory ++ linkNames link)) = .ok (found, .link link.2.text) ∧
        ((∀ p target, after.get? p = some (.link target) → t'.get? p = some (.link target)) →
          t'.findLink (pathOf (directory ++ linkNames link)) = .ok (found, .link link.2.text)) := by
  have hkept : Kept directory t := ⟨ht, hdirectory⟩
  have hlast (hthrough : links.toList.Pairwise fun earlier link ↦ ¬Through earlier link) :
      ∀ link ∈ links.toList, ∃ last,
        links.toList.reverse.find? (fun other ↦ linkNames other = linkNames link) = some last ∧
        (Lies directory t' link ↔ last.2.text = link.2.text) := by
    intro link hlink
    obtain ⟨last, hfind, hlaid⟩ := exists_last hlink
    have hget : t'.get? (directory ++ linkNames link) = some (.link last.2.text) :=
      ((laid_of_foldlM hplace hkept hempty hthrough h).inside _
        (linkNames_ne_nil hplace h hlink)).trans hlaid
    refine ⟨last, hfind, ?_⟩
    rw [Lies, hget, Option.some_inj, Entry.link.injEq]
  refine ⟨⟨fun hlies a ha b hb ↦ ?_, fun hapart link hlink ↦ ?_⟩, hlast,
    fun done link rest hsplit ↦ ?_⟩
  · exact apart_of_lies (kept_of_foldlM hplace hkept h).closed (hlies a ha) (hlies b hb)
  · have hthrough : links.toList.Pairwise fun earlier link ↦ ¬Through earlier link :=
      List.pairwise_of_forall_mem_list fun a ha b hb ↦ (hapart a ha b hb).1
    obtain ⟨last, hfind, hlies⟩ := hlast hthrough link hlink
    have hmem : last ∈ links.toList := List.mem_reverse.1 (List.mem_of_find?_eq_some hfind)
    have hnames : linkNames last = linkNames link :=
      of_decide_eq_true (List.find?_eq_some_iff_append.1 hfind).1
    exact hlies.2 ((hapart last hmem link hlink).2 hnames)
  · rw [placeLinks, hsplit] at h
    exact findLink_of_foldlM hplace hkept h

/-- Links whose names are written in different ways but mean one place. -/
def linksTwice : NameMap Path := ⟨[("./a", ⟨"x"⟩), ("a", ⟨"y"⟩)], by decide⟩

theorem placeLinks_keeps_apart :
    ∃ t', freshTree.placeLinks (pathOf ["w"]) linksApart = .ok t' ∧
      ∀ link ∈ linksApart.toList, Lies ["w"] t' link := by
  have hplace : IsPlace ["w"] := List.forall_mem_singleton.2 (by decide)
  obtain ⟨t', h⟩ : ∃ t', freshTree.placeLinks (pathOf ["w"]) linksApart = .ok t' :=
    toBool_eq_true_iff.1 (by
      delta placeLinks placeLink symlinkWithParents symlink createLink
      simp only [String.contains_char_eq]
      decide +kernel)
  have hkeeps := placeLinks_keeps hplace (closed_of_entries (by decide)) rfl (fun _ ↦ rfl) h
  refine ⟨t', h, hkeeps.1.2 ?_⟩
  unfold Apart Through
  decide +kernel

/-- **A link is lost** to a later one whose name means the same place. -/
theorem placeLinks_loses :
    ("./a", ⟨"x"⟩) ∈ linksTwice.toList ∧ linkNames ("./a", ⟨"x"⟩) = ["a"] ∧
      (freshTree.placeLinks (pathOf ["w"]) linksTwice).map (·.get? (["w"] ++ ["a"])) =
        .ok (some (.link "y")) := by
  refine ⟨List.mem_cons_self, by decide +kernel, ?_⟩
  delta placeLinks placeLink symlinkWithParents symlink createLink
  simp only [String.contains_char_eq]
  decide +kernel

end ContestJudge.FileTree
