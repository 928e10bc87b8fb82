import ContestJudge.FileTree.Resolve
import Mathlib.Data.List.Basic
import Mathlib.Data.List.Induction
import Mathlib.Tactic.Common

/-!
# Walks that succeed

`Walks` says what a walk that succeeds has done, one constructor for each kind of step, so that what
holds of resolving is shown by induction on it. That it says all of it is `walk_eq_ok_iff`, in both
directions; from there on nothing looks at how a walk is computed, with its count of links and the
walk of each link inside another one.

Where a link leads is only looked at along the way. The last name of a walk is looked up in the
directory that the walk before it ends in (`Walks.of_append`), and a walk that meets no link goes
down the names as they are written (`Walks.eq_append`).

## What a walk depends on

A walk to an entry depends on that entry, on directories and on links, and on nothing else: it
survives whatever leaves these alone (`Walks.mono_of_isWay`). So files may be written, replaced or
removed anywhere beside it.

## Closed trees

In a tree that a system could have, everything lies in a directory (`Closed`). A list of entries
need not be so, and operations keep it (`Closed.of_changed`). It is needed where one reasons from an
entry to what is above it: a directory has nothing but directories above it, and nothing lies below
anything else (`Closed.get?_of_prefix`, `Closed.get?_append_eq_none`).
-/

namespace ContestJudge.FileTree

section Closed

variable {t t' : FileTree} {place : Place}

/-! ### Trees whose entries lie in directories -/

/-- Everything lies in a directory. -/
def Closed (t : FileTree) : Prop :=
  ∀ place name, t.get? (place ++ [name]) ≠ none → t.get? place = some .directory

theorem mem_of_lookup_eq_some {entries : List (Place × Entry)} {entry : Entry}
    (h : entries.lookup place = some entry) : (place, entry) ∈ entries := by
  induction entries with
  | nil => exact nomatch h
  | cons first rest ih =>
    rw [List.lookup_cons] at h
    split at h
    next hfirst =>
      obtain rfl := eq_of_beq hfirst
      obtain rfl := Option.some.inj h
      exact List.mem_cons_self
    · exact List.mem_cons_of_mem _ (ih h)

/-- A tree is closed as soon as its entries lie in directories. -/
theorem closed_of_entries (h : ∀ e ∈ t.entries, t.get? e.1.dropLast = some .directory) :
    t.Closed := by
  intro place name hsome
  obtain ⟨entry, hentry⟩ := Option.ne_none_iff_exists'.1 hsome
  rw [get?, if_neg (List.concat_ne_nil _ _)] at hentry
  have hplace := h _ (mem_of_lookup_eq_some hentry)
  rwa [List.dropLast_concat] at hplace

theorem get?_nil (t : FileTree) : t.get? [] = some .directory := if_pos rfl

theorem Closed.get?_dropLast (h : t.Closed) (hplace : t.get? place = some .directory) :
    t.get? place.dropLast = some .directory := by
  rcases List.eq_nil_or_concat' place with rfl | ⟨above, name, rfl⟩
  · exact t.get?_nil
  · rw [List.dropLast_concat]
    exact h above name (hplace ▸ nofun)

/-- A tree stays closed when the places that change lie one below the other, and all but the last of
them are directories. -/
theorem Closed.of_changed (ht : t.Closed) {found : Place} {names : List String}
    (hdirectories : ∀ part last, part ++ [last] <+: names →
      t'.get? (found ++ part) = some .directory)
    (hstays : ∀ p, t.get? p = some .directory → t'.get? p = some .directory)
    (hunchanged : ∀ p, (∀ part, part ≠ [] → part <+: names → p ≠ found ++ part) →
      t'.get? p = t.get? p) : t'.Closed := by
  intro above name hsome
  by_cases hnew : ∃ part, part ≠ [] ∧ part <+: names ∧ above ++ [name] = found ++ part
  · obtain ⟨part, hne, hpre, heq⟩ := hnew
    obtain ⟨before, last, rfl⟩ := (List.eq_nil_or_concat' part).resolve_left hne
    rw [← List.append_assoc] at heq
    rw [List.append_inj_left' heq rfl]
    exact hdirectories before last hpre
  · have hold : t'.get? (above ++ [name]) = t.get? (above ++ [name]) :=
      hunchanged _ fun part hne hpre heq ↦ hnew ⟨part, hne, hpre, heq⟩
    exact hstays above (ht above name (hold ▸ hsome))

/-- Nothing lies below a place that is not a directory. -/
theorem Closed.get?_append_eq_none (h : t.Closed) (hplace : t.get? place ≠ some .directory)
    {names : List String} (hne : names ≠ []) : t.get? (place ++ names) = none := by
  induction names using List.reverseRecOn with
  | nil => exact absurd rfl hne
  | append_singleton above name ih =>
    by_contra hsome
    rw [← List.append_assoc] at hsome
    have habove : t.get? (place ++ above) = some .directory := h _ _ hsome
    by_cases hnil : above = []
    · subst hnil
      rw [List.append_nil] at habove
      exact hplace habove
    · exact nomatch (ih hnil).symm.trans habove

/-- What lies above a directory is a directory. -/
theorem Closed.get?_of_prefix (h : t.Closed) {above : Place} (hpre : above <+: place)
    (hplace : t.get? place = some .directory) : t.get? above = some .directory := by
  obtain ⟨names, rfl⟩ := hpre
  by_cases hne : names = []
  · subst hne
    rwa [List.append_nil] at hplace
  · by_contra habove
    exact nomatch (h.get?_append_eq_none habove hne).symm.trans hplace

end Closed

/-! ### What a walk has done -/

/-- An entry that a walk goes on from. -/
def IsWay : Entry → Prop
  | .directory => True
  | .link _ => True
  | _ => False

/-- **A walk that succeeds**, with the links it may follow, from a place along steps. -/
inductive Walks (t : FileTree) (followLast : Bool) : Nat → Place → List Step → Target → Prop
  | done {links place} : Walks t followLast links place [] (.existing place .directory)
  | stay {links place rest result} (next : Walks t followLast links place rest result) :
      Walks t followLast links place (.stay :: rest) result
  | slash {links place rest result} (next : Walks t followLast links place rest result) :
      Walks t followLast links place (.slash :: rest) result
  | up {links place rest result} (next : Walks t followLast links place.dropLast rest result) :
      Walks t followLast links place (.up :: rest) result
  /-- The last name is free. -/
  | missing {links place name} (short : name.utf8ByteSize ≤ nameLimit)
      (absent : t.get? (place ++ [name]) = none) :
      Walks t followLast links place [.into name] (.missing place name false)
  /-- The last name is free and has a slash after it. -/
  | missingSlash {links place name} (short : name.utf8ByteSize ≤ nameLimit)
      (absent : t.get? (place ++ [name]) = none) :
      Walks t followLast links place [.into name, .slash] (.missing place name true)
  | directory {links place name rest result} (short : name.utf8ByteSize ≤ nameLimit)
      (present : t.get? (place ++ [name]) = some .directory)
      (next : Walks t followLast links (place ++ [name]) rest result) :
      Walks t followLast links place (.into name :: rest) result
  /-- The last name is that of a link, which is not followed. -/
  | link {links place name target} (short : name.utf8ByteSize ≤ nameLimit)
      (present : t.get? (place ++ [name]) = some (.link target)) (last : followLast = false) :
      Walks t followLast links place [.into name] (.existing (place ++ [name]) (.link target))
  | follow {links place name target rest result} (short : name.utf8ByteSize ≤ nameLimit)
      (present : t.get? (place ++ [name]) = some (.link target))
      (followed : ¬(rest = [] ∧ !followLast))
      (next : Walks t followLast links (if startsAtRoot target then [] else place)
        (steps target ++ rest) result) :
      Walks t followLast (links + 1) place (.into name :: rest) result
  /-- The last name is that of an entry that leads nowhere. -/
  | entry {links place name entry} (short : name.utf8ByteSize ≤ nameLimit)
      (present : t.get? (place ++ [name]) = some entry) (ne_directory : entry ≠ .directory)
      (ne_link : ∀ target, entry ≠ .link target) :
      Walks t followLast links place [.into name] (.existing (place ++ [name]) entry)

variable {t t' : FileTree} {followLast : Bool} {links : Nat} {place found : Place} {name : String}
  {path rest : List Step} {entry : Entry} {result : Target}

/-- The walk of a link, when one more may be followed. -/
def followWith (t : FileTree) (followLast : Bool) : Nat → Place → List Step → Except IoFault Target
  | 0 => fun _ _ ↦ .error .tooManyLinks
  | links + 1 => t.walk followLast links

theorem walk_eq_walkOn (t : FileTree) (followLast : Bool) (links : Nat) :
    t.walk followLast links = t.walkOn followLast (t.followWith followLast links) := by
  cases links <;> rfl

/-- What a walk does up to the first link that it follows. -/
theorem walks_of_walkOn
    (hfollow : ∀ {links' place path result}, links = links' + 1 →
      t.walk followLast links' place path = .ok result →
        Walks t followLast links' place path result)
    (h : t.walkOn followLast (t.followWith followLast links) place path = .ok result) :
    Walks t followLast links place path result := by
  induction path generalizing place with
  | nil =>
    obtain rfl := Except.ok.inj h
    exact .done
  | cons step rest ih =>
    cases step with
    | stay => exact .stay (ih h)
    | slash => exact .slash (ih h)
    | up => exact .up (ih h)
    | into name =>
      rw [walkOn] at h
      split at h
      · exact nomatch h
      next hshort =>
        have hshort := Nat.not_lt.1 hshort
        split at h
        next habsent =>
          split at h
          next hrest =>
            subst hrest
            obtain rfl := Except.ok.inj h
            exact .missing hshort habsent
          · split at h
            next hrest =>
              subst hrest
              obtain rfl := Except.ok.inj h
              exact .missingSlash hshort habsent
            · exact nomatch h
        next hpresent => exact .directory hshort hpresent (ih h)
        next target hpresent =>
          split at h
          next hlast =>
            obtain ⟨rfl, hlast⟩ := hlast
            obtain rfl := Except.ok.inj h
            exact .link hshort hpresent (by simpa using hlast)
          next hfollowed =>
            cases links with
            | zero => exact nomatch h
            | succ links => exact .follow hshort hpresent hfollowed (hfollow rfl h)
        next entry hdirectory hlink hpresent =>
          split at h
          next hrest =>
            subst hrest
            obtain rfl := Except.ok.inj h
            exact .entry hshort hpresent hdirectory hlink
          · exact nomatch h

/-- `Walks` is what it takes for a walk to succeed. -/
theorem walk_eq_ok_iff :
    t.walk followLast links place path = .ok result ↔
      Walks t followLast links place path result := by
  constructor
  · -- Each link that is followed leaves one less; between two of them the steps get fewer.
    intro h
    induction links generalizing place path result with
    | zero => exact walks_of_walkOn nofun (t.walk_eq_walkOn followLast 0 ▸ h)
    | succ links ih =>
      refine walks_of_walkOn (fun hlinks h ↦ ?_) (t.walk_eq_walkOn followLast (links + 1) ▸ h)
      obtain rfl := Nat.succ.inj hlinks
      exact ih h
  · intro h
    induction h with
    | done => rw [walk_eq_walkOn]; rfl
    | stay next ih => rw [walk_eq_walkOn] at ih ⊢; exact ih
    | slash next ih => rw [walk_eq_walkOn] at ih ⊢; exact ih
    | up next ih => rw [walk_eq_walkOn] at ih ⊢; exact ih
    | missing short absent =>
      rw [walk_eq_walkOn, walkOn, if_neg (Nat.not_lt.2 short), absent]
      rfl
    | missingSlash short absent =>
      rw [walk_eq_walkOn, walkOn, if_neg (Nat.not_lt.2 short), absent]
      rfl
    | directory short present next ih =>
      rw [walk_eq_walkOn] at ih ⊢
      rw [walkOn, if_neg (Nat.not_lt.2 short), present]
      exact ih
    | link short present last =>
      subst last
      rw [walk_eq_walkOn, walkOn, if_neg (Nat.not_lt.2 short), present]
      rfl
    | follow short present followed next ih =>
      rw [walk_eq_walkOn, walkOn, if_neg (Nat.not_lt.2 short), present]
      simp only [if_neg followed]
      exact ih
    | @entry _ _ _ entry short present ne_directory ne_link =>
      rw [walk_eq_walkOn, walkOn, if_neg (Nat.not_lt.2 short), present]
      cases entry with
      | directory => exact absurd rfl ne_directory
      | link target => exact absurd rfl (ne_link target)
      | file content executable => rfl
      | utility name => rfl
      | sink => rfl
      | zeros => rfl

namespace Walks

/-- What a walk finds lies where it finds it. -/
theorem get?_of_existing (ht : t.Closed) (hplace : t.get? place = some .directory)
    (h : Walks t followLast links place path (.existing found entry)) :
    t.get? found = some entry := by
  generalize hresult : Target.existing found entry = result at h
  induction h with
  | done => cases hresult; exact hplace
  | stay _ ih => exact ih hplace hresult
  | slash _ ih => exact ih hplace hresult
  | up _ ih => exact ih (ht.get?_dropLast hplace) hresult
  | missing => exact nomatch hresult
  | missingSlash => exact nomatch hresult
  | directory _ present _ ih => exact ih present hresult
  | link _ present => cases hresult; exact present
  | follow _ _ _ _ ih =>
    refine ih ?_ hresult
    split
    · exact t.get?_nil
    · exact hplace
  | entry _ present => cases hresult; exact present

/-- What is no directory lies where a walk finds it, in any tree. -/
theorem get?_of_ne_directory (hne : entry ≠ .directory)
    (h : Walks t followLast links place path (.existing found entry)) :
    t.get? found = some entry := by
  generalize hresult : Target.existing found entry = result at h
  induction h with
  | done => cases hresult; exact absurd rfl hne
  | stay _ ih => exact ih hresult
  | slash _ ih => exact ih hresult
  | up _ ih => exact ih hresult
  | missing => exact nomatch hresult
  | missingSlash => exact nomatch hresult
  | directory _ _ _ ih => exact ih hresult
  | link _ present => cases hresult; exact present
  | follow _ _ _ _ ih => exact ih hresult
  | entry _ present => cases hresult; exact present

/-- **A walk to an entry survives** whatever leaves that entry, the directories and the links. -/
theorem mono_of_isWay
    (hkeep : ∀ p e, t.get? p = some e → p = found ∨ IsWay e → t'.get? p = some e)
    (h : Walks t followLast links place path (.existing found entry)) :
    Walks t' followLast links place path (.existing found entry) := by
  generalize hresult : Target.existing found entry = result at h ⊢
  induction h with
  | done => exact .done
  | stay _ ih => exact .stay (ih hresult)
  | slash _ ih => exact .slash (ih hresult)
  | up _ ih => exact .up (ih hresult)
  | missing => exact nomatch hresult
  | missingSlash => exact nomatch hresult
  | directory short present _ ih =>
    exact .directory short (hkeep _ _ present (.inr trivial)) (ih hresult)
  | link short present last => exact .link short (hkeep _ _ present (.inr trivial)) last
  | follow short present followed _ ih =>
    exact .follow short (hkeep _ _ present (.inr trivial)) followed (ih hresult)
  | entry short present ne_directory ne_link =>
    cases hresult
    exact .entry short (hkeep _ _ present (.inl rfl)) ne_directory ne_link

/-- A walk to an entry survives whatever leaves the entries as they are that were there. -/
theorem mono (hkeep : ∀ p, t.get? p ≠ none → t'.get? p = t.get? p)
    (h : Walks t followLast links place path (.existing found entry)) :
    Walks t' followLast links place path (.existing found entry) :=
  h.mono_of_isWay fun p _ hp _ ↦ (hkeep p (hp ▸ nofun)).trans hp

/-- **The last name of a walk** is looked up in the directory that the walk before it leads to. -/
theorem of_append (h : Walks t followLast links place (path ++ [.into name]) result) :
    name.utf8ByteSize ≤ nameLimit ∧
      ∃ directory, Walks t true links place path (.existing directory .directory) ∧
        (t.get? (directory ++ [name]) = none → result = .missing directory name false) ∧
        ∀ entry, t.get? (directory ++ [name]) = some entry →
          (followLast = true → ∀ target, entry ≠ .link target) →
            result = .existing (directory ++ [name]) entry := by
  have looked {p : Place} {e : Entry} (present : t.get? (p ++ [name]) = some e) :
      (t.get? (p ++ [name]) = none → Target.existing (p ++ [name]) e = .missing p name false) ∧
        ∀ entry, t.get? (p ++ [name]) = some entry →
          (followLast = true → ∀ target, entry ≠ .link target) →
            Target.existing (p ++ [name]) e = .existing (p ++ [name]) entry := by
    rw [present]
    exact ⟨nofun, fun entry hentry _ ↦ Option.some.inj hentry ▸ rfl⟩
  -- A link on the way puts its own steps in front of those that are left, so the last one stays last.
  generalize hpath : path ++ [.into name] = steps at h
  induction h generalizing path with
  | done => exact absurd hpath (List.concat_ne_nil _ _)
  | stay _ ih =>
    obtain ⟨-, hnone⟩ | ⟨before, rfl, hrest⟩ := List.append_eq_cons_iff.1 hpath
    · exact nomatch hnone
    · obtain ⟨hname, directory, hwalk, hlast⟩ := ih hrest.symm
      exact ⟨hname, directory, .stay hwalk, hlast⟩
  | slash _ ih =>
    obtain ⟨-, hnone⟩ | ⟨before, rfl, hrest⟩ := List.append_eq_cons_iff.1 hpath
    · exact nomatch hnone
    · obtain ⟨hname, directory, hwalk, hlast⟩ := ih hrest.symm
      exact ⟨hname, directory, .slash hwalk, hlast⟩
  | up _ ih =>
    obtain ⟨-, hnone⟩ | ⟨before, rfl, hrest⟩ := List.append_eq_cons_iff.1 hpath
    · exact nomatch hnone
    · obtain ⟨hname, directory, hwalk, hlast⟩ := ih hrest.symm
      exact ⟨hname, directory, .up hwalk, hlast⟩
  | missing short absent =>
    obtain ⟨rfl, hlast⟩ | ⟨before, rfl, hrest⟩ := List.append_eq_cons_iff.1 hpath
    · cases hlast
      exact ⟨short, _, .done, fun _ ↦ rfl, fun _ hpresent ↦ (nomatch absent.symm.trans hpresent)⟩
    · exact absurd hrest (List.concat_ne_nil _ _).symm
  | missingSlash =>
    obtain ⟨-, hlast⟩ | ⟨before, rfl, hrest⟩ := List.append_eq_cons_iff.1 hpath
    · exact nomatch hlast
    · have hlast := congrArg List.getLast? hrest
      rw [List.getLast?_concat] at hlast
      exact nomatch Option.some.inj hlast
  | directory short present next ih =>
    obtain ⟨rfl, hlast⟩ | ⟨before, rfl, hrest⟩ := List.append_eq_cons_iff.1 hpath
    · cases hlast
      cases next
      exact ⟨short, _, .done, looked present⟩
    · obtain ⟨hname, directory, hwalk, hlast⟩ := ih hrest.symm
      exact ⟨hname, directory, .directory short present hwalk, hlast⟩
  | link short present =>
    obtain ⟨rfl, hlast⟩ | ⟨before, rfl, hrest⟩ := List.append_eq_cons_iff.1 hpath
    · cases hlast
      exact ⟨short, _, .done, looked present⟩
    · exact absurd hrest (List.concat_ne_nil _ _).symm
  | follow short present followed _ ih =>
    obtain ⟨rfl, hlast⟩ | ⟨before, rfl, rfl⟩ := List.append_eq_cons_iff.1 hpath
    · -- The last name is that of a link, and the walk goes on from it.
      cases hlast
      have hfollow : followLast = true := by simpa using followed
      exact ⟨short, _, .done, fun habsent ↦ (nomatch present.symm.trans habsent),
        fun _ hentry hlink ↦ absurd (Option.some.inj (hentry.symm.trans present))
          (hlink hfollow _)⟩
    · obtain ⟨hname, directory, hwalk, hlast⟩ := ih (List.append_assoc _ _ _)
      exact ⟨hname, directory, .follow short present (fun h ↦ nomatch h.2) hwalk, hlast⟩
  | entry short present =>
    obtain ⟨rfl, hlast⟩ | ⟨before, rfl, hrest⟩ := List.append_eq_cons_iff.1 hpath
    · cases hlast
      exact ⟨short, _, .done, looked present⟩
    · exact absurd hrest (List.concat_ne_nil _ _).symm

/-- A walk to a directory goes on to what lies in it, but for a link that is to be followed. -/
theorem append (h : Walks t true links place path (.existing found .directory))
    (short : name.utf8ByteSize ≤ nameLimit) (present : t.get? (found ++ [name]) = some entry)
    (hlink : followLast = true → ∀ target, entry ≠ .link target) :
    Walks t followLast links place (path ++ [.into name]) (.existing (found ++ [name]) entry) := by
  -- Only where the walk so far ends does it matter whether the last link is followed.
  generalize hresult : Target.existing found .directory = result at h
  induction h with
  | done =>
    cases hresult
    by_cases hdirectory : entry = .directory
    · subst hdirectory
      exact .directory short present .done
    · cases followLast with
      | true => exact .entry short present hdirectory (hlink rfl)
      | false =>
        by_cases hlast : ∃ target, entry = .link target
        · obtain ⟨target, rfl⟩ := hlast
          exact .link short present rfl
        · exact .entry short present hdirectory (not_exists.1 hlast)
  | stay _ ih => exact .stay (ih hresult)
  | slash _ ih => exact .slash (ih hresult)
  | up _ ih => exact .up (ih hresult)
  | missing => exact nomatch hresult
  | missingSlash => exact nomatch hresult
  | directory short' present' _ ih => exact .directory short' present' (ih hresult)
  | link => exact nomatch hresult
  | follow short' present' _ _ ih =>
    have hnext := ih hresult
    rw [List.append_assoc] at hnext
    exact .follow short' present' (fun h ↦ absurd h.1 (List.concat_ne_nil _ _)) hnext
  | entry _ _ ne_directory => cases hresult; exact absurd rfl ne_directory

/-- **A walk that meets no link** goes down the names as they are written. -/
theorem eq_append {names : List String}
    (hlinks : ∀ part, part ≠ [] → part <+: names →
      ∀ target, t.get? (place ++ part) ≠ some (.link target))
    (h : Walks t followLast links place (names.map .into) (.existing found entry)) :
    found = place ++ names := by
  induction names generalizing place with
  | nil =>
    cases h
    exact (List.append_nil _).symm
  | cons name rest ih =>
    have hname : ∀ target, t.get? (place ++ [name]) ≠ some (.link target) :=
      hlinks [name] (List.cons_ne_nil _ _) (List.prefix_append [name] rest)
    rw [List.map_cons] at h
    generalize hsteps : rest.map Step.into = steps at h
    cases h with
    | directory short present next =>
      subst hsteps
      have hrest : ∀ part, part ≠ [] → part <+: rest →
          ∀ target, t.get? (place ++ [name] ++ part) ≠ some (.link target) := by
        intro part _ hpre target
        rw [List.append_assoc]
        exact hlinks (name :: part) (List.cons_ne_nil _ _)
          (List.cons_prefix_cons.2 ⟨rfl, hpre⟩) target
      rw [ih hrest next, List.append_assoc, List.singleton_append]
    | link _ present => exact absurd present (hname _)
    | follow _ present => exact absurd present (hname _)
    | entry =>
      obtain rfl := List.map_eq_nil_iff.1 hsteps
      rfl

end Walks

end ContestJudge.FileTree
