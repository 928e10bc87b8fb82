import ContestJudge.Case.Tree
import Mathlib.Data.List.Chain
import Mathlib.Data.List.Nodup
import Mathlib.Data.List.TakeWhile

/-!
# Runs and the list that they are cut from

Cutting a list into runs only sets marks in it: the runs one after the other are the list again.
There is only one way to set them where the key changes and nowhere else (`runs_maximal`).

Maximal runs are said by themselves (`MaximalRuns`), without the function that cuts. That cutting
gives them follows the recursion of the function; that nothing else is one is an induction over the
other runs, each of which ends just where the first one of the rest does (`runs_cons_append`).

## Which equality of keys

Keys are compared with a Boolean equality that need not be a good one. What holds of each:

* of any at all, the runs make up the list, none is empty, and a key is not equal to the one before
  it (`flatMap_runs`, `eq_cons_of_mem_runs`, `isChain_runs`);
* of an equivalence, the runs are the maximal ones, and any others differ only in which of some
  equal keys they carry (`MaximalRuns.forall₂_runs`);
* of lawful equality, they are the only ones.

## Groups

A list that was put together from groups is cut where the groups meet, save that loose items, which
have no number, stay together: cutting gives back the groups with a number (`runs_flatMap` and
`filter_joinLoose`). Numbers of neighbouring groups differ, so two groups with a number never run
into each other; groups here have different numbers throughout (`Grouped`), since the items of one
number are to be found again by it (`Grouped.filter_eq`).
-/

namespace ContestJudge

section Keys

variable {α κ : Type _} [BEq κ]

/-- **The runs of a list make up the list.** -/
theorem flatMap_runs (key : α → κ) (items : List α) : (runs key items).flatMap (·.2) = items := by
  induction items using runs.induct key with
  | case1 => rw [runs, List.flatMap_nil]
  | case2 first rest same ih =>
    rw [runs, List.flatMap_cons, ih, List.cons_append, List.takeWhile_append_dropWhile]

variable {key : α → κ} {k : κ} {front rest more : List α} {others : List (κ × List α)}

/-- Items whose keys equal the first one are a run, if the key changes after them. -/
theorem runs_cons_append {first : α} {tail : List α}
    (hmore : ∀ a ∈ more, (key a == key first) = true)
    (htail : ∀ a ∈ tail.head?, (key a == key first) = false) :
    runs key (first :: (more ++ tail)) = (key first, first :: more) :: runs key tail := by
  rw [runs, List.takeWhile_append_of_pos hmore, List.dropWhile_append_of_pos hmore]
  rcases tail with - | ⟨next, later⟩
  · rw [List.takeWhile_nil, List.dropWhile_nil, List.append_nil]
  · have hnext : ¬(key next == key first) = true := Bool.not_eq_true _ ▸ htail next rfl
    rw [List.takeWhile_cons, List.dropWhile_cons, if_neg hnext, if_neg hnext, List.append_nil]

/-- A run has the key of its first item. -/
theorem key_of_mem_head? (h : runs key rest = (k, more) :: others) {a : α} (ha : a ∈ rest.head?) :
    key a = k := by
  obtain ⟨later, rfl⟩ := List.head?_eq_some_iff.1 ha
  rw [runs] at h
  exact congrArg Prod.fst (List.cons.inj h).1

variable [LawfulBEq κ]

/-- The first run of a list goes on until the key changes. -/
theorem runs_append (hne : front ≠ []) (hkey : ∀ a ∈ front, key a = k) (rest : List α) :
    runs key (front ++ rest) = (k, front ++ rest.takeWhile (key · == k)) ::
      runs key (rest.dropWhile (key · == k)) := by
  obtain ⟨first, more, rfl⟩ := List.exists_cons_of_ne_nil hne
  rw [List.forall_mem_cons] at hkey
  obtain ⟨rfl, hmore⟩ := hkey
  have hsame : ∀ a ∈ more, (key a == key first) = true := by
    intro a ha
    exact beq_iff_eq.2 (hmore a ha)
  rw [List.cons_append, runs, List.takeWhile_append_of_pos hsame,
    List.dropWhile_append_of_pos hsame, List.cons_append]

/-- Items of one key before a run of the same key make that run longer. -/
theorem runs_append_of_eq (hkey : ∀ a ∈ front, key a = k) (hne : front ≠ [])
    (hrest : runs key rest = (k, more) :: others) :
    runs key (front ++ rest) = (k, front ++ more) :: others := by
  rcases rest with - | ⟨next, later⟩
  · rw [runs] at hrest
    cases hrest
  obtain rfl : key next = k := key_of_mem_head? hrest rfl
  have hsame : (key next == key next) = true := beq_self_eq_true (key next)
  rw [runs] at hrest
  cases hrest
  rw [runs_append hne hkey, List.takeWhile_cons, List.dropWhile_cons, if_pos hsame, if_pos hsame]

/-- Items of one key before a run of another key are a run of their own. -/
theorem runs_append_of_ne (hkey : ∀ a ∈ front, key a = k) (hne : front ≠ [])
    (hrest : ∀ a ∈ rest.head?, key a ≠ k) :
    runs key (front ++ rest) = (k, front) :: runs key rest := by
  obtain ⟨first, more, rfl⟩ := List.exists_cons_of_ne_nil hne
  rw [List.forall_mem_cons] at hkey
  obtain ⟨rfl, hmore⟩ := hkey
  exact runs_cons_append (fun a ha ↦ beq_iff_eq.2 (hmore a ha))
    fun a ha ↦ beq_eq_false_iff_ne.2 (hrest a ha)

end Keys

/-! ### The only way to cut a list -/

section Maximal

variable {α κ : Type _} [BEq κ] {key : α → κ} {items : List α} {parts : List (κ × List α)}

/-- **Maximal runs of a list**: they make up the list, each of them holds something and nothing but
items with its key, and no two neighbours have the same key. -/
structure MaximalRuns (key : α → κ) (items : List α) (parts : List (κ × List α)) : Prop where
  complete : parts.flatMap (·.2) = items
  nonempty : ∀ part ∈ parts, part.2 ≠ []
  keys : ∀ part ∈ parts, ∀ a ∈ part.2, (key a == part.1) = true
  differ : parts.IsChain fun part next ↦ (part.1 == next.1) = false

/-- A run begins with the item whose key it has, and goes on with items of an equal key. -/
theorem eq_cons_of_mem_runs {run : κ × List α} (h : run ∈ runs key items) :
    ∃ first rest, run = (key first, first :: rest) ∧ ∀ a ∈ rest, (key a == key first) = true := by
  induction items using runs.induct key with
  | case1 =>
    rw [runs] at h
    cases h
  | case2 first rest same ih =>
    rw [runs] at h
    rcases List.mem_cons.1 h with rfl | hlater
    · refine ⟨first, rest.takeWhile same, rfl, fun a ha ↦ ?_⟩
      have hsame : same a = true := List.mem_takeWhile_imp ha
      exact hsame
    · exact ih hlater

/-- The key of a run is not equal to that of the run before. -/
theorem isChain_runs (key : α → κ) (items : List α) :
    (runs key items).IsChain fun run next ↦ (next.1 == run.1) = false := by
  induction items using runs.induct key with
  | case1 =>
    rw [runs]
    exact .nil
  | case2 first rest same ih =>
    rw [runs]
    refine List.isChain_cons.2 ⟨fun next hnext ↦ ?_, ih⟩
    obtain ⟨later, hruns⟩ := List.head?_eq_some_iff.1 hnext
    -- the next run begins where the key changes
    have hchange := List.head?_dropWhile_not same rest
    rcases htail : rest.dropWhile same with - | ⟨a, more⟩
    · rw [htail, runs] at hruns
      cases hruns
    · rw [htail] at hruns hchange
      rw [← key_of_mem_head? hruns rfl]
      exact hchange

variable [EquivBEq κ]

/-- Cutting a list gives maximal runs. -/
theorem maximalRuns_runs (key : α → κ) (items : List α) :
    MaximalRuns key items (runs key items) := by
  refine ⟨flatMap_runs key items, fun run hrun ↦ ?_, fun run hrun ↦ ?_, ?_⟩
  · obtain ⟨first, rest, rfl, -⟩ := eq_cons_of_mem_runs hrun
    exact List.cons_ne_nil _ _
  · obtain ⟨first, rest, rfl, hrest⟩ := eq_cons_of_mem_runs hrun
    exact List.forall_mem_cons.2 ⟨BEq.rfl, hrest⟩
  · exact (isChain_runs key items).imp fun run next hne ↦ by rw [BEq.comm, hne]

/-- **Maximal runs are what cutting gives**, whichever of some equal keys they are given. -/
theorem MaximalRuns.forall₂_runs (h : MaximalRuns key items parts) :
    List.Forall₂ (fun part run ↦ (part.1 == run.1) = true ∧ part.2 = run.2) parts
      (runs key items) := by
  induction parts generalizing items with
  | nil =>
    obtain rfl := h.complete
    rw [List.flatMap_nil, runs]
    exact .nil
  | cons part later ih =>
    obtain ⟨rfl, hnonempty, hkeys, hdiffer⟩ := h
    rw [List.forall_mem_cons] at hnonempty hkeys
    rw [List.isChain_cons] at hdiffer
    obtain ⟨k, front⟩ := part
    obtain ⟨first, more, rfl⟩ := List.exists_cons_of_ne_nil hnonempty.1
    obtain ⟨hfirst, hmore⟩ := List.forall_mem_cons.1 hkeys.1
    have hlater := ih ⟨rfl, hnonempty.2, hkeys.2, hdiffer.2⟩
    -- the next part, if there is one, begins with an item of its own key
    have htail : ∀ a ∈ (later.flatMap (·.2)).head?, (key a == key first) = false := by
      intro a ha
      rcases later with - | ⟨⟨k', front'⟩, others⟩
      · cases ha
      obtain ⟨next, rest, rfl⟩ := List.exists_cons_of_ne_nil (hnonempty.2 _ List.mem_cons_self)
      obtain rfl : next = a := Option.some.inj ha
      have hnext := hkeys.2 _ List.mem_cons_self next List.mem_cons_self
      calc (key next == key first)
          = (k' == key first) := BEq.congr_left hnext
        _ = (k' == k) := BEq.congr_right hfirst
        _ = (k == k') := BEq.comm
        _ = false := hdiffer.1 _ rfl
    have hsame : ∀ a ∈ more, (key a == key first) = true := by
      intro a ha
      exact BEq.trans (hmore a ha) (BEq.symm hfirst)
    rw [List.flatMap_cons, List.cons_append, runs_cons_append hsame htail]
    exact .cons ⟨BEq.symm hfirst, rfl⟩ hlater

end Maximal

/-- **There is one way to cut a list into maximal runs.** Where equal keys need not be the same, the
same items are in each run, and only the keys may be other equal ones. Whatever equality of keys is,
even if a key is not equal to itself, the runs make up the list, and each of them begins with the
item whose key it has and goes on with items of an equal key, up to one whose key is not equal. -/
theorem runs_maximal {α κ : Type _} [BEq κ] (key : α → κ) (items : List α) :
    (∀ [EquivBEq κ], MaximalRuns key items (runs key items) ∧
      ∀ parts, MaximalRuns key items parts →
        List.Forall₂ (fun part run ↦ (part.1 == run.1) = true ∧ part.2 = run.2) parts
          (runs key items)) ∧
    (∀ [LawfulBEq κ] parts, MaximalRuns key items parts ↔ parts = runs key items) ∧
    (runs key items).flatMap (·.2) = items ∧
    (∀ run ∈ runs key items,
      ∃ first rest, run = (key first, first :: rest) ∧ ∀ a ∈ rest, (key a == key first) = true) ∧
    (runs key items).IsChain fun run next ↦ (next.1 == run.1) = false := by
  refine ⟨⟨maximalRuns_runs key items, fun parts h ↦ h.forall₂_runs⟩, fun parts ↦ ⟨fun h ↦ ?_, ?_⟩,
    flatMap_runs key items, fun run ↦ eq_cons_of_mem_runs, isChain_runs key items⟩
  · rw [← List.forall₂_eq_eq_eq]
    exact h.forall₂_runs.imp fun part run ⟨hkey, hitems⟩ ↦ Prod.ext (eq_of_beq hkey) hitems
  · rintro rfl
    exact maximalRuns_runs key items

/-- Equal keys that are apart are in two runs. -/
theorem runs_maximal_apart :
    MaximalRuns id [1, 1, 2, 1] [(1, [1, 1]), (2, [2]), (1, [1])] ∧
      ∀ parts, MaximalRuns id [1, 1, 2, 1] parts → parts = [(1, [1, 1]), (2, [2]), (1, [1])] := by
  have hruns : runs id [1, 1, 2, 1] = [(1, [1, 1]), (2, [2]), (1, [1])] := by decide +kernel
  obtain ⟨hequal, hunique, -⟩ := runs_maximal id [1, 1, 2, 1]
  rw [hruns] at hequal hunique
  exact ⟨hequal.1, fun parts ↦ (hunique parts).1⟩

/-! ### Groups with and without a number -/

variable {α : Type _} {key : α → Option Nat}

/-- Groups of items, with loose items put together that are neighbours. -/
def joinLoose : List (Option Nat × List α) → List (Option Nat × List α)
  | [] => []
  | (some number, items) :: rest => (some number, items) :: joinLoose rest
  | (none, items) :: rest =>
    match joinLoose rest with
    | (none, more) :: others => (none, items ++ more) :: others
    | others => (none, items) :: others

/-- Putting loose items together keeps the groups with a number. -/
theorem filter_joinLoose (groups : List (Option Nat × List α)) :
    (joinLoose groups).filter (·.1.isSome) = groups.filter (·.1.isSome) := by
  induction groups with
  | nil => rfl
  | cons group rest ih =>
    obtain ⟨- | number, items⟩ := group
    · rw [joinLoose, List.filter_cons_of_neg Bool.false_ne_true, ← ih]
      split <;> simp [*]
    · rw [joinLoose, List.filter_cons_of_pos rfl, List.filter_cons_of_pos rfl, ih]

/-- Groups of which each holds something, all under its own number, which no other group has. -/
structure Grouped (key : α → Option Nat) (groups : List (Option Nat × List α)) : Prop where
  keys : ∀ group ∈ groups, ∀ a ∈ group.2, key a = group.1
  nonempty : ∀ group ∈ groups, group.2 ≠ []
  numbers : (groups.filterMap (·.1)).Nodup

/-- A group with the keys of its items in their place. -/
def groupKeys {β : Type _} (key : β → Option Nat) (group : Option Nat × List β) :
    Option Nat × List (Option Nat) := (group.1, group.2.map key)

/-- Whether groups are so depends on nothing but the keys of their items. -/
theorem grouped_id_iff {groups : List (Option Nat × List α)} :
    Grouped id (groups.map (groupKeys key)) ↔ Grouped key groups := by
  constructor
  · rintro ⟨hkeys, hnonempty, hnumbers⟩
    rw [List.forall_mem_map] at hkeys hnonempty
    refine ⟨fun group hgroup a ha ↦ hkeys group hgroup _ (List.mem_map_of_mem ha),
      fun group hgroup hnil ↦ hnonempty group hgroup (List.map_eq_nil_iff.2 hnil), ?_⟩
    rwa [List.filterMap_map] at hnumbers
  · rintro ⟨hkeys, hnonempty, hnumbers⟩
    refine ⟨?_, ?_, ?_⟩
    · rw [List.forall_mem_map]
      exact fun group hgroup ↦ List.forall_mem_map.2 (hkeys group hgroup)
    · rw [List.forall_mem_map]
      exact fun group hgroup hnil ↦ hnonempty group hgroup (List.map_eq_nil_iff.1 hnil)
    · rwa [List.filterMap_map]

namespace Grouped

/-- Groups with the same keys as groups are groups. -/
theorem congr {β : Type _} {key' : β → Option Nat} {groups : List (Option Nat × List α)}
    {groups' : List (Option Nat × List β)} (h : Grouped key groups)
    (hkeys : groups'.map (groupKeys key') = groups.map (groupKeys key)) : Grouped key' groups' := by
  rw [← grouped_id_iff, hkeys, grouped_id_iff]
  exact h

variable {group : Option Nat × List α} {groups : List (Option Nat × List α)}

theorem tail (h : Grouped key (group :: groups)) : Grouped key groups := by
  refine ⟨fun g hg ↦ h.keys g (List.mem_cons_of_mem _ hg),
    fun g hg ↦ h.nonempty g (List.mem_cons_of_mem _ hg), ?_⟩
  have hnumbers := h.numbers
  rw [List.filterMap_cons] at hnumbers
  split at hnumbers
  · exact hnumbers
  · exact hnumbers.tail

/-- What comes after a group with a number is not in it. -/
theorem key_ne {number : Nat} {items : List α} (h : Grouped key ((some number, items) :: groups))
    {a : α} (ha : a ∈ groups.flatMap (·.2)) : key a ≠ some number := by
  obtain ⟨other, hother, hmem⟩ := List.mem_flatMap.1 ha
  rw [h.keys other (List.mem_cons_of_mem _ hother) a hmem]
  intro hnumber
  have hnumbers := h.numbers
  have hcons : ((some number, items) :: groups).filterMap (·.1) =
      number :: groups.filterMap (·.1) := rfl
  rw [hcons, List.nodup_cons] at hnumbers
  exact hnumbers.1 (List.mem_filterMap.2 ⟨other, hother, hnumber⟩)

/-- The items under a number are those of its group. -/
theorem filter_eq {number : Nat} {items : List α} (h : Grouped key groups)
    (hmem : (some number, items) ∈ groups) :
    (groups.flatMap (·.2)).filter (key · == some number) = items := by
  induction groups with
  | nil => cases hmem
  | cons group rest ih =>
    rw [List.flatMap_cons, List.filter_append]
    rcases List.mem_cons.1 hmem with rfl | hrest
    · have hfirst : items.filter (key · == some number) = items := by
        refine List.filter_eq_self.2 fun a ha ↦ beq_iff_eq.2 ?_
        exact h.keys _ List.mem_cons_self a ha
      have hothers : (rest.flatMap (·.2)).filter (key · == some number) = [] := by
        refine List.filter_eq_nil_iff.2 fun a ha ↦ ?_
        rw [beq_iff_eq]
        exact h.key_ne ha
      rw [hfirst, hothers, List.append_nil]
    · obtain ⟨a, ha⟩ := List.exists_mem_of_ne_nil items (h.tail.nonempty _ hrest)
      have hkey : key a = some number := h.tail.keys _ hrest a ha
      have hfirst : group.2.filter (key · == some number) = [] := by
        refine List.filter_eq_nil_iff.2 fun b hb ↦ ?_
        rw [beq_iff_eq, h.keys group List.mem_cons_self b hb]
        intro hnumber
        obtain ⟨k, others⟩ := group
        obtain rfl : k = some number := hnumber
        exact h.key_ne (List.mem_flatMap.2 ⟨_, hrest, ha⟩) hkey
      rw [hfirst, List.nil_append, ih h.tail hrest]

end Grouped

/-- **Runs give groups back**, with neighbouring loose items put together. -/
theorem runs_flatMap {groups : List (Option Nat × List α)} (h : Grouped key groups) :
    runs key (groups.flatMap (·.2)) = joinLoose groups := by
  induction groups with
  | nil => rw [List.flatMap_nil, runs, joinLoose]
  | cons group rest ih =>
    obtain ⟨k, items⟩ := group
    have hkeys : ∀ a ∈ items, key a = k := h.keys (k, items) List.mem_cons_self
    have hne : items ≠ [] := h.nonempty (k, items) List.mem_cons_self
    have hrest := ih h.tail
    rw [List.flatMap_cons]
    rcases k with - | number
    · rw [joinLoose, ← hrest]
      rcases hruns : runs key (rest.flatMap (·.2)) with - | ⟨⟨- | number, more⟩, others⟩
      · have hnil : rest.flatMap (·.2) = [] := by
          rw [← flatMap_runs key (rest.flatMap (·.2)), hruns, List.flatMap_nil]
        rw [runs_append_of_ne hkeys hne (by simp [hnil]), hruns]
      · rw [hruns]
        exact runs_append_of_eq hkeys hne hruns
      · have hhead : ∀ a ∈ (rest.flatMap (·.2)).head?, key a ≠ none := by
          intro a ha
          rw [key_of_mem_head? hruns ha]
          exact Option.some_ne_none number
        rw [runs_append_of_ne hkeys hne hhead, hruns]
    · have hhead : ∀ a ∈ (rest.flatMap (·.2)).head?, key a ≠ some number :=
        fun a ha ↦ h.key_ne (List.mem_of_mem_head? ha)
      rw [runs_append_of_ne hkeys hne hhead, joinLoose, hrest]

end ContestJudge
