import ContestJudge.Proofs.Case.Tree

/-!
# Trees that were built

Each addition makes one entry at the end of a tree, and a batch without cases makes none. Two counts
go on by themselves: every entry takes the next position, but only a batch takes the next number. So
positions tell single cases apart and numbers tell batches apart, and within a batch positions start
again. Neither count alone tells the cases apart, but together they do.

## What is shown, and what each part rests on

* `follows_of_build` — a tree has one entry for each addition, at the positions from one on. One
  addition adds one entry at the next position (`Follows.add`), and the rest is induction over the
  additions. Nothing is said of numbers here: they are counted by the builder, and what its counter
  has counted is `TreeBuilder.counted_of_foldlM`.
* `nodup_places` — no two cases have the same place. Within an entry the positions differ
  (`Addition.Makes.nodup_places`). Two entries share no place because their positions differ and
  their numbers do (`disjoint_places`), so this needs both counts.
* `build_arranged` — building fails at the first batch without cases, and only there, and a tree
  that was built has everything at its place (`Arranged`). The failure is read off the additions
  before it: these were built, and the fault tells their number plus one.

A place is the number of a batch with a position (`CaseNode.places`), since this is what a case
keeps of where it is. The number inside the case and the one it is listed under are the same
(`Numbered.fst_eq_batch`), so one list of places is enough.
-/

namespace ContestJudge

/-! ### Entries -/

/-- What tells the cases of an entry apart: the number of the batch, and the position. -/
def CaseNode.places (node : CaseNode) : List (Option Nat × Nat) :=
  node.flatten.map fun placed ↦ (placed.1, placed.2.position)

/-- An entry holds what was added. -/
inductive Addition.Makes : Addition → CaseNode → Prop
  /-- A case that stands alone is in no batch. -/
  | case {c : Case} : c.batch = none → Makes (.case c.data) (.single c)
  /-- A batch has members, which are under its number and at the positions from one on. -/
  | batch {number position : Nat} {points : Float} {members : List Case} :
    members ≠ [] → (∀ c ∈ members, c.batch = some number) →
    members.map Case.position = List.range' 1 members.length →
    Makes (.batch points (members.map Case.data)) (.batch number position points members)

theorem map_data_placeInBatch (number first : Nat) (cases : List CaseData) :
    (placeInBatch number first cases).map Case.data = cases := by
  induction cases generalizing first with
  | nil => rfl
  | cons data rest ih => exact congrArg (data :: ·) (ih (first + 1))

theorem map_position_placeInBatch (number first : Nat) (cases : List CaseData) :
    (placeInBatch number first cases).map Case.position = List.range' first cases.length := by
  induction cases generalizing first with
  | nil => rfl
  | cons data rest ih => exact congrArg (first :: ·) (ih (first + 1))

theorem Addition.makes_node {addition : Addition} (h : addition.cases ≠ [])
    (number position : Nat) : addition.Makes (addition.node number position) := by
  rcases addition with data | ⟨points, cases⟩
  · exact @Makes.case ⟨none, position, data⟩ rfl
  · have hdata : (placeInBatch number 1 cases).map Case.data = cases :=
      map_data_placeInBatch number 1 cases
    have hlength : (placeInBatch number 1 cases).length = cases.length := by
      rw [← List.length_map, hdata]
    have hmakes : (Addition.batch points ((placeInBatch number 1 cases).map Case.data)).Makes
        (.batch number position points (placeInBatch number 1 cases)) := by
      refine .batch (fun hnil ↦ h ?_) (fun c hc ↦ mem_placeInBatch hc) ?_
      · rw [← hdata, hnil]
        rfl
      · rw [map_position_placeInBatch, hlength]
    rwa [hdata] at hmakes

theorem Addition.Makes.map_data {addition : Addition} {node : CaseNode}
    (h : addition.Makes node) : node.flatten.map (·.2.data) = addition.cases := by
  cases h with
  | case => rfl
  | batch => exact List.map_map

/-- Without the number of a batch, the position of a case is that of its entry. -/
theorem CaseNode.of_mem_places {node : CaseNode} {place : Option Nat × Nat}
    (h : place ∈ node.places) :
    place.1 = node.number? ∧ (node.number? = none → place.2 = node.position) := by
  obtain ⟨placed, hplaced, rfl⟩ := List.mem_map.1 h
  rcases node with case | ⟨number, position, points, cases⟩
  · obtain rfl := List.mem_singleton.1 hplaced
    exact ⟨rfl, fun _ ↦ rfl⟩
  · obtain ⟨c, -, rfl⟩ := List.mem_map.1 hplaced
    exact ⟨rfl, nofun⟩

theorem Addition.Makes.nodup_places {addition : Addition} {node : CaseNode}
    (h : addition.Makes node) : node.places.Nodup := by
  cases h with
  | case => exact List.nodup_singleton _
  | @batch number position points members _ _ hpositions =>
    have hplaces : (CaseNode.batch number position points members).places.map Prod.snd =
        List.range' 1 members.length := by
      rw [← hpositions, CaseNode.places, CaseNode.flatten, List.map_map, List.map_map]
      rfl
    -- all members have the same number, so their positions have to tell them apart
    refine List.Nodup.of_map Prod.snd ?_
    rw [hplaces]
    exact List.nodup_range'

namespace CaseTree

variable {t : CaseTree} {additions : List Addition}

/-! ### What all additions do -/

/-- A tree has one entry for each thing that was added, at the positions from one on. -/
structure Follows (additions : List Addition) (t : CaseTree) : Prop where
  entries : List.Forall₂ Addition.Makes additions t.nodes
  positions : t.nodes.map CaseNode.position = List.range' 1 t.nodes.length

theorem Follows.add {b b' : TreeBuilder} {addition : Addition} (h : b.Follows additions)
    (hadd : b.add addition = .ok b') : b'.Follows (additions ++ [addition]) := by
  obtain ⟨hcases, rfl⟩ := TreeBuilder.add_eq_ok_iff.1 hadd
  refine ⟨List.rel_append h.entries (.cons (Addition.makes_node hcases _ _) .nil), ?_⟩
  rw [TreeBuilder.push, List.map_append, List.map_singleton, h.positions, Addition.position_node,
    TreeBuilder.nextPosition, List.length_append, List.length_singleton, List.range'_concat,
    Nat.one_mul, Nat.add_comm 1]

/-- **A tree that was built** has one entry for each addition. -/
theorem follows_of_build (h : build additions = .ok t) : t.Follows additions := by
  obtain ⟨b, hb, rfl⟩ := build_eq_ok_iff.1 h
  -- at each point the tree follows what was added so far
  let I : List Addition → TreeBuilder → Prop := fun rest b ↦
    ∃ done, additions = done ++ rest ∧ b.Follows done
  have hstart : I additions .empty := ⟨[], rfl, .nil, rfl⟩
  have hinvariant : I [] b := foldlM_invariant ?_ hstart hb
  · obtain ⟨done, hdone, hfollows⟩ := hinvariant
    rw [hdone, List.append_nil]
    exact hfollows
  · rintro addition rest b b' ⟨done, hdone, hfollows⟩ hadd
    refine ⟨done ++ [addition], ?_, hfollows.add hadd⟩
    rw [hdone, List.append_assoc, List.singleton_append]

/-! ### Telling cases apart -/

/-- Entries whose positions differ, and whose numbers differ if they have one, share no place. -/
theorem disjoint_places {node other : CaseNode} (hposition : node.position ≠ other.position)
    (hnumber : ∀ n, node.number? = some n → ∀ n', other.number? = some n' → n ≠ n') :
    List.Disjoint node.places other.places := by
  intro place hplace hother
  obtain ⟨hbatch, hsingle⟩ := CaseNode.of_mem_places hplace
  obtain ⟨hbatch', hsingle'⟩ := CaseNode.of_mem_places hother
  -- without a number, the place would be the position of both entries
  rcases hkey : place.1 with - | n
  · rw [hkey] at hbatch hbatch'
    exact hposition ((hsingle hbatch.symm).symm.trans (hsingle' hbatch'.symm))
  · rw [hkey] at hbatch hbatch'
    exact hnumber n hbatch.symm n hbatch'.symm rfl

theorem places_flatten (t : CaseTree) :
    t.flatten.map (fun placed ↦ (placed.1, placed.2.position)) =
      t.nodes.flatMap CaseNode.places := by
  rw [flatten, List.map_flatMap]
  rfl

/-- **No two cases have the same place.** -/
theorem nodup_places (hfollows : t.Follows additions) (hnumbered : t.Numbered) :
    (t.nodes.flatMap CaseNode.places).Nodup := by
  have hpositions : t.nodes.Pairwise (·.position ≠ ·.position) := by
    have hnodup : (t.nodes.map CaseNode.position).Nodup := by
      rw [hfollows.positions]
      exact List.nodup_range'
    exact List.pairwise_map.1 hnodup
  have hnumbers : t.nodes.Pairwise fun node other ↦
      ∀ n, node.number? = some n → ∀ n', other.number? = some n' → n ≠ n' := by
    have hnodup : (t.nodes.filterMap CaseNode.number?).Nodup := by
      rw [hnumbered.numbers]
      exact List.nodup_range'
    exact List.pairwise_filterMap.1 hnodup
  have hnodup : ∀ node ∈ t.nodes, node.places.Nodup :=
    forall_mem_of_forall₂ (fun _ _ (hmakes : Addition.Makes _ _) ↦ hmakes.nodup_places)
      hfollows.entries
  -- within an entry the places differ, and between two by one of the counts
  refine List.nodup_flatMap.2 ⟨hnodup, (hpositions.and hnumbers).imp ?_⟩
  rintro node other ⟨hposition, hnumber⟩
  exact disjoint_places hposition hnumber

/-! ### The whole tree -/

/-- **A tree in which everything is at its place.** The entries are those that were added, in order,
at the positions from one on; the batches among them have the numbers from one on. The cases are
those that were added, in order, each under the number of its own batch; and no two of them have the
same batch and the same position. -/
structure Arranged (additions : List Addition) (t : CaseTree) : Prop where
  entries : List.Forall₂ Addition.Makes additions t.nodes
  positions : t.nodes.map CaseNode.position = List.range' 1 additions.length
  numbers : t.nodes.filterMap CaseNode.number? =
    List.range' 1 (additions.countP Addition.isBatch)
  cases : t.flatten.map (·.2.data) = additions.flatMap Addition.cases
  keys : ∀ placed ∈ t.flatten, placed.1 = placed.2.batch
  places : (t.flatten.map fun placed ↦ (placed.1, placed.2.position)).Nodup

theorem map_data_flatten {nodes : List CaseNode}
    (h : List.Forall₂ Addition.Makes additions nodes) :
    (CaseTree.mk nodes).flatten.map (·.2.data) = additions.flatMap Addition.cases := by
  rw [flatten, List.map_flatMap]
  induction h with
  | nil => rfl
  | cons hmakes _ ih => rw [List.flatMap_cons, List.flatMap_cons, hmakes.map_data, ih]

theorem Numbered.fst_eq_batch (h : t.Numbered) {placed : Option Nat × Case}
    (hplaced : placed ∈ t.flatten) : placed.1 = placed.2.batch := by
  obtain ⟨node, hnode, hmem⟩ := List.mem_flatMap.1 hplaced
  obtain ⟨hkey, hbatch⟩ := (h.sound node hnode).number placed hmem
  exact hkey.trans hbatch.symm

/-- **Building a tree** fails exactly at the first batch without cases, and tells its position: one
more than there are entries before it. Otherwise everything is at its place. -/
theorem build_arranged (additions : List Addition) :
    (∀ fault, build additions = .error fault ↔ ∃ before points after t,
      additions = before ++ .batch points [] :: after ∧ build before = .ok t ∧
        fault = ⟨t.nodes.length + 1⟩) ∧
      ∀ t, build additions = .ok t → t.Arranged additions := by
  refine ⟨fun fault ↦ ?_, fun t h ↦ ?_⟩
  · rw [build, map_eq_error_iff, foldlM_eq_error_iff]
    simp only [TreeBuilder.add_eq_error_iff]
    constructor
    · rintro ⟨before, -, after, b, hadditions, hbefore, ⟨points, rfl⟩, hfault⟩
      exact ⟨before, points, after, b.build, hadditions, build_eq_ok_iff.2 ⟨b, hbefore, rfl⟩, hfault⟩
    · rintro ⟨before, points, after, t, hadditions, hbefore, hfault⟩
      obtain ⟨b, hb, rfl⟩ := build_eq_ok_iff.1 hbefore
      exact ⟨before, _, after, b, hadditions, hb, ⟨points, rfl⟩, hfault⟩
  · have hfollows := follows_of_build h
    obtain ⟨hnumbered, hcount⟩ := numbered_of_build h
    refine ⟨hfollows.entries, ?_, ?_, map_data_flatten hfollows.entries,
      fun _ ↦ hnumbered.fst_eq_batch, ?_⟩
    · rw [hfollows.positions, hfollows.entries.length_eq]
    · rw [hnumbered.numbers, hcount]
    · rw [places_flatten]
      exact nodup_places hfollows hnumbered

/-- Batches between cases that stand alone. -/
def mixedAdditions : List Addition :=
  let data : CaseData := ⟨.ofPath ⟨"in"⟩, none, 1, {}⟩
  [.case data, .batch 5 [data, data], .case data, .batch 0 [data]]

/-- The positions of the cases that stand alone go on over the batches; a batch without cases after
them is refused with the next position. -/
theorem build_arranged_mixed :
    (∃ t, build mixedAdditions = .ok t ∧ t.Arranged mixedAdditions ∧
      t.flatten.map (fun placed ↦ (placed.1, placed.2.position)) =
        [(none, 1), (some 1, 1), (some 1, 2), (none, 3), (some 2, 1)]) ∧
      build (mixedAdditions ++ [.batch 3 []]) = .error ⟨5⟩ := by
  obtain ⟨t, ht⟩ : ∃ t, build mixedAdditions = .ok t := ⟨_, rfl⟩
  refine ⟨⟨t, ht, (build_arranged mixedAdditions).2 t ht, ?_⟩, ?_⟩
  · obtain rfl := Except.ok.inj ht
    rfl
  · refine ((build_arranged _).1 _).2 ⟨mixedAdditions, 3, [], t, rfl, ht, ?_⟩
    obtain rfl := Except.ok.inj ht
    rfl

end CaseTree

end ContestJudge
