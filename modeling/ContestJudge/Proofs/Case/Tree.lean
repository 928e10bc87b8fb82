import ContestJudge.Case.Tree
import ContestJudge.Proofs.Case.Runs
import ContestJudge.Proofs.Fallible
import Mathlib.Data.List.Forall2

/-!
# What is added to a tree

A tree is built by adding cases and batches at its end, and what an addition does is said once, for
both kinds (`TreeBuilder.add_eq_ok_iff`): it makes one entry, which comes after all that was there
before, and a batch without cases is refused (`TreeBuilder.add_eq_error_iff`). Nothing else looks
into the operations of the builder.

## The counter

The builder numbers batches by a counter of its own, which a refused batch leaves alone. That the
counter counts the batches among the entries is an invariant (`TreeBuilder.Counted`), and it is what
makes the numbers of a tree that was built go from one on without gaps (`CaseTree.Numbered`,
`CaseTree.numbered_of_build`). The step is `TreeBuilder.Counted.add`; the run is an induction over
the additions (`TreeBuilder.counted_of_foldlM`), which keeps count of them beside the entries.

A tree itself has no counter, so what is shown of trees below rests on their numbers alone and holds
of every numbered tree.

## Runs of numbers

A tree is flattened to a list of its cases, each with the number of its batch. Since the numbers of
two batches differ, the entries are groups (`CaseTree.Numbered.grouped`), and runs of equal numbers
give groups back, up to cases that stand alone side by side (`CaseTree.Numbered.runs_flatten`). The
number is written twice, beside a case and in it; both give the same groups
(`CaseTree.Numbered.grouped_batch`).
-/

namespace ContestJudge

/-! ### The entry of an addition -/

/-- The number of an entry, if it is a batch. -/
def CaseNode.number? : CaseNode → Option Nat
  | single _ => none
  | batch number .. => some number

/-- The position of an entry. -/
def CaseNode.position : CaseNode → Nat
  | single case => case.position
  | batch _ position _ _ => position

/-- The cases of an entry, under its number. -/
def CaseNode.group (node : CaseNode) : Option Nat × List (Option Nat × Case) :=
  (node.number?, node.flatten)

/-- An entry that holds a case, and whose cases carry its number. -/
structure CaseNode.Sound (node : CaseNode) : Prop where
  nonempty : node.flatten ≠ []
  number : ∀ placed ∈ node.flatten, placed.1 = node.number? ∧ placed.2.batch = node.number?

/-- The cases of a batch are placed one for each data, under the number of the batch. -/
theorem forall₂_placeInBatch {α : Type _} {R : α → CaseData → Prop} {l : List α}
    {cases : List CaseData} (h : List.Forall₂ R l cases) (number first : Nat) :
    List.Forall₂ (fun a c ↦ R a c.data ∧ c.batch = some number) l
      (placeInBatch number first cases) := by
  induction h generalizing first with
  | nil => exact .nil
  | cons hab _ ih => exact .cons ⟨hab, rfl⟩ (ih (first + 1))

theorem mem_placeInBatch {number first : Nat} {cases : List CaseData} {c : Case}
    (h : c ∈ placeInBatch number first cases) : c.batch = some number := by
  induction cases generalizing first with
  | nil => cases h
  | cons data rest ih =>
    rcases List.mem_cons.1 h with rfl | hrest
    · rfl
    · exact ih hrest

namespace Addition

/-- Whether a batch is added. -/
def isBatch : Addition → Bool
  | case _ => false
  | batch .. => true

/-- The cases that are added. -/
def cases : Addition → List CaseData
  | case data => [data]
  | batch _ cases => cases

/-- The entry that is made of an addition. -/
def node (number position : Nat) : Addition → CaseNode
  | case data => .single ⟨none, position, data⟩
  | batch points cases => .batch number position points (placeInBatch number 1 cases)

theorem position_node (addition : Addition) (number position : Nat) :
    (addition.node number position).position = position := by
  cases addition <;> rfl

theorem isBatch_node (addition : Addition) (number position : Nat) :
    (addition.node number position).isBatch = addition.isBatch := by
  cases addition <;> rfl

theorem sound_node {addition : Addition} (h : addition.cases ≠ []) (number position : Nat) :
    (addition.node number position).Sound := by
  rcases addition with data | ⟨points, cases⟩
  · refine ⟨List.cons_ne_nil _ _, fun placed hplaced ↦ ?_⟩
    obtain rfl := List.mem_singleton.1 hplaced
    exact ⟨rfl, rfl⟩
  · obtain ⟨first, rest, rfl⟩ := List.exists_cons_of_ne_nil h
    refine ⟨List.cons_ne_nil _ _, fun placed hplaced ↦ ?_⟩
    obtain ⟨c, hc, rfl⟩ := List.mem_map.1 hplaced
    exact ⟨rfl, mem_placeInBatch hc⟩

/-- The cases of an entry are one for each data that is added, under the number of the entry. -/
theorem forall₂_flatten_node {α : Type _} {R : α → CaseData → Prop} {l : List α}
    {addition : Addition} (h : List.Forall₂ R l addition.cases) (number position : Nat) :
    List.Forall₂ (fun a placed ↦ R a placed.2.data ∧ placed.1.isSome = addition.isBatch ∧
      placed.2.batch = placed.1) l (addition.node number position).flatten := by
  rcases addition with data | ⟨points, cases⟩
  · obtain ⟨a, _, hR, hrest, rfl⟩ := List.forall₂_cons_right_iff.1 h
    obtain rfl := List.forall₂_nil_right_iff.1 hrest
    exact .cons ⟨hR, rfl, rfl⟩ .nil
  · rw [node, CaseNode.flatten, List.forall₂_map_right_iff]
    exact (forall₂_placeInBatch h number 1).imp fun _ _ ⟨hR, hbatch⟩ ↦ ⟨hR, rfl, hbatch⟩

end Addition

/-! ### What one addition does -/

namespace TreeBuilder

variable {b b' : TreeBuilder} {addition : Addition}

/-- The builder with one more entry, which is the one that an addition makes. -/
def push (b : TreeBuilder) (addition : Addition) : TreeBuilder :=
  ⟨⟨b.nodes ++ [addition.node (b.batchCount + 1) b.nextPosition]⟩,
    b.batchCount + if addition.isBatch then 1 else 0⟩

/-- A batch is added unless it is empty. -/
theorem addBatch_eq_ok_iff {points : Float} {cases : List CaseData} :
    b.addBatch points cases = .ok b' ↔ cases ≠ [] ∧ b' = b.push (.batch points cases) := by
  rw [addBatch]
  rcases cases with - | ⟨first, rest⟩
  · simp [placeInBatch]
  · simp [placeInBatch, push, Addition.node, Addition.isBatch, eq_comm]

/-- **An addition makes one entry**, at the end, unless it has no cases. -/
theorem add_eq_ok_iff : b.add addition = .ok b' ↔ addition.cases ≠ [] ∧ b' = b.push addition := by
  rcases addition with data | ⟨points, cases⟩
  · exact ⟨fun h ↦ ⟨List.cons_ne_nil _ _, (Except.ok.inj h).symm⟩,
      fun ⟨_, h⟩ ↦ congrArg Except.ok h.symm⟩
  · exact addBatch_eq_ok_iff

/-- A batch without cases is refused, with the position that it would have had. -/
theorem add_eq_error_iff {fault : EmptyBatch} : b.add addition = .error fault ↔
    (∃ points, addition = .batch points []) ∧ fault = ⟨b.nodes.length + 1⟩ := by
  rcases addition with data | ⟨points, - | ⟨first, rest⟩⟩
  · exact ⟨nofun, fun ⟨⟨_, h⟩, _⟩ ↦ nomatch h⟩
  · exact ⟨fun h ↦ ⟨⟨points, rfl⟩, (Except.error.inj h).symm⟩,
      fun ⟨_, h⟩ ↦ congrArg Except.error h.symm⟩
  · exact ⟨nofun, fun ⟨⟨_, h⟩, _⟩ ↦ nomatch h⟩

theorem nextPosition_of_add (h : b.add addition = .ok b') :
    b'.nextPosition = b.nextPosition + 1 := by
  obtain ⟨-, rfl⟩ := add_eq_ok_iff.1 h
  exact congrArg (· + 1) (List.length_append)

/-- What is added comes after all that was there. -/
theorem flatten_of_add (h : b.add addition = .ok b') :
    b'.flatten = b.flatten ++ (addition.node (b.batchCount + 1) b.nextPosition).flatten := by
  obtain ⟨-, rfl⟩ := add_eq_ok_iff.1 h
  rw [push, CaseTree.flatten, List.flatMap_append, List.flatMap_singleton]
  rfl

end TreeBuilder

/-! ### The numbers of batches -/

/-- **The batches of a tree are numbered** from one, in order. -/
structure CaseTree.Numbered (t : CaseTree) : Prop where
  numbers : t.nodes.filterMap CaseNode.number? =
    List.range' 1 (t.nodes.countP CaseNode.isBatch)
  sound : ∀ node ∈ t.nodes, node.Sound

/-- **The count of a builder** is that of the batches in it, which are numbered. -/
structure TreeBuilder.Counted (b : TreeBuilder) : Prop where
  count : b.batchCount = b.nodes.countP CaseNode.isBatch
  numbered : b.toCaseTree.Numbered

theorem TreeBuilder.Counted.add {b b' : TreeBuilder} {addition : Addition} (h : b.Counted)
    (hadd : b.add addition = .ok b') : b'.Counted := by
  obtain ⟨hcases, rfl⟩ := add_eq_ok_iff.1 hadd
  have hcount : (b.push addition).nodes.countP CaseNode.isBatch = (b.push addition).batchCount := by
    rw [push, List.countP_append, List.countP_singleton, Addition.isBatch_node, ← h.count]
  refine ⟨hcount.symm, ?_, fun node hnode ↦ ?_⟩
  · rw [hcount, push, List.filterMap_append, h.numbered.numbers, ← h.count]
    rcases addition with data | ⟨points, cases⟩
    · exact List.append_nil _
    · -- the new number is the one after all that were given before
      show List.range' 1 b.batchCount ++ [b.batchCount + 1] = List.range' 1 (b.batchCount + 1)
      rw [List.range'_concat, Nat.one_mul, Nat.add_comm 1]
  · rcases List.mem_append.1 hnode with hold | hnew
    · exact h.numbered.sound node hold
    · obtain rfl := List.mem_singleton.1 hnew
      exact Addition.sound_node hcases _ _

/-- **The counter counts**: after some additions it is the number of batches among them. -/
theorem TreeBuilder.counted_of_foldlM {additions : List Addition} {b : TreeBuilder}
    (h : additions.foldlM add empty = .ok b) :
    b.Counted ∧ b.batchCount = additions.countP Addition.isBatch := by
  -- the batches of the tree and those still to come are always all that were given
  let I : List Addition → TreeBuilder → Prop := fun rest b ↦
    b.Counted ∧ b.batchCount + rest.countP Addition.isBatch = additions.countP Addition.isBatch
  have hstart : I additions empty := ⟨⟨rfl, rfl, nofun⟩, Nat.zero_add _⟩
  have hinvariant : I [] b := foldlM_invariant ?_ hstart h
  · exact hinvariant
  · rintro addition rest b b' ⟨hcounted, hcount⟩ hadd
    refine ⟨hcounted.add hadd, ?_⟩
    obtain ⟨-, rfl⟩ := add_eq_ok_iff.1 hadd
    have hmore : (b.push addition).batchCount = b.batchCount + if addition.isBatch then 1 else 0 :=
      rfl
    rw [hmore, ← hcount, List.countP_cons]
    omega

namespace CaseTree

variable {t : CaseTree} {additions : List Addition}

theorem build_eq_ok_iff :
    build additions = .ok t ↔ ∃ b, additions.foldlM TreeBuilder.add .empty = .ok b ∧ b.build = t :=
  map_eq_ok_iff

/-- **A tree that was built is numbered**, with as many batches as were added. -/
theorem numbered_of_build (h : build additions = .ok t) :
    t.Numbered ∧ t.nodes.countP CaseNode.isBatch = additions.countP Addition.isBatch := by
  obtain ⟨b, hb, rfl⟩ := build_eq_ok_iff.1 h
  obtain ⟨hcounted, hcount⟩ := TreeBuilder.counted_of_foldlM hb
  exact ⟨hcounted.numbered, hcounted.count.symm.trans hcount⟩

theorem flatten_eq (t : CaseTree) : t.flatten = (t.nodes.map CaseNode.group).flatMap (·.2) := by
  rw [List.flatMap_map]
  rfl

theorem Numbered.grouped (h : t.Numbered) : Grouped (·.1) (t.nodes.map CaseNode.group) := by
  refine ⟨?_, ?_, ?_⟩
  · rintro _ hgroup placed hplaced
    obtain ⟨node, hnode, rfl⟩ := List.mem_map.1 hgroup
    exact ((h.sound node hnode).number placed hplaced).1
  · rintro _ hgroup
    obtain ⟨node, hnode, rfl⟩ := List.mem_map.1 hgroup
    exact (h.sound node hnode).nonempty
  · have hnumbers : (t.nodes.map CaseNode.group).filterMap (·.1) =
        List.range' 1 (t.nodes.countP CaseNode.isBatch) := by
      rw [List.filterMap_map, ← h.numbers]
      rfl
    rw [hnumbers]
    exact List.nodup_range'

/-- The entries of a tree are groups by the batches of their cases as well. -/
theorem Numbered.grouped_batch (h : t.Numbered) :
    Grouped (·.2.batch) (t.nodes.map CaseNode.group) := by
  refine h.grouped.congr (List.map_congr_left fun group hgroup ↦ ?_)
  obtain ⟨node, hnode, rfl⟩ := List.mem_map.1 hgroup
  refine Prod.ext rfl (List.map_congr_left fun placed hplaced ↦ ?_)
  obtain ⟨hnumber, hbatch⟩ := (h.sound node hnode).number placed hplaced
  exact hbatch.trans hnumber.symm

/-- **Runs give the entries of a tree back**, with neighbouring single cases put together. -/
theorem Numbered.runs_flatten (h : t.Numbered) :
    runs (·.1) t.flatten = joinLoose (t.nodes.map CaseNode.group) := by
  rw [flatten_eq]
  exact runs_flatMap h.grouped

end CaseTree

end ContestJudge
