import ContestJudge.Proofs.Case.Building
import ContestJudge.Proofs.Problem.Layers

/-!
# The first fault of a declaration

Whatever is wrong with a declaration can be listed, in the order in which it is declared, without
building any cases: `Declaration.faults`. Of these the first is the one that is told
(`Declaration.tree_first_fault`), because each check of the tree looks for its own part of the list
and stops at what it finds (`Reports`).

The list is made of lists for a case, a member, the members of a batch and an entry, and for each of
them there is one lemma about the check that reads it (`CaseDeclaration.reports_data` and those
after it). Checks that are bound together have the faults of both, in order (`Reports.bind`), so no
lemma asks which of the checks before it went well.

The faults name the places by counting entries and members, while the position of a batch is counted
in the tree. The two counts agree, because every entry that is added makes one entry of the tree.
This is the one thing that the induction over the entries has to carry along (`reports_addEntries`).
-/

namespace ContestJudge.Problem

/-! ### What may be wrong, in order -/

instance (factor : Float) : Decidable (FactorSound factor) :=
  inferInstanceAs (Decidable (_ ∧ _))

/-- What is wrong with a factor. -/
def factorFaults (factor : Float) : List CaseFault :=
  if FactorSound factor then [] else [.wallTimeFactor factor]

namespace CaseDeclaration

/-- What is wrong with the settings of an entry. -/
def settingFaults (d : CaseDeclaration) : List CaseFault :=
  d.wallTimeFactor.elim [] factorFaults

/-- What is wrong with a case: first its input, then its settings. -/
def caseFaults (label : CaseLabel) (d : CaseDeclaration) : List CaseFault :=
  (if d.input = none then [.missingInput label] else []) ++ d.settingFaults

/-- What is wrong with a member of a batch: first that it is a batch, then what is wrong with the
case. -/
def memberFaults (label : CaseLabel) (d : CaseDeclaration) : List CaseFault :=
  (if d.members = none then [] else [.nestedBatch label]) ++ d.caseFaults label

/-- What is wrong with the members of a batch, which are counted from `first` on. -/
def membersFaults (entry first : Nat) (members : List CaseDeclaration) : List CaseFault :=
  (members.zipIdx first).flatMap fun (m, i) ↦ m.memberFaults ⟨entry, some i⟩

/-- What is wrong with an entry. For a batch, first its own settings, then its members, and last
that it has none. -/
def faults (number : Nat) (d : CaseDeclaration) : List CaseFault :=
  match d.members with
  | none => d.caseFaults ⟨number, none⟩
  | some members => d.settingFaults ++ (membersFaults number 1 members ++
      if members = [] then [.emptyBatch ⟨number⟩] else [])

end CaseDeclaration

/-- What is wrong with entries, which are counted from `first` on. -/
def entriesFaults (first : Nat) (entries : List CaseDeclaration) : List CaseFault :=
  (entries.zipIdx first).flatMap fun (d, i) ↦ d.faults i

/-- **What is wrong with a declaration**: first the factor of the problem, then the entries in
order. -/
def Declaration.faults (d : Declaration) : List CaseFault :=
  factorFaults d.wallTimeFactor ++ entriesFaults 1 d.cases

/-! ### Each check looks for its own faults -/

variable {directory : Path} {above : CaseSettings}

theorem reports_checkFactor (factor : Float) :
    Reports (checkFactor factor) (factorFaults factor) := by
  rw [factorFaults]
  split
  · next h => exact ⟨factor, checkFactor_eq_ok_iff.2 ⟨h, rfl⟩⟩
  · next h => exact if_neg (mt isFactor_iff.1 h)

namespace CaseDeclaration

theorem reports_settings (d : CaseDeclaration) :
    Reports (d.settings directory above) d.settingFaults := by
  rw [settings, settingFaults]
  rcases d.wallTimeFactor with - | factor
  · exact ⟨_, rfl⟩
  · exact (reports_checkFactor factor).bind_pure

theorem reports_data (d : CaseDeclaration) (label : CaseLabel) :
    Reports (d.data directory above label) (d.caseFaults label) := by
  rw [data, caseFaults]
  rcases d.input with - | path
  · rfl
  · exact d.reports_settings.bind_pure

theorem reports_memberData (d : CaseDeclaration) (label : CaseLabel) :
    Reports (d.memberData directory above label) (d.memberFaults label) := by
  rw [memberData, memberFaults]
  rcases d.members with - | members
  · exact d.reports_data label
  · rfl

theorem reports_membersData (entry first : Nat) (members : List CaseDeclaration) :
    Reports (membersData directory above entry first members)
      (membersFaults entry first members) := by
  induction members generalizing first with
  | nil => exact ⟨[], rfl⟩
  | cons d rest ih =>
    exact (d.reports_memberData _).bind fun case _ ↦ (ih (first + 1)).bind_pure

theorem reports_addBatch (tree : TreeBuilder) (points : Float) (cases : List CaseData) :
    Reports ((tree.addBatch points cases).mapError CaseFault.emptyBatch)
      (if cases = [] then [.emptyBatch ⟨tree.nextPosition⟩] else []) := by
  rcases cases with - | ⟨first, rest⟩
  · rfl
  · exact ⟨_, rfl⟩

/-- The number of an entry is the position that it gets in the tree. -/
theorem reports_addTo (d : CaseDeclaration) (tree : TreeBuilder) :
    Reports (d.addTo directory above tree.nextPosition tree) (d.faults tree.nextPosition) := by
  rw [addTo, faults]
  rcases d.members with - | members
  · exact (d.reports_data _).bind_pure
  · refine d.reports_settings.bind fun settings _ ↦ ?_
    refine (reports_membersData _ 1 members).bind fun cases hcases ↦ ?_
    -- what is added has one case for each member, so it is empty only when there were none
    have hnone : cases = [] ↔ members = [] := by
      rw [← List.length_eq_zero_iff, ← List.length_eq_zero_iff,
        (membersData_eq_ok_iff.1 hcases).length_eq]
    simpa only [hnone] using reports_addBatch tree (d.points.getD 0) cases

end CaseDeclaration

/-- The faults of entries are looked for in order, as each of them leaves the count where the next
one takes it up. -/
theorem reports_addEntries (entries : List CaseDeclaration) (tree : TreeBuilder) :
    Reports (addEntries directory above tree.nextPosition entries tree)
      (entriesFaults tree.nextPosition entries) := by
  induction entries generalizing tree with
  | nil => exact ⟨tree, rfl⟩
  | cons d rest ih =>
    refine (d.reports_addTo tree).bind fun tree' htree' ↦ ?_
    obtain ⟨addition, hadd, -⟩ := CaseDeclaration.exists_add_of_addTo htree'
    rw [← TreeBuilder.nextPosition_of_add hadd]
    exact ih tree'

/-- **The fault of a declaration is the first** of all that are wrong with it, in the order in which
it is declared. A case is named by the number of its entry, and a member by the number of the entry
and its own, with a point between them. -/
theorem Declaration.tree_first_fault (d : Declaration) (directory : Path) :
    (∀ fault, d.tree directory = .error fault ↔ d.faults.head? = some fault) ∧
      (∀ entry, (CaseLabel.mk entry none).text = toString entry) ∧
      ∀ entry member,
        (CaseLabel.mk entry (some member)).text = toString entry ++ "." ++ toString member := by
  have hreports : Reports (d.tree directory) d.faults :=
    (reports_checkFactor d.wallTimeFactor).bind fun factor _ ↦
      (reports_addEntries d.cases .empty).bind_pure
  exact ⟨fun fault ↦ hreports.eq_error_iff, fun entry ↦ rfl, fun entry member ↦ rfl⟩

end ContestJudge.Problem
