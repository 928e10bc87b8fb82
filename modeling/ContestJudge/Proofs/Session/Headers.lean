import ContestJudge.Proofs.Case.Tree
import ContestJudge.Proofs.Session.Judging

/-!
# Headers of batches

The cases of a tree are shown in runs, and a run is shown under the header of its batch. Nothing is
lost when the batches of the tree are given up for the list of its cases and found again as runs of
that list: what is shown is the same as if each entry of the tree were a run
(`judgeShown_joinLoose`), since loose cases have no header and are shown alike in one run or in
several.

So what is shown of a tree that was built has one header for each batch, in order, the cases of the
batch after it, and those cases only are indented.

* `exists_shown_of_judgeCases` — a tree is shown by its entries. This rests on the runs of a tree
  being its entries with loose cases joined (`CaseTree.Numbered.runs_flatten`).
* `takeWhile_after_header` — the cases of a batch come after its header, up to another header or a
  case in no batch. The other direction is `isSome_batch_iff`: an indented case is one of the batch
  whose header is the last before it.
* `indented_iff` — that a case is indented is said of the printed text, whatever its palette.
* `batches_shown` — all of this for a tree that was built by additions, whose batches are numbered
  from one on.

Judging keeps the keys of the groups (`groupKeys_of_judgeRuns`): there is a judged case for each
case, in the same batch. So what is known of the groups of a tree is known of what is shown.
-/

namespace ContestJudge

open Console (Line)

/-! ### Items of lists that were put together -/

/-- An item of two lists is in the first or in the second. -/
theorem append_eq_append_cons {α : Type _} {l l' front rest : List α} {a : α}
    (h : l ++ l' = front ++ a :: rest) :
    (∃ more, l = front ++ a :: more ∧ rest = more ++ l') ∨
      ∃ more, front = l ++ more ∧ l' = more ++ a :: rest := by
  rcases List.append_eq_append_iff.1 h with ⟨more, hfront, hmore⟩ | ⟨- | ⟨a', more⟩, hl, hmore⟩
  · exact .inr ⟨more, hfront, hmore⟩
  · exact .inr ⟨[], by rw [hl, List.append_nil, List.append_nil], hmore.symm⟩
  · obtain ⟨rfl, rfl⟩ := List.cons.inj hmore
    exact .inl ⟨more, hl, rfl⟩

/-- An item of a list that was put together from parts is in one of the parts. -/
theorem exists_of_flatMap_eq {α β : Type _} {f : α → List β} {l : List α} {front rest : List β}
    {b : β} (h : l.flatMap f = front ++ b :: rest) :
    ∃ before a after front' rest', l = before ++ a :: after ∧ f a = front' ++ b :: rest' ∧
      front = before.flatMap f ++ front' ∧ rest = rest' ++ after.flatMap f := by
  induction l generalizing front with
  | nil => simp at h
  | cons a l ih =>
    rw [List.flatMap_cons] at h
    rcases append_eq_append_cons h with ⟨more, ha, hrest⟩ | ⟨more, hfront, hmore⟩
    · exact ⟨[], a, l, front, more, rfl, ha, rfl, hrest⟩
    · obtain ⟨before, a', after, front', rest', rfl, ha', rfl, hrest⟩ := ih hmore
      refine ⟨a :: before, a', after, front', rest', rfl, ha', ?_, hrest⟩
      rw [hfront, List.flatMap_cons, List.append_assoc]

/-! ### Lines -/

namespace Console.Line

/-- The number of the batch that a line starts. -/
def header? : Line → Option Nat
  | batchHeader batch => some batch
  | _ => none

/-- Whether a line is the status of a case in a batch. -/
def isMember : Line → Bool
  | caseStatus id _ => id.batch.isSome
  | _ => false

/-- The status of a case begins with its indent. -/
theorem text_caseStatus (palette : Palette) (id : CaseId) (verdict : Verdict) :
    ∃ rest, ((caseStatus id verdict).text palette).toList =
      (if id.batch.isSome then [' ', ' '] else []) ++ 'T' :: rest := by
  have htext : (caseStatus id verdict).text palette = caseLine palette id verdict ++ "\n" := rfl
  have hstart : "Test case ".toList = 'T' :: "est case ".toList := rfl
  rw [htext, caseLine]
  simp only [String.append_assoc]
  rw [String.toList_append, String.toList_append, hstart, List.cons_append]
  cases id.batch.isSome
  · exact ⟨_, rfl⟩
  · exact ⟨_, rfl⟩

/-- **Cases in a batch are indented**, and no other cases. -/
theorem indented_iff (palette : Palette) (id : CaseId) (verdict : Verdict) :
    [' ', ' '] <+: ((caseStatus id verdict).text palette).toList ↔ id.batch.isSome = true := by
  obtain ⟨rest, htext⟩ := text_caseStatus palette id verdict
  rw [htext]
  cases id.batch.isSome
  · simp
  · exact iff_of_true (List.prefix_append _ _) rfl

end Console.Line

variable {ε σ : Type} {judge : CaseJudge ε} {watch : Watcher σ}

/-- The line of a case. -/
def JudgedCase.line (c : JudgedCase) : Line := .caseStatus c.id c.graded.verdict

/-! ### Runs and what is shown of them -/

section Joining

variable (judge watch)

/-- Judges runs of cases, and keeps of the runs what is shown and the cases. -/
def judgeShown (number : Nat) (runs : List (Option Nat × List (Option Nat × Case))) (seen : σ)
    (w : World ε) : Option ((List Line × List JudgedCase) × σ × World ε) :=
  (judgeRuns judge watch number runs seen w).map fun p ↦
    ((p.1.flatMap JudgedRun.lines, JudgedRun.allCases p.1), p.2)

theorem judgeShown_cons (number : Nat) (batch : Option Nat) (cases : List (Option Nat × Case))
    (rest : List (Option Nat × List (Option Nat × Case))) (seen : σ) (w : World ε) :
    judgeShown judge watch number ((batch, cases) :: rest) seen w =
      (judgeEach judge watch number (cases.map (·.2)) seen w).bind fun p ↦
        (judgeShown judge watch (number + cases.length) rest p.2.1 p.2.2).map fun q ↦
          ((JudgedRun.lines ⟨batch, p.1⟩ ++ q.1.1, p.1 ++ q.1.2), q.2) := by
  rw [judgeShown, judgeRuns_cons, Option.map_bind]
  refine congrArg _ (funext fun p ↦ ?_)
  rw [Function.comp_apply, judgeShown, Option.map_map, Option.map_map]
  rfl

/-- Loose cases are shown alike in one run and in two. -/
theorem judgeShown_append (number : Nat) (items more : List (Option Nat × Case))
    (rest : List (Option Nat × List (Option Nat × Case))) (seen : σ) (w : World ε) :
    judgeShown judge watch number ((none, items ++ more) :: rest) seen w =
      judgeShown judge watch number ((none, items) :: (none, more) :: rest) seen w := by
  rw [judgeShown_cons, judgeShown_cons, List.map_append, judgeEach_append, Option.bind_assoc]
  refine congrArg _ (funext fun p ↦ ?_)
  rw [judgeShown_cons, Option.map_bind, Option.bind_map, List.length_map, List.length_append,
    Nat.add_assoc]
  refine congrArg _ (funext fun q ↦ ?_)
  rw [Function.comp_apply, Function.comp_apply, Option.map_map]
  refine congrArg (Option.map · _) (funext fun r ↦ ?_)
  simp [JudgedRun.lines]

/-- **Joining loose cases changes nothing in what is shown**, nor in what is judged. -/
theorem judgeShown_joinLoose (number : Nat)
    (groups : List (Option Nat × List (Option Nat × Case))) (seen : σ) (w : World ε) :
    judgeShown judge watch number (joinLoose groups) seen w =
      judgeShown judge watch number groups seen w := by
  induction groups generalizing number seen w with
  | nil => rfl
  | cons group rest ih =>
    have hcons (batch : Option Nat) (items : List (Option Nat × Case)) :
        judgeShown judge watch number ((batch, items) :: joinLoose rest) seen w =
          judgeShown judge watch number ((batch, items) :: rest) seen w := by
      simp only [judgeShown_cons, ih]
    obtain ⟨- | batch, items⟩ := group
    · rw [joinLoose, ← hcons]
      split
      case h_1 more others hjoined => rw [judgeShown_append, hjoined]
      case h_2 => rfl
    · exact hcons (some batch) items

end Joining

/-! ### Runs that are groups -/

/-- The batches of judged cases are those of the cases. -/
theorem batches_of_judgeEach {number : Nat} {cases : List Case} {seen seen' : σ} {w w' : World ε}
    {judged : List JudgedCase}
    (h : judgeEach judge watch number cases seen w = some (judged, seen', w')) :
    judged.map (·.id.batch) = cases.map (·.batch) := by
  obtain ⟨-, hids, -⟩ := judgeEach_spec h
  have hbatches := congrArg (List.map CaseId.batch) hids
  rw [List.map_map] at hbatches
  refine hbatches.trans (List.ext_getElem (by simp) fun i hi hi' ↦ ?_)
  simp

/-- The cases of a run, under its batch. -/
def JudgedRun.group (run : JudgedRun) : Option Nat × List JudgedCase := (run.batch, run.cases)

/-- **Runs of cases are judged as runs of the same batches**, with a judged case for each case. -/
theorem groupKeys_of_judgeRuns {number : Nat}
    {groups : List (Option Nat × List (Option Nat × Case))} {seen seen' : σ} {w w' : World ε}
    {shown : List JudgedRun}
    (h : judgeRuns judge watch number groups seen w = some (shown, seen', w')) :
    (shown.map JudgedRun.group).map (groupKeys (·.id.batch)) =
      groups.map (groupKeys (·.2.batch)) := by
  induction groups generalizing number seen w shown with
  | nil =>
    cases h
    rfl
  | cons group rest ih =>
    obtain ⟨batch, cases⟩ := group
    rw [judgeRuns_cons] at h
    obtain ⟨⟨judged, seen₁, w₁⟩, hjudged, h⟩ := Option.bind_eq_some_iff.1 h
    obtain ⟨⟨others, p⟩, hothers, h⟩ := Option.map_eq_some_iff.1 h
    cases h
    rw [List.map_cons, List.map_cons, List.map_cons, ih hothers, JudgedRun.group, groupKeys,
      batches_of_judgeEach hjudged, List.map_map]
    rfl

namespace JudgedRun

variable {runs : List JudgedRun}

theorem allCases_eq (runs : List JudgedRun) : allCases runs = (runs.map group).flatMap (·.2) := by
  rw [List.flatMap_map]
  rfl

theorem lines_eq (run : JudgedRun) :
    run.lines = (run.batch.map Line.batchHeader).toList ++ run.cases.map JudgedCase.line := rfl

theorem filterMap_header?_map_line (cases : List JudgedCase) :
    (cases.map JudgedCase.line).filterMap Line.header? = [] := by
  refine List.filterMap_eq_nil_iff.2 fun line hline ↦ ?_
  obtain ⟨c, -, rfl⟩ := List.mem_map.1 hline
  rfl

/-- What is shown of runs has the headers of their batches. -/
theorem filterMap_header?_lines (runs : List JudgedRun) :
    (runs.flatMap lines).filterMap Line.header? = runs.filterMap (·.batch) := by
  induction runs with
  | nil => rfl
  | cons run rest ih =>
    rw [List.flatMap_cons, List.filterMap_append, ih, List.filterMap_cons, lines_eq,
      List.filterMap_append, filterMap_header?_map_line, List.append_nil]
    cases run.batch <;> rfl

/-- Apart from the headers, what is shown of runs is a line for each case. -/
theorem filter_header?_lines (runs : List JudgedRun) :
    (runs.flatMap lines).filter (·.header?.isNone) = (allCases runs).map JudgedCase.line := by
  induction runs with
  | nil => rfl
  | cons run rest ih =>
    have hheader : (run.batch.map Line.batchHeader).toList.filter (·.header?.isNone) = [] := by
      cases run.batch <;> rfl
    have hcases : (run.cases.map JudgedCase.line).filter (·.header?.isNone) =
        run.cases.map JudgedCase.line :=
      List.filter_eq_self.2 (List.forall_mem_map.2 fun _ _ ↦ rfl)
    rw [List.flatMap_cons, List.filter_append, ih, lines_eq, List.filter_append, hheader, hcases,
      List.nil_append, ← List.map_append]
    rfl

/-- A header is the first line of a run, and after it come the cases of the run. -/
theorem exists_of_header {front rest : List Line} {b : Nat}
    (h : runs.flatMap lines = front ++ .batchHeader b :: rest) :
    ∃ before run after, runs = before ++ run :: after ∧ run.batch = some b ∧
      rest = run.cases.map JudgedCase.line ++ after.flatMap lines := by
  obtain ⟨before, run, after, front', rest', rfl, hlines, -, rfl⟩ := exists_of_flatMap_eq h
  refine ⟨before, run, after, rfl, ?_⟩
  rw [lines_eq] at hlines
  rcases append_eq_append_cons hlines with ⟨more, hheader, rfl⟩ | ⟨more, -, hcases⟩
  · cases hbatch : run.batch with
    | none => simp [hbatch] at hheader
    | some k =>
      rw [hbatch] at hheader
      obtain ⟨-, hk⟩ | ⟨-, hnil⟩ := List.singleton_eq_append_iff.1 hheader
      · cases hk
        exact ⟨rfl, rfl⟩
      · cases hnil
  · obtain ⟨c, -, hc⟩ := List.mem_map.1 (hcases ▸ List.mem_append_right more List.mem_cons_self)
    cases hc

/-- The line of a case comes after the header of its run. -/
theorem exists_of_caseStatus {front rest : List Line} {id : CaseId} {verdict : Verdict}
    (h : runs.flatMap lines = front ++ .caseStatus id verdict :: rest) :
    ∃ before run after, runs = before ++ run :: after ∧ (∃ c ∈ run.cases, c.id = id) ∧
      front.filterMap Line.header? = before.filterMap (·.batch) ++ run.batch.toList := by
  obtain ⟨before, run, after, front', rest', rfl, hlines, rfl, -⟩ := exists_of_flatMap_eq h
  refine ⟨before, run, after, rfl, ?_⟩
  rw [List.filterMap_append, filterMap_header?_lines]
  rw [lines_eq] at hlines
  rcases append_eq_append_cons hlines with ⟨more, hheader, -⟩ | ⟨more, rfl, hcases⟩
  · have hmem : Line.caseStatus id verdict ∈ (run.batch.map Line.batchHeader).toList :=
      hheader ▸ List.mem_append_right front' List.mem_cons_self
    obtain ⟨k, -, hk⟩ := Option.map_eq_some_iff.1 (Option.mem_toList.1 hmem)
    cases hk
  · obtain ⟨shown, others, hsplit, rfl, hothers⟩ := List.map_eq_append_iff.1 hcases
    obtain ⟨c, later, rfl, hc, -⟩ := List.map_eq_cons_iff.1 hothers
    refine ⟨⟨c, hsplit ▸ List.mem_append_right _ List.mem_cons_self, ?_⟩, ?_⟩
    · cases hc
      rfl
    · rw [List.filterMap_append, filterMap_header?_map_line, List.append_nil]
      cases run.batch <;> rfl

/-- Runs do not begin with a case of a batch, but with its header. -/
theorem takeWhile_isMember_lines (h : ∀ run ∈ runs, ∀ c ∈ run.cases, c.id.batch = run.batch) :
    (runs.flatMap lines).takeWhile Line.isMember = [] := by
  induction runs with
  | nil => rfl
  | cons run rest ih =>
    rw [List.forall_mem_cons] at h
    rw [List.flatMap_cons, lines_eq]
    obtain ⟨- | b, - | ⟨c, cases⟩⟩ := run
    · exact ih h.2
    · have hbatch : c.id.batch = none := h.1 c List.mem_cons_self
      have hline : c.line.isMember = false := by
        rw [JudgedCase.line, Line.isMember, hbatch, Option.isSome_none]
      exact List.takeWhile_cons_of_neg (by simp [hline])
    · rfl
    · rfl

section Grouped

variable (h : Grouped (·.id.batch) (runs.map group)) {front rest : List Line}
include h

/-- The cases of a batch come after its header, up to another header or a case in no batch. -/
theorem takeWhile_after_header {b : Nat}
    (hlines : runs.flatMap lines = front ++ .batchHeader b :: rest) :
    rest.takeWhile Line.isMember =
      ((allCases runs).filter (·.id.batch == some b)).map JudgedCase.line := by
  obtain ⟨before, run, after, rfl, hrun, rfl⟩ := exists_of_header hlines
  have hkeys : ∀ run' ∈ before ++ run :: after, ∀ c ∈ run'.cases, c.id.batch = run'.batch :=
    List.forall_mem_map.1 h.keys
  have hmem : run ∈ before ++ run :: after := List.mem_append_right _ List.mem_cons_self
  have hgroup : (some b, run.cases) ∈ (before ++ run :: after).map group :=
    List.mem_map.2 ⟨run, hmem, by rw [group, hrun]⟩
  have hmembers : ∀ line ∈ run.cases.map JudgedCase.line, line.isMember = true := by
    refine List.forall_mem_map.2 fun c hc ↦ ?_
    rw [JudgedCase.line, Line.isMember, hkeys run hmem c hc, hrun, Option.isSome_some]
  have hafter : (after.flatMap lines).takeWhile Line.isMember = [] :=
    takeWhile_isMember_lines fun other hother ↦
      hkeys other (List.mem_append_right _ (List.mem_cons_of_mem _ hother))
  rw [List.takeWhile_append_of_pos hmembers, hafter, List.append_nil, allCases_eq,
    h.filter_eq hgroup]

/-- A case is in the batch of the last header before it, or in none. -/
theorem isSome_batch_iff {id : CaseId} {verdict : Verdict}
    (hlines : runs.flatMap lines = front ++ .caseStatus id verdict :: rest) :
    id.batch.isSome = true ↔
      ∃ b, (front.filterMap Line.header?).getLast? = some b ∧ id.batch = some b := by
  obtain ⟨before, run, after, rfl, ⟨c, hc, rfl⟩, hfront⟩ := exists_of_caseStatus hlines
  have hbatch : c.id.batch = run.batch :=
    List.forall_mem_map.1 h.keys run (List.mem_append_right _ List.mem_cons_self) c hc
  rw [hfront, hbatch]
  cases run.batch with
  | none => simp
  | some b => simp

end Grouped

end JudgedRun

/-! ### What is shown of a tree -/

/-- The cases of a batch are those that carry its number. -/
theorem CaseTree.Numbered.filter_cases {t : CaseTree} (h : t.Numbered) {number position : Nat}
    {points : Float} {cases : List Case} (hmem : .batch number position points cases ∈ t.nodes) :
    t.cases.filter (·.batch == some number) = cases := by
  have hgroup : (some number, cases.map fun c ↦ (some number, c)) ∈ t.nodes.map CaseNode.group :=
    List.mem_map.2 ⟨_, hmem, rfl⟩
  have hplaced : t.flatten.filter (·.2.batch == some number) =
      cases.map fun c ↦ (some number, c) := by
    rw [flatten_eq]
    exact h.grouped_batch.filter_eq hgroup
  calc t.cases.filter (·.batch == some number)
    _ = (t.flatten.filter (·.2.batch == some number)).map (·.2) := by
      rw [CaseTree.cases, List.filter_map]
      rfl
    _ = cases := by
      rw [hplaced, List.map_map]
      exact List.map_id cases

/-- **A tree is shown by its entries.** What is shown of its cases, and what they come to, is that
of runs with one run for each entry of the tree. -/
theorem exists_shown_of_judgeCases {tree : CaseTree} (htree : tree.Numbered) {seen seen' : σ}
    {w w' : World ε} {judged : List JudgedRun}
    (h : judgeCases judge watch tree seen w = some (judged, seen', w')) :
    ∃ shown : List JudgedRun, Grouped (·.id.batch) (shown.map JudgedRun.group) ∧
      shown.map (·.batch) = tree.nodes.map CaseNode.number? ∧
      judged.flatMap JudgedRun.lines = shown.flatMap JudgedRun.lines ∧
      JudgedRun.allCases judged = JudgedRun.allCases shown := by
  have hshown : judgeShown judge watch 1 (tree.nodes.map CaseNode.group) seen w =
      some ((judged.flatMap JudgedRun.lines, JudgedRun.allCases judged), seen', w') := by
    rw [← judgeShown_joinLoose, ← htree.runs_flatten, judgeShown, ← judgeCases, h, Option.map_some]
  obtain ⟨⟨shown, p⟩, hruns, heq⟩ := Option.map_eq_some_iff.1 hshown
  obtain ⟨hsame, -⟩ := Prod.mk.inj heq
  obtain ⟨hlines, hcases⟩ := Prod.mk.inj hsame
  have hkeys := groupKeys_of_judgeRuns hruns
  refine ⟨shown, htree.grouped_batch.congr hkeys, ?_, hlines.symm, hcases.symm⟩
  have hbatches := congrArg (List.map Prod.fst) hkeys
  rw [List.map_map, List.map_map, List.map_map, List.map_map] at hbatches
  exact hbatches

/-- **Batches are shown as they were built.** Judging a tree that was built ends if judging each
case does. Whenever it ends, what is shown has the headers `1`, `2`, … up to the number of batches
that were added. The cases of a batch come right after its header, in order, and are followed by the
next header or by a case in no batch. Exactly those cases are indented whose batch is that of the
last header before them. So cutting the list of cases into runs gives the batches back. -/
theorem batches_shown {additions : List Addition} {tree : CaseTree}
    (hbuild : CaseTree.build additions = .ok tree) (judge : CaseJudge ε) (watch : Watcher σ)
    (seen : σ) (w : World ε) :
    ((∀ c w, ∃ p, judge c w = some p) → ∃ p, judgeCases judge watch tree seen w = some p) ∧
    (∀ {judgedRuns seen' w'}, judgeCases judge watch tree seen w = some (judgedRuns, seen', w') →
      let lines := judgedRuns.flatMap JudgedRun.lines
      let judged := JudgedRun.allCases judgedRuns
      judged.map (·.id) = tree.cases.mapIdx (fun i c ↦ ⟨i + 1, c.batch, c.position⟩) ∧
      lines.filter (·.header?.isNone) = judged.map JudgedCase.line ∧
      lines.filterMap Line.header? = List.range' 1 (additions.countP Addition.isBatch) ∧
      (∀ {front b rest}, lines = front ++ .batchHeader b :: rest →
        ∃ position points,
          .batch b position points (tree.cases.filter (·.batch == some b)) ∈ tree.nodes ∧
          rest.takeWhile Line.isMember =
            (judged.filter (·.id.batch == some b)).map JudgedCase.line) ∧
      ∀ {front id verdict rest}, lines = front ++ .caseStatus id verdict :: rest → ∀ palette,
        ([' ', ' '] <+: ((Line.caseStatus id verdict).text palette).toList ↔
          ∃ b, (front.filterMap Line.header?).getLast? = some b ∧ id.batch = some b)) ∧
    (runs (·.1) tree.flatten).filter (·.1.isSome) =
      (tree.nodes.map CaseNode.group).filter (·.1.isSome) := by
  obtain ⟨htree, hcount⟩ := CaseTree.numbered_of_build hbuild
  refine ⟨fun hends ↦ ?_, fun {judgedRuns seen' w'} hjudged ↦ ?_, ?_⟩
  · obtain ⟨p, hp⟩ := exists_judgeEach hends 1 tree.cases seen w
    rw [← judgeCases_eq] at hp
    obtain ⟨q, hq, -⟩ := Option.map_eq_some_iff.1 hp
    exact ⟨q, hq⟩
  · have heach := judgeCases_eq judge watch tree seen w
    rw [hjudged] at heach
    obtain ⟨-, hids, -⟩ := judgeEach_spec heach.symm
    obtain ⟨shown, hgrouped, hbatches, hlines, hcases⟩ := exists_shown_of_judgeCases htree hjudged
    have hheaders : (judgedRuns.flatMap JudgedRun.lines).filterMap Line.header? =
        tree.nodes.filterMap CaseNode.number? := by
      have hnumbers := congrArg (List.filterMap id) hbatches
      rw [List.filterMap_map, List.filterMap_map] at hnumbers
      rw [hlines, JudgedRun.filterMap_header?_lines]
      exact hnumbers
    refine ⟨?_, JudgedRun.filter_header?_lines judgedRuns, ?_, fun {front b rest} h ↦ ?_,
      fun {front id verdict rest} h palette ↦ ?_⟩
    · simpa only [Nat.add_comm 1] using hids
    · rw [hheaders, htree.numbers, hcount]
    · have hb : b ∈ tree.nodes.filterMap CaseNode.number? := by
        rw [← hheaders, h]
        exact List.mem_filterMap.2 ⟨_, List.mem_append_right _ List.mem_cons_self, rfl⟩
      obtain ⟨node, hnode, hnumber⟩ := List.mem_filterMap.1 hb
      rcases node with c | ⟨number, position, points, cases⟩
      · cases hnumber
      obtain rfl : number = b := Option.some.inj hnumber
      refine ⟨position, points, ?_, ?_⟩
      · rw [htree.filter_cases hnode]
        exact hnode
      · rw [hcases]
        exact JudgedRun.takeWhile_after_header hgrouped (hlines ▸ h)
    · rw [Line.indented_iff]
      exact JudgedRun.isSome_batch_iff hgrouped (hlines ▸ h)
  · rw [htree.runs_flatten, filter_joinLoose]

/-- Cases that stand alone before, between and after batches, and two batches side by side. -/
def scattered : List Addition :=
  let data : CaseData := { input := .memory [], expected := none, points := 5, settings := {} }
  [.case data, .batch 10 [data, data], .batch 5 [data], .case data, .case data, .batch 5 [data]]

/-- Each of the three batches has its header, also the second, which follows the first at once. -/
theorem batches_shown_scattered : ∃ tree judgedRuns p,
    CaseTree.build scattered = .ok tree ∧
    judgeCases (numbered.grader.grade (Sandbox.playback unlaunchable)) rememberIds tree []
      ⟨default, []⟩ = some (judgedRuns, p) ∧
    (judgedRuns.flatMap JudgedRun.lines).filterMap Line.header? = [1, 2, 3] ∧
    (judgedRuns.flatMap JudgedRun.lines).map Line.isMember =
      [false, false, true, true, false, true, false, false, false, true] := by
  obtain ⟨tree, hbuild⟩ : ∃ tree, CaseTree.build scattered = .ok tree := ⟨_, rfl⟩
  have hmembers : (judgeCases (numbered.grader.grade (Sandbox.playback unlaunchable)) rememberIds
      tree [] ⟨default, []⟩).map (fun p ↦ (p.1.flatMap JudgedRun.lines).map Line.isMember) =
        some [false, false, true, true, false, true, false, false, false, true] := by
    obtain rfl := Except.ok.inj hbuild
    decide +kernel
  obtain ⟨⟨judgedRuns, p⟩, hjudged, hshown⟩ := Option.map_eq_some_iff.1 hmembers
  have hspec := batches_shown hbuild (numbered.grader.grade (Sandbox.playback unlaunchable))
    rememberIds [] ⟨default, []⟩
  obtain ⟨-, -, hheaders, -⟩ := hspec.2.1 hjudged
  exact ⟨tree, judgedRuns, p, hbuild, hjudged, hheaders, hshown⟩

end ContestJudge
