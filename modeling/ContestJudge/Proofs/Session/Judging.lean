import ContestJudge.Proofs.Case.Runs
import ContestJudge.Proofs.Grading.Launches
import ContestJudge.Proofs.Session.Threading
import ContestJudge.Sandbox.Playback
import ContestJudge.Session.Judging

/-!
# Every case is judged once

The cases of a tree are judged one after the other, each once, whatever became of those before
(`Threads`). That they are shown in runs plays no part in it: judging runs is judging the cases that
they hold (`judgeRuns_eq`), and the runs hold the cases of the tree.

* `judgeEach_spec` — what judging some cases comes to, by induction on the cases;
* `Grader.launchesEachOnce` — what is launched meanwhile: at most once for each case, in order;
* `judgeCases_each_once` — both for all cases of a tree, with the record and the watcher.

A judge is any function that may have no answer, so nothing is assumed of it but that it gives its
answer and the next world. If it has an answer for each case, so has the whole tree; otherwise the
tree has none, since there is nothing to go on with.

What is launched is read off a log, as for a single case (`Grader.grade_logging`). It is for graders
whose launches are a function of the case, and whose cases come back as they went in
(`Grader.Keeps`), that one can say beforehand what the log will be.
-/

namespace ContestJudge

variable {ε σ : Type} {judge : CaseJudge ε} {watch : Watcher σ}

/-- The cases of a tree, in order. -/
def CaseTree.cases (t : CaseTree) : List Case := t.flatten.map (·.2)

/-! ### One case after the other -/

/-- What becomes of a case that is judged. -/
def Graded.judged (graded : Graded) (number : Nat) (c : Case) : JudgedCase :=
  ⟨⟨number, c.batch, c.position⟩, graded⟩

theorem judgeEach_cons (number : Nat) (c : Case) (rest : List Case) (seen : σ) (w : World ε) :
    judgeEach judge watch number (c :: rest) seen w = (judge c w).bind fun p ↦
      (judgeEach judge watch (number + 1) rest (watch seen (p.1.judged number c)) p.2).map fun q ↦
        (p.1.judged number c :: q.1, q.2) := by
  rw [judgeEach]
  refine congrArg _ (funext fun p ↦ ?_)
  rw [Option.map_eq_bind]
  rfl

theorem judgeRuns_cons (number : Nat) (batch : Option Nat) (cases : List (Option Nat × Case))
    (rest : List (Option Nat × List (Option Nat × Case))) (seen : σ) (w : World ε) :
    judgeRuns judge watch number ((batch, cases) :: rest) seen w =
      (judgeEach judge watch number (cases.map (·.2)) seen w).bind fun p ↦
        (judgeRuns judge watch (number + cases.length) rest p.2.1 p.2.2).map fun q ↦
          (⟨batch, p.1⟩ :: q.1, q.2) := by
  rw [judgeRuns]
  refine congrArg _ (funext fun p ↦ ?_)
  rw [Option.map_eq_bind]
  rfl

/-- **Judging some cases** judges each of them once, in order, and numbers them from the first on;
the watcher sees each of them. -/
theorem judgeEach_spec {number : Nat} {cases : List Case} {seen seen' : σ} {w w' : World ε}
    {judged : List JudgedCase}
    (h : judgeEach judge watch number cases seen w = some (judged, seen', w')) :
    Threads judge cases w (judged.map (·.graded)) w' ∧
      judged.map (·.id) = cases.mapIdx (fun i c ↦ ⟨number + i, c.batch, c.position⟩) ∧
      seen' = judged.foldl watch seen := by
  induction cases generalizing number seen w judged with
  | nil =>
    cases h
    exact ⟨.nil, rfl, rfl⟩
  | cons c rest ih =>
    rw [judgeEach_cons] at h
    obtain ⟨⟨graded, w₁⟩, hgraded, h⟩ := Option.bind_eq_some_iff.1 h
    obtain ⟨⟨more, seen'', w''⟩, hmore, h⟩ := Option.map_eq_some_iff.1 h
    cases h
    obtain ⟨hrest, hids, hseen⟩ := ih hmore
    refine ⟨.cons hgraded hrest, ?_, hseen⟩
    rw [List.map_cons, hids, List.mapIdx_cons]
    simp only [Nat.add_comm, Nat.add_left_comm]
    rfl

/-- Judging some cases ends, if judging each of them does. -/
theorem exists_judgeEach (h : ∀ c w, ∃ p, judge c w = some p) (number : Nat) (cases : List Case)
    (seen : σ) (w : World ε) : ∃ p, judgeEach judge watch number cases seen w = some p := by
  induction cases generalizing number seen w with
  | nil => exact ⟨_, rfl⟩
  | cons c rest ih =>
    obtain ⟨⟨graded, w₁⟩, hgraded⟩ := h c w
    obtain ⟨p, hp⟩ := ih (number + 1) (watch seen (graded.judged number c)) w₁
    rw [judgeEach_cons, hgraded, Option.bind_some, hp]
    exact ⟨_, rfl⟩

/-! ### Runs of cases -/

theorem judgeEach_append (number : Nat) (cases more : List Case) (seen : σ) (w : World ε) :
    judgeEach judge watch number (cases ++ more) seen w =
      (judgeEach judge watch number cases seen w).bind fun p ↦
        (judgeEach judge watch (number + cases.length) more p.2.1 p.2.2).map fun q ↦
          (p.1 ++ q.1, q.2) := by
  induction cases generalizing number seen w with
  | nil => simp [judgeEach]
  | cons c rest ih =>
    rw [List.cons_append, judgeEach_cons, judgeEach_cons, Option.bind_assoc]
    refine congrArg _ (funext fun p ↦ ?_)
    rw [ih, Option.map_bind, Option.bind_map, List.length_cons, Nat.add_assoc, Nat.add_comm 1]
    refine congrArg _ (funext fun q ↦ ?_)
    rw [Function.comp_apply, Function.comp_apply, Option.map_map]
    rfl

/-- **Judging runs is judging the cases in them.** -/
theorem judgeRuns_eq (number : Nat) (runs : List (Option Nat × List (Option Nat × Case))) (seen : σ)
    (w : World ε) :
    (judgeRuns judge watch number runs seen w).map (fun p ↦ (JudgedRun.allCases p.1, p.2)) =
      judgeEach judge watch number ((runs.flatMap (·.2)).map (·.2)) seen w := by
  induction runs generalizing number seen w with
  | nil => rfl
  | cons run rest ih =>
    obtain ⟨batch, cases⟩ := run
    rw [List.flatMap_cons, List.map_append, judgeEach_append, judgeRuns_cons, Option.map_bind,
      List.length_map]
    refine congrArg _ (funext fun p ↦ ?_)
    -- the next run is numbered on from the cases of this one
    rw [Function.comp_apply, ← ih, Option.map_map, Option.map_map]
    rfl

/-- Judging the cases of a tree is judging them one after the other. -/
theorem judgeCases_eq (judge : CaseJudge ε) (watch : Watcher σ) (tree : CaseTree) (seen : σ)
    (w : World ε) :
    (judgeCases judge watch tree seen w).map (fun p ↦ (JudgedRun.allCases p.1, p.2)) =
      judgeEach judge watch 1 tree.cases seen w := by
  rw [judgeCases, judgeRuns_eq, flatMap_runs]
  rfl

theorem entries_foldl_push (judged : List JudgedCase) (r : Record) :
    (judged.foldl (fun r c ↦ r.push c.id c.graded.verdict) r).entries =
      r.entries ++ judged.map fun c ↦ (c.id, c.graded.verdict) := by
  induction judged generalizing r with
  | nil => exact (List.append_nil _).symm
  | cons c rest ih => rw [List.foldl_cons, ih, Record.push, List.append_assoc]; rfl

/-- The record holds what was judged. -/
theorem JudgedRun.entries_record (runs : List JudgedRun) :
    (record runs).entries = (allCases runs).map fun c ↦ (c.id, c.graded.verdict) :=
  entries_foldl_push _ _

/-! ### Launches -/

section Launches

variable {judge' : CaseJudge (ε × List LaunchSpec)} {spec? : Case → Option LaunchSpec}

/-- What is launched for one case after the other. -/
theorem judgeEach_logging (h : ∀ c w log, judge' c (w.logged log) =
      (judge c w).map fun p ↦ (p.1, p.2.logged (log ++ (spec? c).toList)))
    (number : Nat) (cases : List Case) (seen : σ) (w : World ε) (log : List LaunchSpec) :
    judgeEach judge' watch number cases seen (w.logged log) =
      (judgeEach judge watch number cases seen w).map fun p ↦
        (p.1, p.2.1, p.2.2.logged (log ++ cases.filterMap spec?)) := by
  induction cases generalizing number seen w log with
  | nil => simp [judgeEach]
  | cons c rest ih =>
    rw [judgeEach_cons, judgeEach_cons, h, Option.bind_map, Option.map_bind]
    refine congrArg _ (funext fun p ↦ ?_)
    rw [Function.comp_apply, Function.comp_apply, ih, Option.map_map, Option.map_map]
    refine congrArg (Option.map · _) (funext fun q ↦ ?_)
    rw [Function.comp_apply, Function.comp_apply, List.append_assoc, List.filterMap_cons]
    cases spec? c <;> rfl

/-- What is launched for one run of cases after the other. -/
theorem judgeRuns_logging (h : ∀ c w log, judge' c (w.logged log) =
      (judge c w).map fun p ↦ (p.1, p.2.logged (log ++ (spec? c).toList)))
    (number : Nat) (runs : List (Option Nat × List (Option Nat × Case))) (seen : σ) (w : World ε)
    (log : List LaunchSpec) :
    judgeRuns judge' watch number runs seen (w.logged log) =
      (judgeRuns judge watch number runs seen w).map fun p ↦
        (p.1, p.2.1, p.2.2.logged (log ++ ((runs.flatMap (·.2)).map (·.2)).filterMap spec?)) := by
  induction runs generalizing number seen w log with
  | nil => simp [judgeRuns]
  | cons run rest ih =>
    obtain ⟨batch, cases⟩ := run
    rw [judgeRuns_cons, judgeRuns_cons, judgeEach_logging h, Option.bind_map, Option.map_bind]
    refine congrArg _ (funext fun p ↦ ?_)
    rw [Function.comp_apply, Function.comp_apply, ih, Option.map_map, Option.map_map]
    refine congrArg (Option.map · _) (funext fun q ↦ ?_)
    rw [Function.comp_apply, Function.comp_apply, List.append_assoc, List.flatMap_cons,
      List.map_append, List.filterMap_append]

end Launches

/-- **A grader that launches at most one program for each case**, in order, and leaves the cases as
they are. Whatever the sandbox does, judging a tree with it goes the same when the sandbox logs, and
then the log is longer by what `spec?` says of each case. -/
structure Grader.LaunchesEachOnce (g : Grader) (spec? : Case → Option LaunchSpec) : Prop where
  logged : ∀ {ε π σ : Type} (s : Sandbox ε π) (watch : Watcher σ) (tree : CaseTree) (seen : σ)
    (w : World ε) (log : List LaunchSpec),
    judgeCases (g.grade s.logging) watch tree seen (w.logged log) =
      (judgeCases (g.grade s) watch tree seen w).map fun p ↦
        (p.1, p.2.1, p.2.2.logged (log ++ tree.cases.filterMap spec?))
  loads : ∀ {ε π : Type} {s : Sandbox ε π} {c : Case} {w w' : World ε} {graded : Graded},
    g.grade s c w = some (graded, w') → c.Loads graded.case

theorem Grader.launchesEachOnce {g : Grader} {spec? : Case → Option LaunchSpec}
    (hprepares : g.PreparesAs spec?) (hkeeps : g.Keeps) : g.LaunchesEachOnce spec? := by
  refine ⟨fun s watch tree seen w log ↦ ?_, hkeeps.loads⟩
  rw [judgeCases, judgeRuns_logging fun c w log ↦ grade_logging hprepares, flatMap_runs]
  rfl

/-- **Every case is judged once.** Judging the cases of a tree ends if judging each of them does.
Whenever it ends, the cases were judged in order, numbered from one; the record and whoever watches
get the verdict of each case with its number, its batch and its position, in the same order; and who
watches gets the case itself, from a judge that only reads its data.

Validators and solutions launch at most one program for each case, in order: their own, with their
own arguments first, under the limits and with the links of that case. -/
theorem judgeCases_each_once :
    (∀ {ε σ : Type} (judge : CaseJudge ε) (watch : Watcher σ) (tree : CaseTree) (seen : σ)
        (w : World ε),
      ((∀ c w, ∃ p, judge c w = some p) → ∃ p, judgeCases judge watch tree seen w = some p) ∧
      ∀ {runs seen' w'}, judgeCases judge watch tree seen w = some (runs, seen', w') →
        let judged := JudgedRun.allCases runs
        Threads judge tree.cases w (judged.map (·.graded)) w' ∧
        judged.map (·.id) = tree.cases.mapIdx (fun i c ↦ ⟨i + 1, c.batch, c.position⟩) ∧
        (JudgedRun.record runs).entries = judged.map (fun c ↦ (c.id, c.graded.verdict)) ∧
        seen' = judged.foldl watch seen ∧
        ((∀ {c w graded w'}, judge c w = some (graded, w') → c.Loads graded.case) →
          List.Forall₂ (fun c c' ↦ c.Loads c'.graded.case) tree.cases judged)) ∧
    (∀ v : Validator, v.grader.LaunchesEachOnce v.spec? ∧
      ∀ c spec, v.spec? c = some spec ↔ ∃ arguments limits,
        Template.arguments v.arguments c.batch c.position = .ok arguments ∧
        v.limits.scaled c.data.settings.wallTimeFactor = .ok limits ∧
        spec = {
          program := v.executable.program
          arguments := v.executable.arguments ++ arguments
          limits
          links := c.data.settings.links }) ∧
    ∀ s : Solution, s.grader.LaunchesEachOnce s.spec? ∧
      ∀ c spec, s.spec? c = some spec ↔ c.data.expected ≠ none ∧ ∃ limits,
        s.limits.scaled c.data.settings.wallTimeFactor = .ok limits ∧
        spec = {
          program := s.executable.program
          arguments := s.executable.arguments
          limits
          links := c.data.settings.links } := by
  refine ⟨fun judge watch tree seen w ↦ ⟨fun h ↦ ?_, fun {runs seen' w'} h ↦ ?_⟩,
    fun v ↦ ⟨Grader.launchesEachOnce v.preparesAs v.keeps, fun _ _ ↦ Validator.spec?_eq_some_iff⟩,
    fun s ↦ ⟨Grader.launchesEachOnce s.preparesAs s.keeps, fun _ _ ↦ Solution.spec?_eq_some_iff⟩⟩
  · obtain ⟨p, hp⟩ := exists_judgeEach h 1 tree.cases seen w
    rw [← judgeCases_eq] at hp
    obtain ⟨q, hq, -⟩ := Option.map_eq_some_iff.1 hp
    exact ⟨q, hq⟩
  · have hjudged := judgeCases_eq judge watch tree seen w
    rw [h] at hjudged
    obtain ⟨hthreads, hids, hseen⟩ := judgeEach_spec hjudged.symm
    refine ⟨hthreads, ?_, JudgedRun.entries_record runs, hseen, fun hloads ↦ ?_⟩
    · simpa only [Nat.add_comm 1] using hids
    · have hcases : List.Forall₂ (fun c graded ↦ c.Loads graded.case) tree.cases
          ((JudgedRun.allCases runs).map (·.graded)) := hthreads.forall₂ hloads
      rw [List.forall₂_map_right_iff] at hcases
      exact hcases

/-! ### A tree with a batch -/

/-- A validator with an argument of its own, to which the place of each case is added. -/
def numbered : Validator where
  executable := .precompiled "check" ["strict"]
  limits := .ofTime (.ofMillis 1000) 1000
  arguments := "\x7bbatch_no\x7d \x7bcase_no\x7d"

/-- A case that stands alone, and a batch of two. -/
def mixedTree : CaseTree :=
  let data : CaseData := { input := .memory [], expected := none, points := 5, settings := {} }
  ⟨[.single ⟨none, 1, data⟩, .batch 1 2 10 (placeInBatch 1 1 [data, data])]⟩

/-- A launch that fails. -/
def unlaunchable : Take := ⟨some 0, some .programNotFound, default⟩

/-- Someone who remembers which cases were judged. -/
def rememberIds : Watcher (List CaseId) := fun ids c ↦ ids ++ [c.id]

/-- All three cases are judged although no launch succeeds, and each launch is tried once. -/
theorem judgeCases_each_once_mixed : ∃ runs ids w',
    judgeCases (numbered.grader.grade (Sandbox.playback unlaunchable).logging) rememberIds mixedTree
      [] (World.logged ⟨default, []⟩ []) = some (runs, ids, w') ∧
    ids = [⟨1, none, 1⟩, ⟨2, some 1, 1⟩, ⟨3, some 1, 2⟩] ∧
    (JudgedRun.record runs).entries.map (·.1) = ids ∧
    w'.extra.2.map (·.arguments) =
      [["strict", "0", "1"], ["strict", "1", "1"], ["strict", "1", "2"]] := by
  have hids : (judgeCases (numbered.grader.grade (Sandbox.playback unlaunchable)) rememberIds
      mixedTree [] ⟨default, []⟩).map (·.2.1) =
        some [⟨1, none, 1⟩, ⟨2, some 1, 1⟩, ⟨3, some 1, 2⟩] := by
    decide +kernel
  have hspecs : (mixedTree.cases.filterMap numbered.spec?).map (·.arguments) =
      [["strict", "0", "1"], ["strict", "1", "1"], ["strict", "1", "2"]] := by
    decide +kernel
  obtain ⟨⟨runs, ids, w'⟩, hjudged, hseen⟩ := Option.map_eq_some_iff.1 hids
  obtain ⟨heach, hvalidators, -⟩ := judgeCases_each_once
  obtain ⟨-, hnumbers, hrecord, -, -⟩ := (heach _ _ _ _ _).2 hjudged
  refine ⟨runs, ids, w'.logged ([] ++ mixedTree.cases.filterMap numbered.spec?), ?_, hseen, ?_, ?_⟩
  · rw [(hvalidators numbered).1.logged, hjudged]
    rfl
  · rw [hrecord, List.map_map]
    exact hnumbers.trans hseen.symm
  · rw [World.logged, List.nil_append]
    exact hspecs

end ContestJudge
