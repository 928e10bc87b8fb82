import ContestJudge.CommandLine.Execution
import ContestJudge.Proofs.Session.Threading
import ContestJudge.Proofs.Verdict.Flags
import Mathlib.Data.List.Perm.Basic

/-!
# How many problems fail

Problems are validated one after the other, also after failures, and the failures are counted. An
unknown id ends that before it begins.

* `Session.validateMany_eq_ok_iff` — validating problems that are known is validating each of them,
  in order, from the world that the one before left behind;
* `Session.validateMany_counts` — what the count says of the problems, how it adds up, and how the
  exit code tells whether it is zero.

## What order changes

Since the worlds differ, the order may matter: building one problem may change what another one
finds (`validateMany_order_matters`). It does not for problems of which each fails or not whatever
was validated before (`Session.Independent`). There failures are counted problem by problem, so
neither order nor grouping changes their number (`Session.Independent.failures_eq`). A list that is
split into two is validated in two parts, with the second starting where the first one ended
(`Session.validateMany_append_iff`), and failures add up in any case.

## The exit code

A process has no more than a byte for its exit code, so there are more numbers of failures than
codes. The code says whether there is a failure, and it never says that there is none when there is
one (`exitCode_eq_zero_iff`).
-/

namespace ContestJudge

variable {ε π : Type}

/-! ### Failures -/

/-- **What it means to fail**: to be wrongly declared, to follow an unknown convention, to have a
validator that cannot be built, or to have a case with a flag. Points play no part in it. -/
theorem ValidationOutcome.failed_iff {outcome : ValidationOutcome} :
    outcome.failed = true ↔ (∃ fault, outcome = .invalid fault) ∨
      (∃ name, outcome = .unknownConvention name) ∨ (∃ fault, outcome = .notBuilt fault) ∨
      ∃ runs, outcome = .validated runs ∧
        ∃ e ∈ (JudgedRun.record runs).entries, e.2.flags.toList ≠ [] := by
  cases outcome with
  | skipped reason => simp [failed]
  | invalid fault => simp [failed]
  | unknownConvention name => simp [failed]
  | notBuilt fault => simp [failed]
  | validated runs => simp [failed, Record.failed, Verdict.isAccepted, Flags.toList_eq_nil_iff]

/-- Validations fail as often as those before some place and those after it. -/
theorem Validation.failures_append (vs vs' : List Validation) :
    failures (vs ++ vs') = failures vs + failures vs' :=
  List.countP_append

/-- **The exit code is zero only for no failure**, however many there are. -/
theorem exitCode_eq_zero_iff {fails : Nat} : exitCode fails = 0 ↔ fails = 0 := by
  rw [exitCode]
  omega

namespace Session

variable {s : Session ε π} {ids : List String} {w w' : World ε} {vs : List Validation}

/-! ### One problem after the other -/

/-- The ids that belong to no problem, in their order. -/
def unknown (s : Session ε π) (ids : List String) : List String :=
  ids.filter fun id ↦ !s.problems.contains id

/-- The problems of some ids. -/
def known (s : Session ε π) (ids : List String) : List (String × Path) :=
  ids.filterMap fun id ↦ (s.problems.get? id).map (id, ·)

theorem validate_of_get? {id : String} {directory : Path}
    (hget : s.problems.get? id = some directory) (w : World ε) :
    s.validate id w = .ok ((s.validateIn directory w).map fun p ↦ (⟨id, p.1⟩, p.2)) := by
  rw [validate, hget]

/-- Validates a problem, if it is known and that ends. -/
def validate? (s : Session ε π) (id : String) (w : World ε) : Option (Validation × World ε) :=
  (s.validate id w).toOption.join

theorem validate?_eq_some_iff {id : String} {p : Validation × World ε} :
    s.validate? id w = some p ↔ s.validate id w = .ok (some p) := by
  rw [validate?]
  rcases s.validate id w with fault | - | q <;> simp [Except.toOption]

theorem validateKnown_cons (id : String) (directory : Path) (rest : List (String × Path))
    (w : World ε) :
    s.validateKnown ((id, directory) :: rest) w = (s.validateIn directory w).bind fun p ↦
      (s.validateKnown rest p.2).map fun q ↦ (⟨id, p.1⟩ :: q.1, q.2) := by
  rw [validateKnown]
  refine congrArg _ (funext fun p ↦ ?_)
  rw [Option.map_eq_bind]
  rfl

/-- **Known problems are validated in order**, each from the world that the one before left. -/
theorem validateKnown_eq_some_iff (hknown : s.unknown ids = []) :
    s.validateKnown (s.known ids) w = some (vs, w') ↔ Threads s.validate? ids w vs w' := by
  induction ids generalizing w vs with
  | nil =>
    constructor
    · rintro ⟨⟩
      exact .nil
    · rintro ⟨⟩
      rfl
  | cons id rest ih =>
    rw [unknown, List.filter_cons] at hknown
    rcases hget : s.problems.get? id with - | directory
    · simp [NameMap.contains, hget] at hknown
    have hrest : s.unknown rest = [] := by
      simpa [NameMap.contains, hget, unknown] using hknown
    have hfirst : s.validate? id w =
        (s.validateIn directory w).map fun p ↦ (⟨id, p.1⟩, p.2) := by
      rw [validate?, validate_of_get? hget]
      rfl
    have hcons : s.known (id :: rest) = (id, directory) :: s.known rest := by
      rw [known, List.filterMap_cons, hget]
      rfl
    rw [hcons, validateKnown_cons]
    constructor
    · intro h
      obtain ⟨⟨outcome, w₁⟩, hvalidated, h⟩ := Option.bind_eq_some_iff.1 h
      obtain ⟨⟨vs, w₂⟩, hmore, h⟩ := Option.map_eq_some_iff.1 h
      cases h
      refine .cons ?_ ((ih hrest).1 hmore)
      rw [hfirst, hvalidated]
      rfl
    · intro h
      cases h with
      | cons first more =>
        rw [hfirst] at first
        obtain ⟨⟨outcome, w₁⟩, hvalidated, h⟩ := Option.map_eq_some_iff.1 first
        cases h
        rw [hvalidated, Option.bind_some, (ih hrest).2 more]
        rfl

/-- **Problems are validated in order**, unless one is unknown. -/
theorem validateMany_eq_ok_iff :
    s.validateMany ids w = .ok (some (vs, w')) ↔
      s.unknown ids = [] ∧ Threads s.validate? ids w vs w' := by
  have hdef : s.validateMany ids w = if s.unknown ids ≠ [] then .error ⟨s.unknown ids⟩
    else .ok (s.validateKnown (s.known ids) w) := rfl
  rw [hdef]
  by_cases hunknown : s.unknown ids = []
  · simp [hunknown, validateKnown_eq_some_iff]
  · simp [hunknown]

theorem validateMany_of_unknown (h : s.unknown ids ≠ []) (w : World ε) :
    s.validateMany ids w = .error ⟨s.unknown ids⟩ :=
  if_pos h

theorem unknown_append (ids ids' : List String) :
    s.unknown (ids ++ ids') = s.unknown ids ++ s.unknown ids' :=
  List.filter_append ids ids'

/-- Known problems are all validated, unless the validation of one of them has no end. -/
theorem exists_validateMany_or_stuck (hknown : s.unknown ids = []) (w : World ε) :
    (∃ vs w', s.validateMany ids w = .ok (some (vs, w'))) ∨ ∃ front id rest vs w₁,
      ids = front ++ id :: rest ∧ s.validateMany front w = .ok (some (vs, w₁)) ∧
        s.validate id w₁ = .ok none := by
  rcases Threads.exists_or_stuck s.validate? ids w with
    ⟨vs, w', h⟩ | ⟨front, id, rest, vs, w₁, rfl, h, hstuck⟩
  · exact .inl ⟨vs, w', validateMany_eq_ok_iff.2 ⟨hknown, h⟩⟩
  · rw [unknown_append, List.append_eq_nil_iff] at hknown
    obtain ⟨hfront, hrest⟩ := hknown
    refine .inr ⟨front, id, rest, vs, w₁, rfl, validateMany_eq_ok_iff.2 ⟨hfront, h⟩, ?_⟩
    rcases hget : s.problems.get? id with - | directory
    · simp [unknown, NameMap.contains, hget] at hrest
    · -- it is known, so that it has no answer means that it has no end
      rw [validate?, validate_of_get? hget] at hstuck
      rw [validate_of_get? hget]
      exact congrArg Except.ok hstuck

/-- **Two lists are validated one after the other**, the second from the world that the first left.
-/
theorem validateMany_append_iff {ids' : List String} :
    s.validateMany (ids ++ ids') w = .ok (some (vs, w')) ↔ ∃ vs₁ w₁ vs₂,
      s.validateMany ids w = .ok (some (vs₁, w₁)) ∧
      s.validateMany ids' w₁ = .ok (some (vs₂, w')) ∧ vs = vs₁ ++ vs₂ := by
  simp only [validateMany_eq_ok_iff, unknown_append, List.append_eq_nil_iff, Threads.append_iff]
  constructor
  · rintro ⟨⟨hids, hids'⟩, vs₁, w₁, vs₂, h, h', rfl⟩
    exact ⟨vs₁, w₁, vs₂, ⟨hids, h⟩, ⟨hids', h'⟩, rfl⟩
  · rintro ⟨vs₁, w₁, vs₂, ⟨hids, h⟩, ⟨hids', h'⟩, rfl⟩
    exact ⟨⟨hids, hids'⟩, vs₁, w₁, vs₂, h, h', rfl⟩

/-! ### Problems that do not depend on each other -/

/-- **Problems fail independently** in some worlds: validating any of them stays among these worlds,
and whether a problem fails is the same in all of them. -/
def Independent (s : Session ε π) (worlds : World ε → Prop) (fails : String → Bool) : Prop :=
  ∀ {id w v w'}, worlds w → s.validate id w = .ok (some (v, w')) →
    worlds w' ∧ v.outcome.failed = fails id

/-- Independent failures are counted problem by problem. -/
theorem Independent.failures_eq {worlds : World ε → Prop} {fails : String → Bool}
    (h : s.Independent worlds fails) (hw : worlds w)
    (hvs : s.validateMany ids w = .ok (some (vs, w'))) :
    Validation.failures vs = ids.countP fails := by
  obtain ⟨-, hthreads⟩ := validateMany_eq_ok_iff.1 hvs
  -- every validation stays among the worlds, so each of them says what `fails` says
  obtain ⟨-, hfails⟩ := hthreads.invariant (R := fun id v ↦ v.outcome.failed = fails id)
    (fun hw hv ↦ h hw (validate?_eq_some_iff.1 hv)) hw
  clear hvs hthreads
  induction hfails with
  | nil => rfl
  | cons first rest ih =>
    rw [List.countP_cons, ← ih, ← first]
    exact List.countP_cons

end Session

/-! ### The command line -/

namespace CommandLine

variable {i : Invocation} {near : Surroundings} {sandbox : Sandbox ε π} {runner : CommandRunner ε}
  {session : Session ε π} {ids : List String} {w w' : World ε} {vs : List Validation}

theorem execute_validate (hcommand : i.command = .validate ids)
    (hsession : openSession near sandbox runner i.settings w.files = .ok session) :
    i.execute near sandbox runner w = ((session.validateMany ids w).mapError .unknownProblems).map
      (·.map fun p ↦ (⟨Validation.summaryLines p.1, exitCode (Validation.failures p.1)⟩, p.2)) := by
  rw [Invocation.execute, hcommand]
  simp only [hsession]
  show ((session.validateMany ids w).mapError Failure.unknownProblems).bind _ = _
  rcases session.validateMany ids w with fault | ended <;> rfl

/-- **Validating problems from the command line** ends with a summary of the failures, and with a
code that is zero only for none. -/
theorem execute_validate_of_ok (hcommand : i.command = .validate ids)
    (hsession : openSession near sandbox runner i.settings w.files = .ok session)
    (hvs : session.validateMany ids w = .ok (some (vs, w'))) :
    ∃ report, i.execute near sandbox runner w = .ok (some (report, w')) ∧
      report.lines.getLast? = some (.validationSummary (Validation.failures vs)) ∧
      report.exitCode ≤ 255 ∧
      (report.exitCode = 0 ↔ ∀ v ∈ vs, v.outcome.failed = false) := by
  refine ⟨⟨Validation.summaryLines vs, exitCode (Validation.failures vs)⟩, ?_, ?_, ?_, ?_⟩
  · rw [execute_validate hcommand hsession, hvs]
    rfl
  · exact List.getLast?_concat
  · exact Nat.min_le_right _ _
  · rw [exitCode_eq_zero_iff, Validation.failures, List.countP_eq_zero]
    simp only [Bool.not_eq_true]

end CommandLine

namespace Session

/-- **Validating many problems.** If some are unknown, they are named and nothing else happens.
Otherwise each is validated once, in order, whatever became of those before, unless the validation
of one of them has no end.

The failures of two lists add up when the second is validated from the world that the first left.
When problems fail independently the failures are those of each problem, so that neither order nor
grouping matters. On the command line, the exit code is zero only if no problem failed. -/
theorem validateMany_counts (s : Session ε π) :
    (∀ {ids} w, s.unknown ids ≠ [] → s.validateMany ids w = .error ⟨s.unknown ids⟩) ∧
    (∀ {ids} w, s.unknown ids = [] → (∃ vs w', s.validateMany ids w = .ok (some (vs, w'))) ∨
      ∃ front id rest vs w₁, ids = front ++ id :: rest ∧
        s.validateMany front w = .ok (some (vs, w₁)) ∧ s.validate id w₁ = .ok none) ∧
    (∀ {ids w vs w'}, s.validateMany ids w = .ok (some (vs, w')) ↔
      s.unknown ids = [] ∧ Threads s.validate? ids w vs w') ∧
    (∀ {outcome : ValidationOutcome}, outcome.failed = true ↔ (∃ fault, outcome = .invalid fault) ∨
      (∃ name, outcome = .unknownConvention name) ∨ (∃ fault, outcome = .notBuilt fault) ∨
      ∃ runs, outcome = .validated runs ∧
        ∃ e ∈ (JudgedRun.record runs).entries, e.2.flags.toList ≠ []) ∧
    (∀ {ids ids' w vs w'}, s.validateMany (ids ++ ids') w = .ok (some (vs, w')) ↔ ∃ vs₁ w₁ vs₂,
      s.validateMany ids w = .ok (some (vs₁, w₁)) ∧
      s.validateMany ids' w₁ = .ok (some (vs₂, w')) ∧ vs = vs₁ ++ vs₂) ∧
    (∀ {vs₁ vs₂}, Validation.failures (vs₁ ++ vs₂) =
      Validation.failures vs₁ + Validation.failures vs₂) ∧
    (∀ {worlds fails}, s.Independent worlds fails → ∀ {ids w vs w'}, worlds w →
      s.validateMany ids w = .ok (some (vs, w')) →
        Validation.failures vs = ids.countP fails ∧
        (∀ {ids' v vs' v'}, worlds v → s.validateMany ids' v = .ok (some (vs', v')) →
          ids.Perm ids' → Validation.failures vs' = Validation.failures vs) ∧
        ∀ {ids₁ ids₂ w₁ vs₁ w₁' w₂ vs₂ w₂'}, ids = ids₁ ++ ids₂ →
          worlds w₁ → s.validateMany ids₁ w₁ = .ok (some (vs₁, w₁')) →
          worlds w₂ → s.validateMany ids₂ w₂ = .ok (some (vs₂, w₂')) →
            Validation.failures vs = Validation.failures vs₁ + Validation.failures vs₂) ∧
    ∀ {i : CommandLine.Invocation} {near sandbox runner ids w}, i.command = .validate ids →
      CommandLine.openSession near sandbox runner i.settings w.files = .ok s →
        (s.unknown ids ≠ [] →
          i.execute near sandbox runner w = .error (.unknownProblems ⟨s.unknown ids⟩)) ∧
        ∀ {vs w'}, s.validateMany ids w = .ok (some (vs, w')) →
          ∃ report, i.execute near sandbox runner w = .ok (some (report, w')) ∧
            report.lines.getLast? = some (.validationSummary (Validation.failures vs)) ∧
            report.exitCode ≤ 255 ∧
            (report.exitCode = 0 ↔ ∀ v ∈ vs, v.outcome.failed = false) := by
  refine ⟨fun w h ↦ validateMany_of_unknown h w, fun w h ↦ exists_validateMany_or_stuck h w,
    validateMany_eq_ok_iff, ValidationOutcome.failed_iff, validateMany_append_iff,
    Validation.failures_append _ _, ?_,
    fun hcommand hsession ↦ ⟨fun h ↦ ?_, CommandLine.execute_validate_of_ok hcommand hsession⟩⟩
  · intro worlds fails hfails ids w vs w' hw hvs
    have hcount := hfails.failures_eq hw hvs
    refine ⟨hcount, fun hv hvs' hperm ↦ ?_, fun hids hw₁ hvs₁ hw₂ hvs₂ ↦ ?_⟩
    · rw [hcount, hfails.failures_eq hv hvs']
      exact (hperm.countP_eq fails).symm
    · rw [hcount, hids, List.countP_append, hfails.failures_eq hw₁ hvs₁,
        hfails.failures_eq hw₂ hvs₂]
  · rw [CommandLine.execute_validate hcommand hsession, validateMany_of_unknown h]
    rfl

end Session

/-! ### Problems in the root -/

/-- Files of problems in the root: each has its declaration there, and an empty validator. -/
def problemFiles (declarations : List (String × Text.Bytes)) : FileTree where
  entries := (["tmp"], .directory) :: declarations.flatMap fun (id, declaration) ↦
    [([id], .directory), ([id, "problem.toml"], .file declaration false),
      ([id, "v"], .file [] false)]
  current := []

/-- A sandbox that launches nothing. -/
def Sandbox.empty : Sandbox ε Unit where
  launch spec w := (⟨some 0, .error (.programNotFound spec.program)⟩, w)
  engage _ _ w := (default, w)
  release _ w := w

/-- Someone who runs no commands. -/
def noCommands : CommandRunner ε := fun _ _ w ↦ (.notStarted "", w)

/-- Two problems, of which `a` has no validator and `b` cannot be read, and their settings. -/
def pairWorld : World Unit where
  files := {
    entries := (["kvalid.toml"],
        .file (Text.Utf8.encode "problem_storage_globs = [\"a\", \"b\"]") false) ::
      (problemFiles [("a", []), ("b", [255])]).entries
    current := [] }
  extra := ()

/-- What their settings say. -/
def pairSettings : Settings where
  source := some ⟨"/kvalid.toml"⟩
  problemPatterns := ["a", "b"].filterMap fun text ↦ (Glob.Pattern.parse text).toOption

/-- Their session. -/
def pairSession : Session Unit Unit := .ofSettings pairSettings .empty noCommands pairWorld.files

/-- A command that is given in the root. -/
def inRoot : CommandLine.Surroundings := ⟨⟨"/"⟩, []⟩

theorem openSession_pair :
    CommandLine.openSession inRoot .empty noCommands none pairWorld.files = .ok pairSession := by
  have hsettings : (inRoot.settings pairWorld.files none).toOption = some pairSettings := by
    decide +kernel
  rcases h : inRoot.settings pairWorld.files none with _ | settings
  · rw [h] at hsettings
    cases hsettings
  · rw [h] at hsettings
    cases hsettings
    rw [CommandLine.openSession, h]
    rfl

/-- How the validation of a problem ends for which nothing has to be run. -/
def Session.settled? (s : Session ε π) (files : FileTree) (directory : Path) :
    Option ValidationOutcome :=
  match s.plan files directory with
  | .error outcome => some outcome
  | .ok _ => none

theorem Session.validateIn_of_settled {s : Session ε π} {directory : Path} {w : World ε}
    {outcome : ValidationOutcome} (h : s.settled? w.files directory = some outcome) :
    s.validateIn directory w = some (outcome, w) := by
  revert h
  unfold settled? validateIn
  rcases s.plan w.files directory with outcome' | p
  · rintro ⟨⟩
    rfl
  · rintro ⟨⟩

/-- Nothing has to be run to see that `b` fails and `a` does not. -/
theorem settled_pair {id : String} {directory : Path}
    (h : pairSession.problems.get? id = some directory) :
    (pairSession.settled? pairWorld.files directory).map (·.failed) = some (id == "b") := by
  have hproblems : pairSession.problems = .ofList [("a", ⟨"/a"⟩), ("b", ⟨"/b"⟩)] := by
    decide +kernel
  rw [hproblems, NameMap.ofList, NameMap.insertMany, List.foldl_cons, List.foldl_cons,
    List.foldl_nil, NameMap.get?_insert, NameMap.get?_insert] at h
  split at h
  · next hid =>
    cases h
    subst hid
    decide +kernel
  · split at h
    · next hid =>
      cases h
      subst hid
      decide +kernel
    · cases h

/-- Whatever was validated before, `b` fails and `a` does not. -/
theorem pairSession_independent : pairSession.Independent (· = pairWorld) (· == "b") := by
  rintro id w v w' rfl hv
  rcases hget : pairSession.problems.get? id with _ | directory
  · rw [Session.validate, hget] at hv
    cases hv
  obtain ⟨outcome, hsettled, hfailed⟩ := Option.map_eq_some_iff.1 (settled_pair hget)
  rw [Session.validate_of_get? hget, Session.validateIn_of_settled hsettled] at hv
  cases hv
  exact ⟨rfl, hfailed⟩

namespace Session

/-- The failures are counted however often a problem is named, and whoever names them is told how
many there are. Unknown ids are told as often as they are named. -/
theorem validateMany_counts_pair : ∃ vs w',
    pairSession.validateMany ["b", "a", "b"] pairWorld = .ok (some (vs, w')) ∧
    Validation.failures vs = 2 ∧
    (∃ report, CommandLine.Invocation.execute ⟨none, .validate ["b", "a", "b"]⟩ inRoot .empty
        noCommands pairWorld = .ok (some (report, w')) ∧
      report.lines.getLast? = some (.validationSummary 2) ∧ report.exitCode ≠ 0) ∧
    pairSession.validateMany ["c", "a", "c"] pairWorld = .error ⟨["c", "c"]⟩ := by
  obtain ⟨hunknown, -, -, -, -, -, hcount, hexecute⟩ := validateMany_counts pairSession
  have hends : (pairSession.validateMany ["b", "a", "b"] pairWorld).toOption.join.isSome := by
    decide +kernel
  rcases hvs : pairSession.validateMany ["b", "a", "b"] pairWorld with _ | _ | ⟨vs, w'⟩
  · rw [hvs] at hends
    cases hends
  · rw [hvs] at hends
    cases hends
  obtain ⟨hfailures, -, -⟩ := hcount pairSession_independent rfl hvs
  obtain ⟨-, hreport⟩ := hexecute (i := ⟨none, .validate ["b", "a", "b"]⟩) rfl openSession_pair
  obtain ⟨report, hexecuted, hsummary, -, hzero⟩ := hreport hvs
  rw [hfailures] at hsummary
  have hunknown' : pairSession.unknown ["c", "a", "c"] = ["c", "c"] := by
    decide +kernel
  refine ⟨vs, w', rfl, hfailures, ⟨report, hexecuted, hsummary, fun hcode ↦ ?_⟩, ?_⟩
  · have hnone : Validation.failures vs = 0 := by
      refine List.countP_eq_zero.2 fun v hv ↦ ?_
      rw [hzero.1 hcode v hv]
      exact Bool.false_ne_true
    rw [hfailures] at hnone
    cases hnone
  · rw [hunknown pairWorld (by rw [hunknown']; exact List.cons_ne_nil _ _), hunknown']

end Session

/-! ### Problems that depend on each other -/

/-- Runs a command that leaves a mark, and one that fails if there is a mark and removes it. -/
def markRunner : CommandRunner Bool := fun command _ w ↦
  if command = "mark" then (.ended (some 0) (.exited 0) [] [], { w with extra := true })
  else (.ended (some 0) (.exited (if w.extra then 1 else 0)) [] [], { w with extra := false })

/-- The declaration of a problem with a validator in some language. -/
def declarationIn (language : String) : Text.Bytes :=
  Text.Utf8.encode s!"[validator]\nlanguage = '{language}'\nsource = 'v'\n"

/-- Two problems. Building the validator of `a` leaves a mark, and that of `b` must not find one. -/
def markSession : Session Bool Unit where
  settings := {}
  problems := .ofList [("a", ⟨"/a"⟩), ("b", ⟨"/b"⟩)]
  executors := .ofList [("marking", ⟨some "mark", "run", "main"⟩),
    ("unmarking", ⟨some "unmark", "run", "main"⟩)]
  sandbox := .empty
  runner := markRunner

/-- Their files, and no mark. -/
def markWorld : World Bool where
  files := problemFiles [("a", declarationIn "marking"), ("b", declarationIn "unmarking")]
  extra := false

/-- **The order matters** for problems that depend on each other: one fails after another that
does not fail after it. Neither fails alone, so that failures do not add up either. -/
theorem validateMany_order_matters :
    let failures ids :=
      (markSession.validateMany ids markWorld).toOption.join.map fun p ↦ Validation.failures p.1
    failures ["a"] = some 0 ∧ failures ["b"] = some 0 ∧
    failures ["a", "b"] = some 1 ∧ failures ["b", "a"] = some 0 := by
  decide +kernel

end ContestJudge
