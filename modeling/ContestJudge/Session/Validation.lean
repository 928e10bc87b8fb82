import ContestJudge.Grading.Validator
import ContestJudge.Problem.Cases
import ContestJudge.Session.Basic
import ContestJudge.Session.Judging

/-!
# Validating problems

A problem is validated by building its validator and running it on the input of every case. Whatever
can be decided without running anything is decided first, in a `ValidationPlan`.
-/

namespace ContestJudge

/-- Why a problem is not validated although nothing is wrong with it. -/
inductive SkipReason where
  | noValidator
  | languageNotSupported
  | feedbackNotSupported
  deriving DecidableEq, Repr

/-- The wording of a reason. -/
def SkipReason.text : SkipReason → String
  | noValidator => "No validator found"
  | languageNotSupported => "Language not supported"
  | feedbackNotSupported => "Feedback option not supported"

/-- What is wrong with the declaration of a problem. -/
inductive DeclarationFault where
  /-- It cannot be read. -/
  | unreadable (cause : FileFault)
  /-- Its cases are not well declared. -/
  | cases (cause : Problem.CaseFault)
  /-- Some case has no wall time limit. -/
  | wallTime (cause : WallTimeFault)

/-- The wording of a declaration fault. -/
def DeclarationFault.message : DeclarationFault → String
  | unreadable cause => s!"Invalid problem config: {cause.message}"
  | cases cause => s!"Invalid test cases: {cause.message}"
  | wallTime cause => s!"Invalid test cases: {cause.message}"

/-- How the validation of a problem ended. -/
inductive ValidationOutcome where
  /-- It was not validated. -/
  | skipped (reason : SkipReason)
  /-- Its declaration is wrong. -/
  | invalid (fault : DeclarationFault)
  /-- It follows an argument convention that nobody knows. -/
  | unknownConvention (name : String)
  /-- Its validator cannot be built. -/
  | notBuilt (fault : BuildFault)
  /-- All its cases were judged. -/
  | validated (runs : List JudgedRun)

namespace ValidationOutcome

/-- Whether a problem failed. -/
def failed : ValidationOutcome → Bool
  | skipped _ => false
  | invalid _ => true
  | unknownConvention _ => true
  | notBuilt _ => true
  | validated runs => (JudgedRun.record runs).failed

/-- What is shown of an outcome. -/
def lines : ValidationOutcome → List Console.Line
  | skipped reason => [.skipped reason.text]
  | invalid fault => [.problemError fault.message]
  | unknownConvention name => [.problemError s!"{name} is not a valid contrib module!"]
  | notBuilt fault => [.compileFailure fault.message]
  | validated runs => runs.flatMap JudgedRun.lines

/-- The launches of a validation. -/
def launches : ValidationOutcome → List LaunchRecord
  | validated runs => JudgedRun.launches runs
  | _ => []

end ValidationOutcome

/-- All that a validation needs once nothing speaks against it. -/
structure ValidationPlan where
  /-- The language of the validator. -/
  language : String
  /-- Its source files. -/
  sources : List Path
  /-- The time that building it may take. -/
  compilerTimeLimit : Duration
  /-- What it may use. -/
  limits : Limits
  /-- The template of its arguments. -/
  arguments : String
  /-- The stream that holds its feedback. -/
  feedback : OutputStream
  /-- The cases. -/
  cases : CaseTree

namespace Session

variable {ε π : Type}

/-- Plans the validation of a declared problem, or says how it ends without one. The first thing
that speaks against a validation counts. -/
def planDeclared (s : Session ε π) (directory : Path) (d : Problem.Declaration) :
    Except ValidationOutcome ValidationPlan := do
  let validator ← need (.skipped .noValidator) d.validator
  let supported := validator.language.filter s.executors.contains
  let language ← need (.skipped .languageNotSupported) supported
  let feedback ← need (.skipped .feedbackNotSupported) validator.feedbackStream
  let sources ← need (.skipped .noValidator) (validator.sourceFiles directory)
  let convention := validator.convention.getD Problem.Conventions.standard
  let template ← need (.unknownConvention convention) (s.conventions.get? convention)
  let cases ← (d.tree directory).mapError fun fault => .invalid (.cases fault)
  let limits := s.limits validator.timeLimit validator.memoryLimit
  (checkWallTimes limits cases).mapError fun fault => .invalid (.wallTime fault)
  return {
    language, sources, limits, feedback, cases
    compilerTimeLimit := validator.compilerTimeLimit.getD s.settings.compilerTimeLimit
    arguments := validator.arguments.getD template }
where
  /-- What is there, or else an outcome. -/
  need {α : Type} (outcome : ValidationOutcome) : Option α → Except ValidationOutcome α
    | some a => .ok a
    | none => .error outcome

/-- Plans the validation of the problem in a directory. -/
def plan (s : Session ε π) (files : FileTree) (directory : Path) :
    Except ValidationOutcome ValidationPlan :=
  match Problem.Declaration.load files directory with
  | .error fault => .error (.invalid (.unreadable fault))
  | .ok d => s.planDeclared directory d

/-- The validator of a plan. -/
def validator (p : ValidationPlan) (executable : Executable) : Validator :=
  { executable, limits := p.limits, arguments := p.arguments, feedback := p.feedback }

/-- Carries out a plan; `none` if that never ends. -/
def carryOut (s : Session ε π) (p : ValidationPlan) (w : World ε) :
    Option (ValidationOutcome × World ε) :=
  match build s.executors s.runner p.sources [] p.language p.compilerTimeLimit w with
  | (.error fault, w) => some (.notBuilt fault, w)
  | (.ok executable, w) => do
    let judge := (validator p executable).grader.grade s.sandbox
    let (runs, (), w) ← judgeCases judge (fun () _ => ()) p.cases () w
    return (.validated runs, { w with files := executable.discard w.files })

/-- Validates the problem in a directory; `none` if that never ends. -/
def validateIn (s : Session ε π) (directory : Path) (w : World ε) :
    Option (ValidationOutcome × World ε) :=
  match s.plan w.files directory with
  | .error outcome => some (outcome, w)
  | .ok p => s.carryOut p w

end Session

/-- Ids that belong to no problem. -/
structure UnknownProblems where
  /-- The ids, in the order in which they were given. -/
  ids : List String
  deriving DecidableEq, Repr

/-- The wording when one problem was wanted. -/
def unknownProblemMessage (id : String) : String := s!"Unknown problem '{id}'"

/-- The wording when several problems were wanted. -/
def UnknownProblems.message (u : UnknownProblems) : String :=
  "Unknown problem(s) " ++ ", ".intercalate (u.ids.map fun id => s!"'{id}'")

/-- A problem that was validated. -/
structure Validation where
  /-- The id of the problem. -/
  problem : String
  /-- How it ended. -/
  outcome : ValidationOutcome

namespace Validation

/-- What is shown of a validation. -/
def lines (v : Validation) : List Console.Line := .problemHeader v.problem :: v.outcome.lines

/-- How many validations failed. -/
def failures (vs : List Validation) : Nat := vs.countP (·.outcome.failed)

/-- What is shown of validations, each with its result, and a summary. -/
def summaryLines (vs : List Validation) : List Console.Line :=
  (vs.flatMap fun v => v.lines ++ [.problemResult v.problem v.outcome.failed])
    ++ [.validationSummary (failures vs)]

end Validation

namespace Session

variable {ε π : Type}

/-- Validates a problem. -/
def validate (s : Session ε π) (id : String) (w : World ε) :
    Except UnknownProblems (Option (Validation × World ε)) :=
  match s.problems.get? id with
  | none => .error ⟨[id]⟩
  | some directory => .ok ((s.validateIn directory w).map fun (outcome, w) => (⟨id, outcome⟩, w))

/-- Validates problems that are known, in order. -/
def validateKnown (s : Session ε π) :
    List (String × Path) → World ε → Option (List Validation × World ε)
  | [], w => some ([], w)
  | (id, directory) :: rest, w => do
    let (outcome, w) ← s.validateIn directory w
    let (validations, w) ← s.validateKnown rest w
    return (⟨id, outcome⟩ :: validations, w)

/-- Validates problems in order, unless one of them is unknown. -/
def validateMany (s : Session ε π) (ids : List String) (w : World ε) :
    Except UnknownProblems (Option (List Validation × World ε)) :=
  let unknown := ids.filter fun id => !s.problems.contains id
  if unknown ≠ [] then .error ⟨unknown⟩
  else .ok (s.validateKnown (ids.filterMap fun id => (s.problems.get? id).map (id, ·)) w)

end Session

/-- The exit code for a number of failures, which is zero only for none. -/
def exitCode (fails : Nat) : Nat := min fails 255

end ContestJudge
