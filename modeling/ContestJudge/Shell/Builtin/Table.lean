import ContestJudge.Shell.Builtin.Names
import ContestJudge.Shell.Builtin.Places
import ContestJudge.Shell.Builtin.Processes
import ContestJudge.Shell.Condition
import ContestJudge.Shell.Format

/-!
# The commands of a shell

The commands that are part of the shell, by name. A fault in a special one ends the shell, and the
assignments before it last.
-/

namespace ContestJudge.Shell

/-- A command that is part of the shell. -/
structure Builtin where
  /-- Whether a fault in it ends the shell. -/
  isSpecial : Bool := false
  /-- Whether its arguments may be assignments. -/
  takesAssignments : Bool := false
  /-- What it does with its arguments. -/
  act : List String → Step Unit

namespace Step

/-- Writes words. -/
def echo (arguments : List String) : Step Unit := do
  let isOpen := arguments.head? = some "-n"
  setStatus 0
  write 1 (echoText false true isOpen (if isOpen then arguments.drop 1 else arguments))

/-- Writes arguments by a format. -/
def printf (arguments : List String) : Step Unit := do
  match ← operandsOf arguments with
  | [] => fail "usage: printf format [arg ...]"
  | format :: arguments =>
    let p := printed shellDialect format arguments
    setStatus (if p.complaints = [] then 0 else 1)
    p.complaints.forM complain
    write 1 p.text
    if let some fault := p.fault then fail fault

/-- Tests a condition. -/
def test (name : String) (arguments : List String) : Step Unit := do
  match (← get).condition name arguments with
  | .ok holds => setStatus (if holds then 0 else 1)
  | .error complaint => fail complaint

/-- Ends the shell. -/
def exit (arguments : List String) : Step Unit := do
  let s ← get
  match arguments with
  | [] => finish (s.savedStatus.getD s.status)
  | text :: _ => finish (← countOf text)

/-- Ends the function that runs, or the file. -/
def leaveFunction (arguments : List String) : Step Unit := do
  match arguments with
  | [] => throw (.returned false)
  | text :: _ =>
    setStatus (← countOf text)
    throw (.returned true)

/-- Ends loops, or their current turns. Outside of loops nothing is to be ended. -/
def leaveLoops (leave : Nat → Leave) (arguments : List String) : Step Unit := do
  let wanted ← match arguments with
    | [] => pure 1
    | text :: _ =>
      let n ← countOf text
      if n = 0 then fail s!"Illegal number: {text}" else pure n
  setStatus 0
  let levels := min wanted (← get).loops
  if 0 < levels then throw (leave levels)

/-- Complains that a job cannot be continued. -/
def resumeJob (arguments : List String) : Step Unit := do
  match arguments with
  | [] => fail "No current job"
  | text :: _ =>
    let _ ← jobOf text
    fail "job (null) not created under job control"

/-- The commands that are neither told by other commands nor tell of them. -/
def plainBuiltins : List (String × Builtin) :=
  [(":", { isSpecial := true, act _ := setStatus 0 }),
    ("[", { act := test "[" }),
    ("alias", { takesAssignments := true, act := setAliases }),
    ("bg", { act := resumeJob }),
    ("break", { isSpecial := true, act := leaveLoops .left }),
    ("cd", { act := changeDirectory }),
    ("chdir", { act := changeDirectory }),
    ("continue", { isSpecial := true, act := leaveLoops .resumed }),
    ("echo", { act := echo }),
    ("exit", { isSpecial := true, act := exit }),
    ("export", { isSpecial := true, takesAssignments := true, act := mark "export" true false }),
    ("false", { act _ := setStatus 1 }),
    ("fg", { act := resumeJob }),
    ("getopts", { act := getopts }),
    ("jobs", { act _ := do setStatus 0; showJobs }),
    ("kill", { act := kill }),
    ("local", { isSpecial := true, takesAssignments := true, act := makeLocals }),
    ("printf", { act := printf }),
    ("pwd", { act := tellDirectory }),
    ("read", { act := readVariables }),
    ("readonly", { isSpecial := true, takesAssignments := true, act := mark "readonly" false true }),
    ("return", { isSpecial := true, act := leaveFunction }),
    ("set", { isSpecial := true, act := setCommand }),
    ("shift", { isSpecial := true, act := shift }),
    ("test", { act := test "test" }),
    ("times", { isSpecial := true, act _ := times }),
    ("trap", { isSpecial := true, act := trap }),
    ("true", { act _ := setStatus 0 }),
    ("ulimit", { act := ulimit }),
    ("umask", { act := umask }),
    ("unalias", { act := unsetAliases }),
    ("unset", { isSpecial := true, act := unset }),
    ("wait", { act := wait })]

/-- The commands that run other commands, and whether they are special. What they do is no part of
the table. -/
def runningBuiltins : List (String × Bool) :=
  [(".", true), ("command", false), ("eval", true), ("exec", true)]

/-- The commands that tell what names mean. -/
def tellingBuiltins : List String := ["hash", "type"]

/-- Whether a name means a command of the shell, and whether that is special. -/
def builtinKind? (name : String) : Option Bool :=
  ((plainBuiltins.lookup name).map (·.isSpecial)).or <|
    (runningBuiltins.lookup name).or (if tellingBuiltins.contains name then some false else none)

/-- Tells what names mean, or shows one name as it can be used. Nothing happens without a name. -/
def tellCommand (arguments : List String) : Step Unit := do
  let (flags, operands) ← takeOptions [('p', false), ('v', false), ('V', false)] arguments
  let flags := flags.map (·.1)
  setStatus 0
  match operands with
  | name :: _ =>
    if flags.contains 'v' ∨ flags.contains 'V' then
      let directories := if flags.contains 'p' then some usualPaths.1 else none
      if !(← describe builtinKind? (flags.contains 'V') directories name) then setStatus 127
  | [] => return

/-- The command of a name, unless it runs other commands. -/
def builtin? (name : String) : Option Builtin :=
  match name with
  | "hash" => some { act := rehash builtinKind? }
  | "type" => some { act := describeAll builtinKind? }
  | "command" => some { act := tellCommand }
  | name => plainBuiltins.lookup name

end Step

end ContestJudge.Shell
