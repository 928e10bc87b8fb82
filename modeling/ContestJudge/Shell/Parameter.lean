import ContestJudge.Shell.Arithmetic
import ContestJudge.Shell.Field
import ContestJudge.Shell.Options

/-!
# Parameters

What the parameters of a shell stand for: its variables, its arguments, and a few facts about it.
-/

namespace ContestJudge.Shell

open Text

/-- The directories where commands are looked for unless that is said, as shells and as other
programs know them. -/
def usualPaths : String × String :=
  ("/usr/local/sbin:/usr/local/bin:/usr/sbin:/usr/bin:/sbin:/bin", "/bin:/usr/bin")

/-- The variables that every shell starts with unless it was given others. -/
def usualVariables : List (String × String) :=
  [(State.pathName, usualPaths.1), ("PS1", "# "), ("PS2", "> "), ("PS4", "+ ")]

/-- The variables that every shell starts with whatever it was given, below some processes that wait
for it. -/
def initialVariables (ancestors : List Nat) : List (String × String) :=
  [("IFS", " \t\n"), (State.optionsName, "1"), ("PPID", toString (ancestors.headD 1))]

/-- The name of the parameter that stands for all arguments, each on its own. -/
def eachName : String := "@"

/-- The name of the parameter that stands for all arguments as one text. -/
def allName : String := "*"

/-- Whether a parameter stands for all arguments. -/
def isAll (name : String) : Bool := name = eachName || name = allName

namespace State

/-- The value of a parameter that stands for one text. -/
def parameter? (s : State) (name : String) : Option String :=
  match name with
  | "#" => some (toString s.arguments.length)
  | "?" => some (toString s.status)
  | "$" => some (toString s.number)
  | "!" => s.lastJob.map toString
  | "-" => some s.optionLetters
  | _ =>
    if name ≠ "" ∧ name.toList.all Char.isDigit then
      let n := (splitDigits 10 name.toList).1
      if n = 0 then some s.name else s.arguments[n - 1]?
    else s.valueOf name

/-- The arguments as one text. -/
def joinedArguments (s : State) : String := s.joiner.intercalate s.arguments

/-- The number of octets of all arguments and of what separates them. -/
def argumentsLength (s : State) (separated : Bool) : Nat :=
  let separators := if separated then s.arguments.length - 1 else 0
  s.arguments.foldl (fun n argument => n + argument.length) separators

/-- The variables in the order of their names. -/
def sortedVariables (s : State) : List (String × Variable) :=
  s.bindings.toList.mergeSort fun a b => decide (a.1 ≤ b.1)

/-- The variables as expressions see them. -/
def known (s : State) : Arithmetic.Variables where
  before := s.valueOf
  readOnly := s.isReadOnly

/-- The places that a path may mean, given some directories that are separated by colons; an empty
one is where the shell is. -/
def candidates (directories name : String) : List String :=
  (directories.splitOn ":").map fun directory =>
    if directory = "" then name else directory ++ "/" ++ name

/-- The directories where commands are looked for. -/
def searchPath (s : State) : String := (s.valueOf pathName).getD ""

/-- The entry that a path leads to. -/
def entry? (s : State) (path : String) : Except IoFault Entry :=
  (s.tree.find ⟨Octets.toText path⟩).map (·.2)

/-- Whether a path leads to what may be run. -/
def isProgram (s : State) (path : String) : Bool :=
  match s.entry? path with
  | .ok (.file _ executable) => executable
  | .ok (.utility _) => true
  | _ => false

/-- The file that the name of a command means in some directories: itself if it holds a slash, or
else the first one that may be a program. If there is none, the fault says why. -/
def locateIn (s : State) (directories name : String) : Except IoFault String :=
  if name.contains '/' then .ok name
  else
    let paths := candidates directories name
    match paths.find? s.isProgram with
    | some path => .ok path
    | none => .error ((paths.map (fault? s)).foldl (fun last new => new.getD last) .notFound)
where
  /-- Why a path is no program, if that is remarkable. -/
  fault? (s : State) (path : String) : Option IoFault :=
    match s.entry? path with
    | .ok _ => some .permissionDenied
    | .error .notFound => none
    | .error .notDirectory => none
    | .error fault => some fault

/-- The file that the name of a command means. -/
def locate (s : State) (name : String) : Except IoFault String := s.locateIn s.searchPath name

end State

/-- The wording of a fault. -/
def faultText (fault : IoFault) : String := (fault.message.splitOn " (os error").headD ""

/-- The wording of a fault, where missing names are told in a way of their own. -/
def faultTextOr (missing : String) (fault : IoFault) : String :=
  if fault = .notFound ∨ fault = .notDirectory then missing else faultText fault

/-- A text in single quotes, where its own ones stand in double quotes. -/
def singleQuote (text : String) : String :=
  String.ofList (go text.length text.toList)
where
  /-- Quotes what is left, at least one part of it. -/
  go : Nat → List Char → List Char
    | 0, cs => '\x27' :: cs ++ ['\x27']
    | fuel + 1, cs =>
      let (plain, rest) := cs.span (· ≠ '\x27')
      let (quotes, rest) := rest.span (· = '\x27')
      let start := '\x27' :: plain ++ ['\x27']
      if quotes = [] then start
      else
        let quoted := start ++ '"' :: quotes ++ ['"']
        if rest = [] then quoted else quoted ++ go fuel rest

end ContestJudge.Shell
