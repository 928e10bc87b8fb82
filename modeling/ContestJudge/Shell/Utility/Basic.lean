import ContestJudge.FileTree.Operations
import ContestJudge.Process.Outcome
import ContestJudge.Shell.Quoting
import ContestJudge.Text.Utf8

/-!
# Utilities

A utility is a function of its arguments, its input and the files. It never sees the shell that runs
it. All texts are octets.
-/

namespace ContestJudge.Shell

open Text

/-- What surrounds a utility. -/
structure Setting where
  /-- The name by which it was called. -/
  name : String
  /-- The files, seen from the directory where the utility runs. -/
  files : FileTree
  /-- What it is given to read. -/
  input : List Char
  /-- Whether that is the rest of a file. -/
  isFile : Bool := false
  /-- The permissions that new files do not get. -/
  mask : Nat := 18
  /-- The path by which the shell came to the directory. -/
  route : String := "/"

/-- What a utility does. -/
structure Effect where
  /-- The files afterwards. -/
  files : FileTree
  /-- What it writes, in order. -/
  said : List (OutputStream × String) := []
  /-- Its exit code. -/
  status : Nat := 0
  /-- The milliseconds that it waits. -/
  duration : Nat := 0
  /-- Whether it goes on writing the same forever. -/
  isEndless : Bool := false
  /-- How much of its input it takes, if it looks at that. -/
  taken : Option Nat := none
  /-- Whether its complaints come first, whenever they are made. -/
  complainsFirst : Bool := false

/-- A utility. -/
abbrev Utility := List String → Setting → Effect

/-- The wording of a fault, as utilities put it. -/
def reason (fault : IoFault) : String := (fault.message.splitOn " (os error").headD ""

/-- The path that an argument names. -/
def pathOf (argument : String) : Path := ⟨Octets.toText argument⟩

namespace Effect

/-- What is written to one stream. -/
def text (e : Effect) (stream : OutputStream) : String :=
  String.join ((e.said.filter (·.1 = stream)).map (·.2))

/-- What is written, in the order of its coming out. -/
def inOrder (e : Effect) : List (OutputStream × String) :=
  if e.complainsFirst then [(.stderr, e.text .stderr), (.stdout, e.text .stdout)] else e.said

/-- Writes a text and succeeds. -/
def say (files : FileTree) (output : String) : Effect := { files, said := [(.stdout, output)] }

/-- Goes on after something that was done. -/
def andThen (first : Effect) (next : FileTree → Effect) : Effect :=
  let second := next first.files
  { second with
    said := first.said ++ second.said
    status := max first.status second.status
    duration := first.duration + second.duration
    isEndless := first.isEndless || second.isEndless
    taken := match first.taken, second.taken with
      | some a, some b => some (max a b)
      | a, b => a.or b }

/-- Does something for each of some values, whatever came of those before. -/
def forEach {α : Type} (files : FileTree) (values : List α) (act : α → FileTree → Effect) :
    Effect :=
  values.foldl (fun done value => done.andThen (act value)) { files }

end Effect

namespace Setting

/-- Says why something was not done. -/
def refuse (s : Setting) (files : FileTree) (complaint : String) (status : Nat := 1) : Effect :=
  { files, said := [(.stderr, s!"{s.name}: {complaint}\n")], status }

/-- Says why the arguments make no sense. -/
def misuse (s : Setting) (complaint : String) (status : Nat := 1) : Effect :=
  s.refuse s.files s!"{complaint}\nTry '{s.name} --help' for more information." status

/-- Changes the files, or says why not. -/
def change (s : Setting) (files : FileTree) (complaint : String) :
    Except IoFault FileTree → Effect
  | .ok files => { files }
  | .error fault => s.refuse files s!"{complaint}: {reason fault}"

end Setting

/-- What an option needs. -/
inductive Need where
  /-- No argument. -/
  | nothing
  /-- An argument. -/
  | value
  /-- An argument only if that is joined to a long name. -/
  | longValue
  /-- An argument only if that is joined to it. -/
  | joinedValue
  deriving DecidableEq, Repr

/-- The options of a utility. -/
structure Usage where
  /-- The letters of its options; a colon follows one that takes an argument, a question mark one
  that may take one with its long name, and a semicolon one that may take one joined to it. -/
  letters : String := ""
  /-- The long names of options. -/
  names : List (String × Char) := []
  /-- Whether options may come behind other arguments. -/
  isFree : Bool := true
  /-- Its exit code when the arguments make no sense. -/
  status : Nat := 1

namespace Usage

/-- The signs that say what an option needs. -/
def needs : List (Char × Need) := [(':', .value), ('?', .longValue), (';', .joinedValue)]

/-- What an option needs, if there is one of that letter. -/
def need? (u : Usage) (c : Char) : Option Need :=
  if (needs.lookup c).isSome then none else go u.letters.toList
where
  /-- Looks for the letter among some. -/
  go : List Char → Option Need
    | [] => none
    | d :: rest =>
      if c = d then some ((rest.head?.bind fun sign => needs.lookup sign).getD .nothing) else go rest

/-- The letters of the long names that a name may be short for. -/
def candidates (u : Usage) (name : String) : List (String × Char) :=
  match u.names.lookup name with
  | some c => [(name, c)]
  | none => u.names.filter fun (long, _) => long.startsWith name

/-- The letter of a long name, which may be cut as long as it is clear what it means. -/
def letter? (u : Usage) (word name : String) : Except String (String × Char) :=
  match u.candidates name with
  | [] => .error s!"unrecognized option '{word}'"
  | (long, c) :: others =>
    if others.all (·.2 = c) then .ok (long, c)
    else
      let names := ((long, c) :: others).map fun (long, _) => s!" '--{long}'"
      .error s!"option '{word}' is ambiguous; possibilities:{String.join names}"

/-- Splits off the options in some arguments. -/
def split (u : Usage) :
    (fuel : Nat) → List String → Except String (List (Char × String) × List String)
  | 0, arguments => .ok ([], arguments)
  | _ + 1, [] => .ok ([], [])
  | fuel + 1, word :: rest =>
    match word.toList with
    | ['-', '-'] => .ok ([], rest)
    | '-' :: '-' :: long => do
      let (name, value) := long.span (· ≠ '=')
      let (name, c) ← u.letter? word (String.ofList name)
      match (u.need? c).getD .nothing, value, rest with
      | .nothing, [], rest => add c "" (split u fuel rest)
      | .nothing, _ :: _, _ => throw s!"option '--{name}' doesn't allow an argument"
      | _, _ :: value, rest => add c (String.ofList value) (split u fuel rest)
      | .value, [], value :: rest => add c value (split u fuel rest)
      | .value, [], [] => throw s!"option '--{name}' requires an argument"
      | _, [], rest => add c "" (split u fuel rest)
    | '-' :: c :: letters => do
      let (found, rest) ← cluster (c :: letters) rest
      let (more, operands) ← split u fuel rest
      return (found ++ more, operands)
    | _ =>
      if u.isFree then do
        let (more, operands) ← split u fuel rest
        return (more, word :: operands)
      else .ok ([], word :: rest)
where
  /-- Puts an option in front. -/
  add (c : Char) (value : String) (found : Except String (List (Char × String) × List String)) :
      Except String (List (Char × String) × List String) :=
    found.map fun (more, operands) => ((c, value) :: more, operands)
  /-- Reads the letters of a word, in front of the next words. -/
  cluster : List Char → List String → Except String (List (Char × String) × List String)
    | [], rest => .ok ([], rest)
    | c :: letters, rest =>
      match u.need? c, letters, rest with
      | none, _, _ => .error s!"invalid option -- '{c}'"
      | some .value, [], value :: rest => .ok ([(c, value)], rest)
      | some .value, [], [] => .error s!"option requires an argument -- '{c}'"
      | some .value, letters, rest => .ok ([(c, String.ofList letters)], rest)
      | some .joinedValue, letters, rest => .ok ([(c, String.ofList letters)], rest)
      | some _, letters, rest => do
        let (more, rest) ← cluster letters rest
        return ((c, "") :: more, rest)

end Usage

/-- The options that were found among some arguments. -/
structure Found where
  /-- Their letters and arguments, in order. -/
  options : List (Char × String)

namespace Found

/-- Whether an option was given. -/
def has (found : Found) (c : Char) : Bool := found.options.any (·.1 = c)

/-- The arguments that an option was given. -/
def values (found : Found) (c : Char) : List String :=
  (found.options.filter (·.1 = c)).map (·.2)

/-- The argument that an option was given last. -/
def value? (found : Found) (c : Char) : Option String := (found.values c).getLast?

/-- Which of some options was given last. -/
def lastOf? (found : Found) (cs : List Char) : Option Char :=
  ((found.options.filter fun (c, _) => cs.contains c).getLast?).map (·.1)

end Found

/-- Tells the options in some arguments from the others. -/
def Usage.parse (u : Usage) (arguments : List String) : Except String (Found × List String) :=
  (u.split (arguments.length + 1) arguments).map fun (options, operands) => (⟨options⟩, operands)

/-- A utility that does something with its options and its other arguments. -/
def Usage.run (u : Usage) (act : Found → List String → Setting → Effect) : Utility :=
  fun arguments s =>
    match u.parse arguments with
    | .ok (found, operands) => act found operands s
    | .error complaint => s.misuse complaint u.status

/-- The lines of a text, each with its end if it has one. -/
def linesOf (text : List Char) : List (List Char) := go [] [] text
where
  /-- The lines behind those that have ended and the one that has begun, both in reverse. -/
  go (lines : List (List Char)) (line : List Char) : List Char → List (List Char)
    | [] => (if line = [] then lines else line.reverse :: lines).reverse
    | '\n' :: rest => go (('\n' :: line).reverse :: lines) [] rest
    | c :: rest => go lines (c :: line) rest

/-- A line without its end. -/
def bareLine (line : List Char) : List Char :=
  if line.getLast? = some '\n' then line.dropLast else line

/-- The lines of a text without their ends. -/
def bareLinesOf (text : String) : List String :=
  (linesOf text.toList).map fun line => String.ofList (bareLine line)

/-- Lines with their ends. -/
def joinLines (lines : List String) : String := String.join (lines.map (· ++ "\n"))

/-- Whether an argument means what the utility is given to read. -/
def isInput (operand : String) : Bool := ["-", "/dev/stdin", "/dev/fd/0"].contains operand

/-- What arguments give to read. The input can be read only once. -/
def contentsOf (s : Setting) (operands : List String) :
    List (String × Except IoFault String) :=
  let first := operands.findIdx isInput
  operands.zipIdx.map fun (operand, i) =>
    (operand,
      if isInput operand then .ok (if i = first then String.ofList s.input else "")
      else (s.files.readRaw (pathOf operand)).map Octets.ofBytes)

/-- What an argument gives to read. -/
def contentOf (s : Setting) (operand : String) : Except IoFault String :=
  ((contentsOf s [operand]).head?.map (·.2)).getD (.ok "")

/-- The whole input, if some argument means that. -/
def takenBy (s : Setting) (operands : List String) : Option Nat :=
  if operands.any isInput then some s.input.length else none

/-- Says of a file why it cannot be read. -/
def plainComplaint (operand : String) (fault : IoFault) : String :=
  s!"{namedWord operand}: {reason fault}"

/-- The names and contents of the files that are named, or of the input if none is. What cannot be
read is complained about. -/
def gather (complaint : String → IoFault → String) (operands : List String) (s : Setting)
    (status : Nat := 1) : List (String × String) × Effect :=
  let operands := if operands = [] then ["-"] else operands
  let parts := contentsOf s operands
  let effect := Effect.forEach s.files parts fun (operand, part) files =>
    match part with
    | .ok _ => { files }
    | .error fault => s.refuse files (complaint operand fault) status
  (parts.filterMap fun (operand, part) => part.toOption.map (operand, ·),
    { effect with taken := takenBy s operands })

/-- A utility that makes one text of all it is given to read. -/
def filter (complaint : String → IoFault → String) (make : String → String)
    (operands : List String) (s : Setting) : Effect :=
  let (parts, effect) := gather complaint operands s
  effect.andThen fun files => .say files (make (String.join (parts.map (·.2))))

end ContestJudge.Shell
