import ContestJudge.Shell.State

/-!
# Options

The options of a shell by name and letter, and how options are told from the other arguments of a
command.
-/

namespace ContestJudge.Shell

/-- The options of a shell by name, with their letters; two of them have letters that cannot be
written. -/
def optionNames : List (String × Char) :=
  [("errexit", 'e'), ("noglob", 'f'), ("ignoreeof", 'I'), ("interactive", 'i'), ("monitor", 'm'),
    ("noexec", 'n'), ("stdin", 's'), ("xtrace", 'x'), ("verbose", 'v'), ("vi", 'V'),
    ("emacs", 'E'), ("noclobber", 'C'), ("allexport", 'a'), ("notify", 'b'), ("nounset", 'u'),
    ("privileged", 'p'), ("nolog", '\x01'), ("debug", '\x02')]

/-- The letters of the options that can be written. -/
def optionLetters : List Char := (optionNames.map (·.2)).filter (' ' < ·)

/-- The letters of the options that are on, the last option first. -/
def State.optionLetters (s : State) : String :=
  String.ofList (Shell.optionLetters.reverse.filter s.has)

/-- The options with what they are. -/
def State.optionTable (s : State) : List (String × Bool) :=
  optionNames.map fun (name, letter) => (name, s.has letter)

/-- The state where an option is on or off. -/
def State.withOption (s : State) (letter : Char) (on : Bool) : State :=
  let others := s.options.filter (· ≠ letter)
  { s with options := if on then letter :: others else others }

/-- An option that is not known, or one that lacks its argument. -/
inductive OptionFault where
  | unknown (letter : Char)
  | noArgument (letter : Char)
  deriving DecidableEq, Repr

/-- The wording of a fault. -/
def OptionFault.message : OptionFault → String
  | unknown letter => s!"Illegal option -{letter}"
  | noArgument letter => s!"No arg for -{letter} option"

/-- Splits off the options at the start of some arguments. Each accepted letter comes with whether it
takes an argument, which is the rest of its word or the next one. -/
def splitOptions (accepted : List (Char × Bool)) (arguments : List String) :
    Except OptionFault (List (Char × String) × List String) :=
  go (arguments.length + 1) arguments
where
  /-- Splits off the options of the first words. -/
  go : Nat → List String → Except OptionFault (List (Char × String) × List String)
    | 0, arguments => .ok ([], arguments)
    | _ + 1, [] => .ok ([], [])
    | fuel + 1, word :: rest =>
      match word.toList with
      | ['-', '-'] => .ok ([], rest)
      | '-' :: c :: letters => do
        let (seen, rest) ← letter (c :: letters) rest
        let (more, operands) ← go fuel rest
        return (seen ++ more, operands)
      | _ => .ok ([], word :: rest)
  /-- Reads the letters of a word, in front of the next words. -/
  letter : List Char → List String → Except OptionFault (List (Char × String) × List String)
    | [], rest => .ok ([], rest)
    | c :: letters, rest =>
      match accepted.lookup c with
      | none => .error (.unknown c)
      | some false => do
        let (seen, rest) ← letter letters rest
        return ((c, "") :: seen, rest)
      | some true =>
        match letters, rest with
        | [], [] => .error (.noArgument c)
        | [], argument :: rest => .ok ([(c, argument)], rest)
        | letters, rest => .ok ([(c, String.ofList letters)], rest)

namespace Step

/-- Splits off the options of a command. -/
def takeOptions (accepted : List (Char × Bool)) (arguments : List String) :
    Step (List (Char × String) × List String) :=
  match splitOptions accepted arguments with
  | .ok found => return found
  | .error fault => fail fault.message

/-- The arguments of a command that has no options. -/
def operandsOf (arguments : List String) : Step (List String) := do
  return (← takeOptions [] arguments).2

/-- Sets an option. Jobs cannot be controlled without a terminal. -/
def setOption (letter : Char) (on : Bool) : Step Unit := do
  if letter = 'm' ∧ on then complain "can't access tty; job control turned off"
  else modify (·.withOption letter on)

/-- Sets an option by its letter; of two ways of editing lines only one is on. -/
def setLetter (letter : Char) (on : Bool) : Step Unit := do
  if !Shell.optionLetters.contains letter then fail s!"Illegal option -{letter}"
  setOption letter on
  if on then
    if letter = 'V' then modify (·.withOption 'E' false)
    if letter = 'E' then modify (·.withOption 'V' false)

/-- Sets an option by its name. -/
def setName (name : String) (on : Bool) : Step Unit := do
  match optionNames.lookup name with
  | some letter => setOption letter on
  | none => fail s!"Illegal option -o {name}"

/-- Shows the options, for people or as commands that set them. -/
def showOptions (forPeople : Bool) : Step Unit := do
  let table := (← get).optionTable
  if forPeople then
    let row := fun (name, on) =>
      name ++ String.ofList (List.replicate (16 - name.length) ' ') ++ (if on then "on" else "off")
    write 1 (String.join (("Current option settings" :: table.map row).map (· ++ "\n")))
  else
    write 1 (String.join (table.map fun (name, on) =>
      (if on then "set -o " else "set +o ") ++ name ++ "\n"))

/-- Sets the options at the start of some arguments, and gives what follows them. A script that
starts a shell may be one of them. -/
def setOptions (launching : Bool) : List String → Step (Bool × List String)
  | [] => return (false, [])
  | word :: rest => do
    match word.toList with
    | ['-'] =>
      if !launching then modify fun s => (s.withOption 'x' false).withOption 'v' false
      return (false, rest)
    | ['-', '-'] =>
      if !launching ∧ rest = [] then modify fun s => { s with arguments := [] }
      return (false, rest)
    | sign :: letters =>
      if sign = '-' ∨ sign = '+' then
        let (isScript, named) ← setAll (sign = '-') letters
        match named, rest with
        | true, name :: rest =>
          setName name (sign = '-')
          let (more, rest) ← setOptions launching rest
          return (isScript || more, rest)
        | true, [] =>
          showOptions (sign = '-')
          return (isScript, [])
        | false, rest =>
          let (more, rest) ← setOptions launching rest
          return (isScript || more, rest)
      else return (false, word :: rest)
    | [] => return (false, word :: rest)
where
  /-- Sets the options of some letters, and says whether a script, or a name, is to follow. -/
  setAll (on : Bool) : List Char → Step (Bool × Bool)
    | [] => return (false, false)
    | c :: letters => do
      if launching ∧ c = 'c' then
        let (_, named) ← setAll on letters
        return (true, named)
      else if launching ∧ c = 'l' then setAll on letters
      else if c = 'o' then
        let (isScript, _) ← setAll on letters
        return (isScript, true)
      else
        setLetter c on
        setAll on letters

end Step

end ContestJudge.Shell
