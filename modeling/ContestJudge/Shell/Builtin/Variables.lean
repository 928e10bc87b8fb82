import ContestJudge.Shell.Parameter

/-!
# Commands for variables

The commands of a shell that set its variables, its arguments and its options, or read them.
-/

namespace ContestJudge.Shell.Step

/-- Gives a variable a value, or takes it away, and marks it. A variable without a value stays as
long as it is marked. -/
def declare (name : String) (value? : Option String) (isExported isReadOnly : Bool) :
    Step Unit := do
  let s ← get
  if !isName name then fail s!"{name}: bad variable name"
  if s.isReadOnly name then fail s!"{name}: is read only"
  let old := (s.bindings.get? name).getD {}
  match value? with
  | some value => assign name value
  | none =>
    let isKept := isExported || isReadOnly
    set (s.bind name (if isKept then some { old with value := none } else none))
  if isExported ∨ isReadOnly then
    modify fun s =>
      let new := (s.bindings.get? name).getD {}
      s.bind name (some { new with
        isExported := isExported || new.isExported, isReadOnly := isReadOnly || new.isReadOnly })

/-- Shows variables as commands that set them. -/
def showVariables (start : String) (isShown : Variable → Bool) : Step Unit := do
  let rows := (← get).sortedVariables.filterMap fun (name, v) =>
    if isShown v then
      some (start ++ name ++ ((v.value.map fun value => "=" ++ singleQuote value).getD "") ++ "\n")
    else none
  write 1 (String.join rows)

/-- Marks variables, which may be given values as well, or shows those that are marked. -/
def mark (command : String) (isExported isReadOnly : Bool) (arguments : List String) :
    Step Unit := do
  let (flags, operands) ← takeOptions [('p', false)] arguments
  setStatus 0
  if flags ≠ [] ∨ operands = [] then
    showVariables (command ++ " ") fun v =>
      (isExported && v.isExported) || (isReadOnly && v.isReadOnly)
  else
    operands.forM fun operand => do
      match operand.toList.span (· ≠ '=') with
      | (name, _ :: value) =>
        declare (String.ofList name) (some (String.ofList value)) isExported isReadOnly
      | (_, []) =>
        let s ← get
        match s.bindings.get? operand with
        | some v =>
          set (s.bind operand (some { v with
            isExported := isExported || v.isExported, isReadOnly := isReadOnly || v.isReadOnly }))
        | none => declare operand none isExported isReadOnly

/-- Makes variables local to the function that runs; they keep their values unless they are given
other ones. -/
def makeLocals (arguments : List String) : Step Unit := do
  if (← get).frames = [] then fail "not in a function"
  setStatus 0
  arguments.forM fun argument => do
    if argument = optionsKey then
      modify fun s =>
        let options : Variable := { value := some (String.ofList s.options) }
        match s.frames with
        | frame :: frames => { s with frames := ((optionsKey, some options) :: frame) :: frames }
        | [] => s
    else
      match argument.toList.span (· ≠ '=') with
      | (name, _ :: value) =>
        makeLocal (String.ofList name)
        assign (String.ofList name) (String.ofList value)
      | (_, []) =>
        if !isName argument then fail s!"{argument}: bad variable name"
        makeLocal argument

/-- Forgets variables, or functions. -/
def unset (arguments : List String) : Step Unit := do
  let (flags, operands) ← takeOptions [('v', false), ('f', false)] arguments
  setStatus 0
  let ofFunctions := flags.getLast?.any (·.1 = 'f')
  operands.forM fun name =>
    if ofFunctions then
      modify fun s => { s with functions := .ofList (s.functions.toList.filter (·.1 ≠ name)) }
    else declare name none false false

/-- Replaces the arguments of the shell. -/
def setArguments (arguments : List String) : Step Unit :=
  modify fun s => { s with arguments, optionIndex := 1, optionOffset := none }

/-- Sets options and arguments of the shell, or shows its variables. -/
def setCommand (arguments : List String) : Step Unit := do
  if arguments = [] then
    setStatus 0
    showVariables "" (·.value.isSome)
  else
    let (_, operands) ← setOptions false arguments
    if operands ≠ [] then setArguments operands
    setStatus 0

/-- The number that an argument is, which has to count something. -/
def countOf (text : String) : Step Nat :=
  match count? text with
  | some n => return n
  | none => fail s!"Illegal number: {text}"

/-- Drops the first arguments of the shell. -/
def shift (arguments : List String) : Step Unit := do
  let count ← match arguments with
    | [] => pure 1
    | text :: _ => countOf text
  let s ← get
  if s.arguments.length < count then fail "can't shift that many"
  setArguments (s.arguments.drop count)
  setStatus 0

/-- The characters of a line, where a backslash quotes the next one. -/
def unescapeLine : List Char → List Glyph
  | '\\' :: c :: rest => ⟨c, true⟩ :: unescapeLine rest
  | ['\\'] => []
  | c :: rest => ⟨c, false⟩ :: unescapeLine rest
  | [] => []

/-- Takes a line of the input, and the lines that continue it. -/
def takeLogicalLine : Nat → Step (List Glyph × Bool)
  | 0 => return ([], false)
  | fuel + 1 => do
    let (line, ended) ← takeLine
    if ended ∧ (line.reverse.takeWhile (· = '\\')).length % 2 = 1 then
      let (more, ended) ← takeLogicalLine fuel
      return (unescapeLine line ++ more, ended)
    else return (unescapeLine line, ended)

/-- Reads a line into variables. -/
def readVariables (arguments : List String) : Step Unit := do
  let (flags, names) ← takeOptions [('p', true), ('r', false)] arguments
  if names = [] then fail "arg count"
  let (line, ended) ←
    if flags.any (·.1 = 'r') then do
      let (line, ended) ← takeLine
      pure (line.map (⟨·, false⟩), ended)
    else takeLogicalLine turnLimit
  let line := line.filter (·.char ≠ '\x00')
  let values := distribute (← get).separators names.length line
  (names.zip values).forM fun (name, value) => assign name value
  setStatus (if ended then 0 else 1)

/-- What is known of an option letter: nothing, or whether it takes an argument. -/
def letterKind? (c : Char) : List Char → Option Bool
  | [] => none
  | d :: ':' :: rest => if c = d then some true else letterKind? c rest
  | d :: rest => if c = d then some false else letterKind? c rest

/-- What reading an option gives. -/
structure OptionRead where
  /-- The value of the variable that tells which option it is. -/
  letter : String
  /-- The argument of the option, if there is one. -/
  argument : Option String
  /-- A complaint. -/
  complaint : Option String := none
  /-- The number of the argument to go on with. -/
  index : Nat
  /-- The characters of the argument before that which are used up, if any are left. -/
  offset : Option Nat
  /-- Whether no option was left. -/
  isDone : Bool := false

/-- Reads the next option from a list of arguments, of which some are read already. -/
def readOption (known : String) (arguments : List String) (index : Nat) (offset : Option Nat) :
    OptionRead :=
  let before := if index ≤ 1 then "" else (arguments[index - 2]?).getD ""
  let left := match offset with
    | some offset => before.toList.drop offset
    | none => []
  let isQuiet := known.startsWith ":"
  let start : Option (String × List Char × Nat) :=
    if left ≠ [] then some (before, left, index)
    else match (arguments[index - 1]?).map fun word => (word, word.toList) with
      | some (word, '-' :: c :: letters) => some (word, c :: letters, index + 1)
      | _ => none
  match start with
  | none => { letter := "?", argument := none, index, offset := none, isDone := true }
  | some (word, letters, index) =>
    if word = "--" ∧ letters = ['-'] then
      { letter := "?", argument := none, index, offset := none, isDone := true }
    else
      let c := letters.headD '?'
      let rest := letters.tail
      let here := some (word.length - rest.length)
      match letterKind? c known.toList, rest, arguments[index - 1]? with
      | none, _, _ =>
        { letter := "?", index, offset := here
          argument := if isQuiet then some c.toString else none
          complaint := if isQuiet then none else some s!"Illegal option -{c}" }
      | some false, _, _ => { letter := c.toString, argument := some "", index, offset := here }
      | some true, [], none =>
        { letter := if isQuiet then ":" else "?", index, offset := here
          argument := if isQuiet then some c.toString else none
          complaint := if isQuiet then none else some s!"No arg for -{c} option" }
      | some true, [], some argument =>
        { letter := c.toString, argument := some argument, index := index + 1, offset := none }
      | some true, rest, _ =>
        { letter := c.toString, argument := some (String.ofList rest), index, offset := none }

/-- The name of the variable that holds the argument of an option. -/
def optionArgumentName : String := "OPTARG"

/-- Reads the next option from the arguments of the shell, or from given ones. -/
def getopts (arguments : List String) : Step Unit := do
  match ← operandsOf arguments with
  | known :: name :: given =>
    let s ← get
    let source := if given = [] then s.arguments else given
    let (index, offset) :=
      if source.length + 1 < s.optionIndex then (1, none) else (s.optionIndex, s.optionOffset)
    let found := readOption known source index offset
    if let some complaint := found.complaint then write 2 (complaint ++ "\n")
    if !found.isDone then
      match found.argument with
      | some argument => assign optionArgumentName argument
      | none => declare optionArgumentName none false false
    assign State.optionsName (toString found.index)
    assign name found.letter
    modify fun s => { s with
      optionIndex := found.index, optionOffset := found.offset
      status := if found.isDone then 1 else 0 }
  | _ => fail "Usage: getopts optstring var [arg...]"

end ContestJudge.Shell.Step
