import ContestJudge.Path.Basic

/-!
# Command-line arguments

Arguments are read in two stages, each with a `Grammar` of its own: those in front of the name of
the command, and those behind it. Every stage knows `--config`, which takes a value, and `--help`.

A value is not looked at when it comes but when something else comes after it or the arguments end.
So of two faults the one that is reported need not be the first one: an argument that nobody knows
is reported in spite of a wrong value right in front of it.
-/

namespace ContestJudge.CommandLine

/-- What arguments ask for. -/
inductive Command where
  /-- Validate problems. -/
  | validate (problems : List String)
  /-- List the problems, one a line or as JSON. -/
  | problems (asJson : Bool)
  /-- Check a solution of a problem. -/
  | check (problem : String) (program : Path)
  /-- Put the settings of a new judge into a directory, if need be instead of those that are there.
  -/
  | prepare (directory : Path) (force : Bool)
  deriving DecidableEq, Repr

/-- A command, with the settings file to use if one is named. -/
structure Invocation where
  settings : Option Path
  command : Command
  deriving DecidableEq, Repr

/-- Why arguments do not lead to a command. -/
inductive UsageFault where
  /-- They ask for an explanation. -/
  | helpWanted
  /-- They ask for the version. -/
  | versionWanted
  /-- There are none. -/
  | nothingGiven
  /-- They name no command. -/
  | noCommand
  /-- They name a command that there is not. -/
  | unknownCommand
  /-- Something that the command needs is not there. -/
  | missingOperand
  /-- An option has no value, or a path is empty. -/
  | invalidValue
  /-- There is an argument that means nothing. -/
  | unknownArgument
  /-- An option or a switch is there twice. -/
  | givenTwice
  /-- A switch has a value. -/
  | unwantedValue
  deriving DecidableEq, Repr

/-- What is shown instead of carrying out a command. -/
def UsageFault.message : UsageFault → String
  | helpWanted | versionWanted | nothingGiven => ""
  | noCommand => "a command is needed"
  | unknownCommand => "there is no such command"
  | missingOperand => "an operand of the command is missing"
  | invalidValue => "a value is missing or empty"
  | unknownArgument => "an argument is not known"
  | givenTwice => "an option cannot be used several times"
  | unwantedValue => "a switch takes no value"

/-- How a program ends that shows a fault: asking for an explanation is not wrong. -/
def UsageFault.exitCode : UsageFault → Nat
  | helpWanted | versionWanted => 0
  | _ => 2

/-- An argument without a value. -/
inductive Flag where
  | help
  | version
  /-- The switch that the command has. -/
  | switch
  deriving DecidableEq, Repr

/-- A place for an operand. -/
inductive Slot where
  /-- A text. -/
  | text
  /-- A path, which may not be empty. -/
  | path
  /-- Any number of texts. -/
  | texts
  deriving DecidableEq, Repr

/-- The arguments that a stage knows. -/
structure Grammar where
  /-- Its flags, by their names and letters. -/
  flags : List (String × Char × Flag)
  /-- Its places for operands. -/
  slots : List Slot
  /-- The names that end the stage. -/
  commandNames : List String

/-- The flag that every stage knows. -/
def helpFlag : String × Char × Flag := ("help", 'h', .help)

/-- The name of the option that names a settings file. -/
def settingsOption : String := "config"

/-- The commands by their names. -/
inductive CommandName where
  | validate
  | problems
  | check
  | init
  | help
  deriving DecidableEq, Repr

namespace CommandName

/-- The names of the commands. -/
def table : List (String × CommandName) :=
  [("validate", .validate), ("v", .validate), ("problems", .problems), ("check", .check),
    ("init", .init), ("help", .help)]

/-- The command of a name. -/
def ofText? (text : String) : Option CommandName := table.lookup text

/-- What may follow the name of a command. -/
def grammar : CommandName → Grammar
  | validate => ⟨[helpFlag], [.texts], []⟩
  | problems => ⟨[helpFlag, ("json", 'j', .switch)], [], []⟩
  | check => ⟨[helpFlag], [.text, .path], []⟩
  | init => ⟨[helpFlag, ("force", 'f', .switch)], [.path], []⟩
  | help => ⟨[], [], []⟩

end CommandName

/-- What may come in front of the name of a command. -/
def Grammar.front : Grammar :=
  ⟨[helpFlag, ("version", 'V', .version)], [], CommandName.table.map (·.1)⟩

namespace Grammar

/-- The flag of a name. -/
def named? (g : Grammar) (name : String) : Option Flag :=
  (g.flags.find? (·.1 = name)).map (·.2.2)

/-- The flag of a letter. -/
def lettered? (g : Grammar) (letter : Char) : Option Flag :=
  (g.flags.find? (·.2.1 = letter)).map (·.2.2)

/-- The place of the next operand after some others. -/
def slot? (g : Grammar) (count : Nat) : Option Slot :=
  if g.slots.getLast? = some .texts then some ((g.slots[count]?).getD .texts) else g.slots[count]?

end Grammar

/-- A value that was not looked at yet. -/
inductive Pending where
  /-- That of the option for the settings, once it is there. -/
  | settings (value : Option String)
  /-- An operand. -/
  | operand (slot : Slot) (value : String)
  deriving DecidableEq, Repr

/-- What the arguments so far have given. -/
structure Given where
  /-- The settings file. -/
  settings : Option Path := none
  /-- Whether the switch is there. -/
  switched : Bool := false
  /-- The operands. -/
  operands : List String := []
  /-- A value that was not looked at yet. -/
  pending : Option Pending := none
  /-- Whether all that follows are operands. -/
  trailing : Bool := false
  deriving DecidableEq, Repr

namespace Given

/-- Looks at the value that was not looked at yet. -/
def settle (g : Given) : Except UsageFault Given :=
  match g.pending with
  | none => .ok g
  | some (.settings none) => .error .invalidValue
  | some (.settings (some value)) =>
    if g.settings.isSome then .error .givenTwice
    else if value = "" then .error .invalidValue
    else .ok { g with settings := some ⟨value⟩, pending := none }
  | some (.operand slot value) =>
    if slot = .path ∧ value = "" then .error .invalidValue
    else .ok { g with operands := g.operands ++ [value], pending := none }

/-- Whether the next argument is the value of an option unless it is an option itself. -/
def awaits (g : Given) : Bool := g.pending = some (.settings none) ∧ !g.trailing

/-- How many operands there are. -/
def operandCount (g : Given) : Nat :=
  match g.pending with
  | some (.operand ..) => g.operands.length + 1
  | _ => g.operands.length

/-- Takes a flag. -/
def takeFlag (g : Given) (flag : Flag) : Except UsageFault Given := do
  let g ← g.settle
  match flag with
  | .help => throw .helpWanted
  | .version => throw .versionWanted
  | .switch => if g.switched then throw .givenTwice else return { g with switched := true }

/-- Takes an argument that begins with two dashes. -/
def takeLong (g : Given) (grammar : Grammar) (name : String) (value : Option String) :
    Except UsageFault Given :=
  if name = settingsOption then do
    let g ← g.settle
    let g := { g with pending := some (.settings value) }
    if value.isSome then g.settle else return g
  else match grammar.named? name with
    | none => .error .unknownArgument
    | some flag => if value.isSome then .error .unwantedValue else g.takeFlag flag

/-- Takes the letters behind a single dash. -/
def takeLetters (grammar : Grammar) (g : Given) : List Char → Except UsageFault Given
  | [] => .ok g
  | letter :: rest =>
    match grammar.lettered? letter with
    | none => .error .unknownArgument
    | some flag => do takeLetters grammar (← g.takeFlag flag) rest

/-- Takes an operand. Where no command was named yet, it can only be a name that no command has. -/
def takeOperand (g : Given) (grammar : Grammar) (value : String) : Except UsageFault Given :=
  match grammar.slot? g.operandCount with
  | some slot => do return { ← g.settle with pending := some (.operand slot value) }
  | none =>
    if grammar.commandNames = [] ∨ grammar.commandNames.contains value then .error .unknownArgument
    else .error .unknownCommand

/-- Takes an argument that is neither an option nor a flag. -/
def takePlain (g : Given) (grammar : Grammar) (value : String) : Except UsageFault Given :=
  if g.awaits then .ok { g with pending := some (.settings (some value)) }
  else g.takeOperand grammar value

/-- Takes an argument other than the name of a command. -/
def take (g : Given) (grammar : Grammar) (argument : String) : Except UsageFault Given :=
  if g.trailing then g.takeOperand grammar argument
  else match argument.toList with
    | ['-', '-'] => .ok { g with trailing := true }
    | '-' :: '-' :: text =>
      let (name, rest) := text.span (· ≠ '=')
      g.takeLong grammar (String.ofList name) (rest.tail?.map String.ofList)
    | '-' :: letter :: letters => takeLetters grammar g (letter :: letters)
    | _ => g.takePlain grammar argument

end Given

/-- Whether an argument is the name of a command, and so ends the stage. -/
def endsStage (grammar : Grammar) (g : Given) (argument : String) : Bool :=
  !g.trailing && !g.awaits && grammar.commandNames.contains argument

/-- Takes the arguments of a stage. The name of the command that ends it comes with what follows it.
-/
def takeStage (grammar : Grammar) (g : Given) :
    List String → Except UsageFault (Given × Option (String × List String))
  | [] => .ok (g, none)
  | argument :: rest =>
    if endsStage grammar g argument then .ok (g, some (argument, rest))
    else do takeStage grammar (← g.take grammar argument) rest

/-- What is wrong with the arguments of a request for help. -/
def helpFault : List String → UsageFault
  | [] => .helpWanted
  | [topic] => if (CommandName.ofText? topic).isSome then .helpWanted else .unknownCommand
  | _ => .unknownCommand

/-- Where settings are put unless another directory is named. -/
def standardDirectory : Path := ⟨"./"⟩

/-- The command of a name with what follows it. -/
def CommandName.command (name : CommandName) (g : Given) : Except UsageFault Command :=
  match name, g.operands with
  | .validate, id :: ids => .ok (.validate (id :: ids))
  | .problems, _ => .ok (.problems g.switched)
  | .check, [problem, program] => .ok (.check problem ⟨program⟩)
  | .init, operands =>
    .ok (.prepare ((operands.head?.map Path.mk).getD standardDirectory) g.switched)
  | _, _ => .error .missingOperand

/-- What arguments ask for. The arguments behind the name of the command are looked at first, and
the settings file named there counts. -/
def Invocation.read (arguments : List String) : Except UsageFault Invocation := do
  match ← takeStage .front {} arguments with
  | (front, none) =>
    let front ← front.settle
    throw (if front.settings.isSome then .noCommand else .nothingGiven)
  | (front, some (text, rest)) =>
    let some name := CommandName.ofText? text | throw .unknownCommand
    if name = .help then throw (helpFault rest)
    let (given, _) ← takeStage name.grammar {} rest
    let given ← given.settle
    let command ← name.command given
    let front ← front.settle
    return ⟨given.settings.or front.settings, command⟩

end ContestJudge.CommandLine
