import ContestJudge.FileTree.Operations
import ContestJudge.NameMap
import ContestJudge.Process.Outcome
import ContestJudge.Shell.Ceiling
import ContestJudge.Shell.Script
import ContestJudge.Shell.Signal
import ContestJudge.Text.Utf8

/-!
# The state of a running shell

Some of the state is shared by all shells of a process: the files, the clock, the channels that
descriptors lead to, and what was written. The rest belongs to one shell, and a shell that runs
inside another one leaves it as it was.
-/

namespace ContestJudge.Shell

open Text

/-- What a descriptor leads to. -/
inductive Channel where
  /-- Octets that are still to be read, from some time on. -/
  | source (rest : List Char) (ready : Nat)
  /-- Nothing to be read yet, and nothing will come. -/
  | silent
  /-- An output stream of the process. -/
  | stream (stream : OutputStream)
  /-- A text that is collected, newest part first, and its length. -/
  | capture (parts : List String) (size : Nat)
  /-- A file, from some octet on, or else its end. -/
  | file (place : Place) (offset : Option Nat)
  /-- Nothing. -/
  | nowhere
  deriving Inhabited

/-- A command that was not waited for. -/
structure Job where
  /-- Its number. -/
  number : Nat
  /-- The process that started it. -/
  owner : Nat
  /-- When it ends, if it does. -/
  ended : Option Nat
  /-- How it ends. -/
  status : Nat
  /-- The signal that ends it, if one does. -/
  signal : Option Nat
  /-- The streams that it keeps open. -/
  holds : List OutputStream

/-- A signal that is on its way to a process. -/
structure Sending where
  /-- The process. -/
  process : Nat
  /-- The signal. -/
  signal : Nat
  /-- When it comes. -/
  time : Nat
  deriving DecidableEq, Repr

/-- What a process does on a signal instead of ending; signal 0 is its end. An empty script ignores
the signal. -/
structure Trap where
  /-- The process. -/
  process : Nat
  /-- The signal. -/
  signal : Nat
  /-- What is run. -/
  script : String
  deriving DecidableEq, Repr

/-- A variable. -/
structure Variable where
  /-- Its value, if it has one. -/
  value : Option String := none
  /-- Whether programs get to see it. -/
  isExported : Bool := false
  /-- Whether it stays as it is. -/
  isReadOnly : Bool := false
  deriving DecidableEq, Repr, Inhabited

/-- What the shells of a process share. -/
structure Shared where
  /-- The files. -/
  files : FileTree
  /-- The milliseconds since the process was launched. -/
  clock : Nat
  /-- What descriptors lead to. -/
  channels : Array Channel
  /-- What was written to the streams and when, newest first. -/
  written : List (Nat × OutputStream × String)
  /-- The octets that may still be written to the streams. -/
  room : Nat
  /-- The commands that were not waited for. -/
  jobs : List Job
  /-- The number of the next process. -/
  nextNumber : Nat
  /-- What processes do on signals. -/
  traps : List Trap
  /-- The processes and signals that came to them and have not run their scripts yet, newest first.
  -/
  arrived : List (Nat × Nat)
  /-- The signals that processes have sent to other ones that have not come so far, newest first. -/
  sent : List Sending

/-- What belongs to one shell. -/
structure Own where
  /-- The number of its process. -/
  process : Nat
  /-- The numbers of the processes that wait for it, innermost first. -/
  ancestors : List Nat := []
  /-- The number of the process that the shell was when it started. -/
  number : Nat
  /-- The directory where relative paths start. -/
  directory : Place
  /-- The path by which the shell came there. -/
  route : String
  /-- The channel of each descriptor. -/
  descriptors : List (Nat × Nat)
  /-- The variables. -/
  bindings : NameMap Variable
  /-- What variables were before they became local, for each function that runs, innermost first. -/
  frames : List (List (String × Option Variable)) := []
  /-- The commands that have a name. -/
  functions : NameMap Command := .empty
  /-- The texts that stand for the first word of a command. -/
  aliases : NameMap String := .empty
  /-- The commands that were found in the search path. -/
  found : List String := []
  /-- The arguments. -/
  arguments : List String := []
  /-- The number of the argument where options are to be read. -/
  optionIndex : Nat := 1
  /-- The characters of the argument before that which were read as options already, if any are left.
  -/
  optionOffset : Option Nat := none
  /-- What the shell calls itself. -/
  name : String
  /-- The command of the shell that runs. -/
  commandName : Option String := none
  /-- The line that runs. -/
  line : Nat := 1
  /-- How the last command ended. -/
  status : Nat := 0
  /-- How the last command ended whose output was taken since the current command began. -/
  outputStatus : Nat := 0
  /-- How the last command ended before what runs now because of a signal, or at the end. -/
  savedStatus : Option Nat := none
  /-- The number of the last job. -/
  lastJob : Option Nat := none
  /-- The letters of the options that are on. -/
  options : List Char := []
  /-- How many loops surround what runs. -/
  loops : Nat := 0
  /-- Whether the success of the running command is being asked for. -/
  isTested : Bool := false
  /-- The permissions that new files do not get. -/
  mask : Nat := 18
  /-- Whether something was written to the standard output and went nowhere. -/
  lostOutput : Bool := false
  /-- The limits. -/
  ceiling : Ceiling

/-- The state of a running shell. -/
structure State extends Shared, Own

/-- Why a shell does not go on with the next command. -/
inductive Leave where
  /-- It ends. -/
  | ended
  /-- It ends because of an error, unless that is kept within a command. -/
  | failed
  /-- The function ends, perhaps with a status that was given. -/
  | returned (given : Bool)
  /-- So many loops end. -/
  | left (levels : Nat)
  /-- So many loops end, but the last of them goes on. -/
  | resumed (levels : Nat)
  /-- A process gets a signal that ends it. -/
  | killed (process signal : Nat)
  /-- Nothing happens any more. -/
  | idle
  /-- Nothing new happens any more, and that keeps the processor busy. -/
  | busy
  /-- More is written than anybody reads. -/
  | flooded
  deriving DecidableEq, Repr

/-- A step of a shell. -/
abbrev Step := ExceptT Leave (StateM State)

/-- The octets that a process writes before it counts as doing so forever. -/
def writeLimit : Nat := Nat.pow 2 21

namespace State

/-- The files, seen from the directory of the shell. -/
def tree (s : State) : FileTree := { s.files with current := s.directory }

/-- The channel of a descriptor. -/
def channel? (s : State) (descriptor : Nat) : Option (Nat × Channel) := do
  let index ← s.descriptors.lookup descriptor
  return (index, ← s.channels[index]?)

/-- Lets a descriptor lead to a channel. -/
def connect (s : State) (descriptor index : Nat) : State :=
  { s with descriptors := (descriptor, index) :: s.descriptors.filter (·.1 ≠ descriptor) }

/-- Closes a descriptor. -/
def disconnect (s : State) (descriptor : Nat) : State :=
  { s with descriptors := s.descriptors.filter (·.1 ≠ descriptor) }

/-- Lets a descriptor lead to a new channel. -/
def opened (s : State) (descriptor : Nat) (channel : Channel) : State :=
  { s with channels := s.channels.push channel }.connect descriptor s.channels.size

/-- The output streams that the descriptors of the shell lead to. -/
def heldStreams (s : State) : List OutputStream :=
  [.stdout, .stderr].filter fun stream => s.descriptors.any fun (_, index) =>
    match s.channels[index]? with
    | some (.stream other) => stream = other
    | _ => false

/-- Whether an option is on. -/
def has (s : State) (option : Char) : Bool := s.options.contains option

/-- The name of the variable that tells how many arguments were read as options. -/
def optionsName : String := "OPTIND"

/-- The name of the variable that tells the path by which the shell came to its directory. -/
def routeName : String := "PWD"

/-- The name of the variable that tells where commands are looked for. -/
def pathName : String := "PATH"

/-- The value of a variable. -/
def valueOf (s : State) (name : String) : Option String :=
  (s.bindings.get? name).bind (·.value)

/-- Whether a variable stays as it is. -/
def isReadOnly (s : State) (name : String) : Bool :=
  (s.bindings.get? name).any (·.isReadOnly)

/-- Sets a variable or removes it. -/
def bind (s : State) (name : String) (new : Option Variable) : State :=
  match new with
  | some v => { s with bindings := s.bindings.insert name v }
  | none => { s with bindings := .ofList (s.bindings.toList.filter (·.1 ≠ name)) }

/-- The characters that separate fields. -/
def separators (s : State) : List Char := ((s.valueOf "IFS").getD " \t\n").toList

/-- What separates the arguments when they become one text. -/
def joiner (s : State) : String := String.ofList (s.separators.take 1)

/-- What a process does on a signal, if that is special. -/
def trap? (s : State) (process signal : Nat) : Option String :=
  (s.traps.find? fun t => t.process = process && t.signal = signal).map (·.script)

/-- Whether the shell runs something on some signal. -/
def hasTraps (s : State) : Bool := s.traps.any fun t => t.process = s.process && t.script ≠ ""

/-- Sets what a process does on a signal. -/
def setTrap (s : State) (process signal : Nat) (script? : Option String) : State :=
  let others := s.traps.filter fun t => t.process ≠ process || t.signal ≠ signal
  { s with traps := (script?.map (⟨process, signal, ·⟩)).toList ++ others }

/-- The shell as a process of another number, which ignores the same signals. -/
def asProcess (s : State) (process : Nat) : State :=
  let ignored := s.traps.filterMap fun t =>
    if t.process = s.process ∧ t.script = "" then some { t with process } else none
  { s with
    process
    ancestors := if process = s.process then s.ancestors else s.process :: s.ancestors
    traps := ignored ++ s.traps.filter (·.process ≠ process) }

/-- The commands that the process has started and not waited for. -/
def ownJobs (s : State) : List Job := s.jobs.filter (·.owner = s.process)

/-- The state where the commands that the process has started are nobody's. -/
def withoutJobs (s : State) : State :=
  { s with jobs := s.jobs.map fun job =>
      if job.owner = s.process then { job with owner := 0 } else job }

/-- The state where the process has got a signal for which it has a script. -/
def notified (s : State) (process signal : Nat) : State :=
  match s.trap? process signal with
  | some script => if script = "" then s else { s with arrived := (process, signal) :: s.arrived }
  | none => s

end State

namespace Step

/-- Replaces the files. -/
def setFiles (files : FileTree) : Step Unit := modify fun s => { s with files }

/-- Sets how the last command ended. -/
def setStatus (status : Nat) : Step Unit := modify fun s => { s with status }

/-- Ends the shell. -/
def finish {α : Type} (status : Nat) : Step α := do
  setStatus status
  throw .ended

/-- Lets time pass. -/
def pass (millis : Nat) : Step Unit := modify fun s => { s with clock := s.clock + millis }

/-- Writes to a descriptor. If it is closed, or only good for reading, nothing becomes of it. -/
def write (descriptor : Nat) (text : String) : Step Unit := do
  if text = "" then return
  let s ← get
  match s.channel? descriptor with
  | some (_, .stream stream) =>
    set { s with written := (s.clock, stream, text) :: s.written, room := s.room - text.length }
    if s.room ≤ text.length then throw .flooded
  | some (index, .capture parts size) =>
    set { s with channels := s.channels.set! index (.capture (text :: parts) (size + text.length)) }
    if writeLimit ≤ size then throw .flooded
  | some (index, .file place offset) =>
    match s.files.get? place with
    | some (.file content executable) =>
      let start := offset.getD content.length
      let before := content.take start
      let gap := List.replicate (start - content.length) 0
      let after := content.drop (start + text.length)
      setFiles (s.files.set place (.file (before ++ gap ++ Octets.toBytes text ++ after) executable))
      let next := offset.map (· + text.length)
      modify fun s => { s with channels := s.channels.set! index (.file place next) }
    | _ => return
  | some (_, .nowhere) => return
  | _ => modify fun s => { s with lostOutput := s.lostOutput || descriptor = 1 }

/-- Writes a complaint. -/
def complain (message : String) : Step Unit := do
  let s ← get
  let command := (s.commandName.map (· ++ ": ")).getD ""
  write 2 s!"{s.name}: {s.line}: {command}{message}\n"

/-- Complains and gives up. -/
def fail {α : Type} (message : String) : Step α := do
  complain message
  setStatus 2
  throw .failed

/-- Takes octets from the input that a function chooses, as far as there are any. -/
def takeFrom {α : Type} (none? : α) (choose : List Char → α × List Char) : Step α := do
  let s ← get
  match s.channel? 0 with
  | some (index, .source rest ready) =>
    let (taken, rest) := choose rest
    set { s with
      clock := max s.clock ready
      channels := s.channels.set! index (.source rest ready) }
    return taken
  | some (index, .file place (some offset)) =>
    match s.files.get? place with
    | some (.file content _) =>
      let all := (Octets.ofBytes (content.drop offset)).toList
      let (taken, rest) := choose all
      let next := offset + (all.length - rest.length)
      set { s with channels := s.channels.set! index (.file place (some next)) }
      return taken
    | _ => return none?
  | some (_, .silent) => throw .idle
  | _ => return none?

/-- Takes all that is left of the input. -/
def takeInput : Step String := takeFrom "" fun rest => (String.ofList rest, [])

/-- Takes a line of the input, and says whether it has an end. -/
def takeLine : Step (List Char × Bool) := takeFrom ([], false) fun rest =>
  let (line, after) := rest.span (· ≠ '\n')
  ((line, !after.isEmpty), after.drop 1)

/-- Gives a variable a value. -/
def assign (name value : String) : Step Unit := do
  let s ← get
  let old := (s.bindings.get? name).getD {}
  if !isName name then fail s!"{name}: bad variable name"
  if old.isReadOnly then fail s!"{name}: is read only"
  let s := s.bind name (some { old with
    value := some value, isExported := old.isExported || s.has 'a' })
  set (if name = State.optionsName then
      { s with optionIndex := max 1 ((count? value).getD 1), optionOffset := none }
    else if name = State.pathName then { s with found := [] }
    else s)

/-- Lets a variable end with the innermost frame; what it was before comes back then. -/
def makeLocal (name : String) : Step Unit := do
  let s ← get
  match s.frames with
  | [] => return
  | frame :: frames => set { s with frames := ((name, s.bindings.get? name) :: frame) :: frames }

/-- Runs something, and then brings back a part of the state from before, however it ended. -/
def keeping (restore : State → State → State) (body : Step Unit) : Step Unit := ExceptT.mk fun s =>
  let (result, after) := body s
  (result, restore s after)

/-- What stands for the options among local variables. -/
def optionsKey : String := "-"

/-- Runs something whose local variables end with it. -/
def framed (body : Step Unit) : Step Unit := ExceptT.mk fun s =>
  let (result, after) := body { s with frames := [] :: s.frames }
  let frame := after.frames.headD []
  (result, { frame.foldl restore after with frames := s.frames })
where
  /-- Brings back what a variable was before, or the options. -/
  restore (s : State) : String × Option Variable → State
    | (name, old) =>
      if name = optionsKey then { s with options := ((old.bind (·.value)).getD "").toList }
      else s.bind name old

/-- Runs something as a process of its own, and gives the signal that ends it. What becomes of that
process ends nothing else. -/
def contained (body : Step Unit) : Step (Option Nat) := ExceptT.mk fun s =>
  let process := s.nextNumber
  let (result, after) := body ({ s with nextNumber := process + 1 }.asProcess process)
  let back (status : Nat) : State :=
    State.notified { after with toOwn := { s.toOwn with status := status } } s.process
      Signal.childEnded
  let gone (signal : Nat) (s : State) := (.ok (some signal), { s with status := 128 + signal })
  match result with
  | .error (.killed target signal) =>
    if target = process then gone signal (back 0)
    else (.error (.killed target signal), back after.status)
  | .error .idle => (.error .idle, back after.status)
  | .error .busy =>
    match after.ceiling.lastSecond? with
    | some (seconds, signal) => gone signal { back 0 with clock := after.clock + seconds * 1000 }
    | none => (.error .busy, back after.status)
  | .error .flooded => (.error .flooded, back after.status)
  | _ => (.ok none, back (after.status % 256))

/-- Runs something as a process of its own. If a signal ends that, it is said. -/
def inside (body : Step Unit) : Step Unit := do
  let signal? ← contained body
  (signal?.bind Signal.farewell?).forM fun farewell => write 2 (farewell ++ "\n")

/-- The output of something that runs in a process of its own. If it writes forever, that is cut
off. -/
def capturing (body : Step Unit) : Step String := do
  let index := (← get).channels.size
  modify fun s => { s with channels := s.channels.push (.capture [] 0) }
  try inside (do modify (·.connect 1 index); body)
  catch leave =>
    match leave, (← get).channels[index]? with
    | .flooded, some (.capture _ size) => if size < writeLimit then throw leave
    | leave, _ => throw leave
  match (← get).channels[index]? with
  | some (.capture parts _) => return String.join parts.reverse
  | _ => return ""

/-- Runs something while its success is being asked for, and says whether it succeeds. -/
def succeeds (body : Step Unit) : Step Bool := ExceptT.mk fun s =>
  let (result, after) := body { s with isTested := true }
  (result.map fun () => after.status = 0, { after with isTested := s.isTested })

/-- Ends the shell if the last command failed and a failure ends it. -/
def checkFailure : Step Unit := do
  let s ← get
  if s.has 'e' ∧ !s.isTested ∧ s.status ≠ 0 then throw .ended

/-- Runs something that is not waited for. -/
def unattended (body : Step Unit) : Step Unit := ExceptT.mk fun s =>
  let number := s.nextNumber
  let start := ({ s with nextNumber := number + 1, isTested := false }.asProcess number).opened 0
    .nowhere
  let (result, after) := body start
  let (ended, status, signal) := match result with
    | .error .idle => (none, after.status, none)
    | .error .flooded => (none, after.status, none)
    | .error .busy =>
      match after.ceiling.lastSecond? with
      | some (seconds, signal) => (some (after.clock + seconds * 1000), 128 + signal, some signal)
      | none => (none, after.status, none)
    | .error (.killed target signal) =>
      if target = number then (some after.clock, 128 + signal, some signal)
      else (some after.clock, after.status % 256, none)
    | _ => (some after.clock, after.status % 256, none)
  let job := { number, owner := s.process, ended, status, signal, holds := after.heldStreams }
  let back := { after with
    toOwn := { s.toOwn with status := 0, lastJob := some number }
    clock := s.clock
    jobs := job :: after.jobs }
  match result with
  | .error (.killed target signal) =>
    if target = number then (.ok (), back) else (.error (.killed target signal), back)
  | _ => (.ok (), back)

/-- The most turns of a loop; one that takes more counts as going on forever. -/
def turnLimit : Nat := 100000

/-- Goes on from one value to the next one, as long as that says so, and gives the last one. -/
def follow {α : Type} (turns : Nat) (next : α → Step (α × Bool)) (now : α) : Step α :=
  match turns with
  | 0 => throw .busy
  | turns + 1 => ExceptT.mk fun s =>
    match next now s with
    | (.ok (later, true), s) => follow turns next later s
    | (.ok (later, false), s) => (.ok later, s)
    | (.error leave, s) => (.error leave, s)

/-- Runs something inside one more loop. -/
def looped (body : Step Unit) : Step Unit := ExceptT.mk fun s =>
  let (result, after) := body { s with loops := s.loops + 1 }
  (result, { after with loops := s.loops })

/-- Runs a part of a loop: it gives a value, unless it ends the turn, or the loop; then it is told
whether the loop goes on. -/
def turn {α : Type} (part : Step α) : Step (α ⊕ Bool) := do
  try return .inl (← part)
  catch
    | .left levels => if levels ≤ 1 then return .inr false else throw (.left (levels - 1))
    | .resumed levels => if levels ≤ 1 then return .inr true else throw (.resumed (levels - 1))
    | leave => throw leave

/-- Runs something, and brings back descriptors that it may change. -/
def restoring (descriptors : List Nat) (body : Step Unit) : Step Unit :=
  keeping (fun s after => descriptors.foldl (fun after descriptor =>
    match s.descriptors.lookup descriptor with
    | some index => after.connect descriptor index
    | none => after.disconnect descriptor) after) body

/-- Does what a signal does to the process. -/
def receive (signal : Nat) : Step Unit := do
  let s ← get
  if (s.trap? s.process signal).isSome ∧ !Signal.fixed.contains signal then
    set (s.notified s.process signal)
  else if Signal.stopping.contains signal then throw .idle
  else if !Signal.idle.contains signal then throw (.killed s.process signal)

/-- Receives the signals that other processes have sent by now. -/
def receiveSent : Step Unit := do
  let s ← get
  let (due, later) := s.sent.partition fun d => d.process = s.process && d.time ≤ s.clock
  set { s with sent := later }
  due.reverse.forM fun d => do
    modify fun s => { s with clock := d.time }
    receive d.signal
    modify fun after => { after with clock := s.clock }

/-- Says whether something that may fail did not. -/
def attempt (body : Step Unit) : Step Bool := do
  try
    body
    return true
  catch
    | .failed => return false
    | leave => throw leave

end Step

end ContestJudge.Shell
