import ContestJudge.Exchange.Behaviour
import ContestJudge.Shell.Evaluation

/-!
# How a program behaves on the machine

A program is run on its input once and for all, on a clock of its own, and what it did is read off
the final state. A process keeps its output streams open until it and the jobs that it left behind
have ended.
-/

namespace ContestJudge.Machine

open Exchange
open Text

/-- A program that is about to run. -/
structure Loaded where
  /-- The program. -/
  program : Shell.Program
  /-- The directory where it runs. -/
  directory : Path
  /-- What it may use. -/
  ceiling : Shell.Ceiling
  /-- Whether its input is a pipe. -/
  inputPiped : Bool
  /-- Whether each output stream is a pipe. -/
  outputPiped : OutputStream → Bool

/-- What a program did. -/
structure Trace where
  /-- When it ended, if it did. -/
  ended : Option Nat
  /-- How it ended. -/
  status : ExitStatus
  /-- The CPU time it used. -/
  cpuTime : Duration
  /-- What it wrote and when. -/
  written : List (Nat × OutputStream × Bytes)
  /-- When each stream was closed, if it was. -/
  closed : OutputStream → Option Nat
  /-- How much of its input it left unread. -/
  unread : Nat

/-- The milliseconds that starting a program takes. -/
def startTime : Nat := 1

/-- The number of the first process. -/
def firstNumber : Nat := 1000

/-- The home of the user who runs programs. -/
def homePath : String := "/root"

/-- The variables that programs get to see. -/
def surroundings (directory : Path) : List (String × Shell.Variable) :=
  [("HOME", homePath), (Shell.State.pathName, "/usr/local/bin:/usr/bin:/bin"),
    (Shell.State.routeName, Octets.ofText directory.text)].map
      fun (name, value) => (name, { value := some value, isExported := true })

/-- The state of the machine when a program starts. -/
def Loaded.start (p : Loaded) (input : Option Bytes) (files : FileTree) : Shell.State where
  files := files
  clock := startTime
  channels := #[
    match input with
    | some input => if p.inputPiped then .source (Octets.ofBytes input).toList 0 else .nowhere
    | none => if p.inputPiped then .silent else .nowhere,
    if p.outputPiped .stdout then .stream .stdout else .nowhere,
    if p.outputPiped .stderr then .stream .stderr else .nowhere]
  written := []
  room := Shell.writeLimit
  jobs := []
  nextNumber := firstNumber + 1
  traps := []
  arrived := []
  sent := []
  process := firstNumber
  number := firstNumber
  directory := FileTree.placeOf p.directory.text
  route := Octets.ofText p.directory.text
  descriptors := [(0, 0), (1, 1), (2, 2)]
  bindings := .ofList (surroundings p.directory)
  name := p.program.name
  ceiling := p.ceiling

/-- When and how a program ended, and the CPU time that it used. -/
def ending (s : Shell.State) : Except Shell.Leave Unit → Option Nat × ExitStatus × Duration
  | .error (.killed number signal) =>
    (some s.clock, if number = firstNumber then .signaled signal else .exited (128 + signal), usual)
  | .error .idle => (none, .exited 0, usual)
  | .error .busy => overrun
  | .error .flooded => overrun
  | _ => (some s.clock, .exited (s.status % 256), usual)
where
  /-- The CPU time of a program that does little. -/
  usual : Duration := .ofMillis startTime
  /-- The ending of a program that uses up its CPU time. -/
  overrun : Option Nat × ExitStatus × Duration :=
    match s.ceiling.lastSecond? with
    | some (seconds, signal) =>
      (some (s.clock + seconds * 1000), .signaled signal, .ofSeconds seconds)
    | none => (none, .exited 0, usual)

/-- When the last process that holds a stream has ended. -/
def closing (s : Shell.State) (ended : Option Nat) (stream : OutputStream) : Option Nat :=
  let own :=
    if s.heldStreams.contains stream then ended
    else some ((s.written.find? (·.2.1 = stream)).elim startTime (·.1))
  let jobs := (s.jobs.filter (·.holds.contains stream)).map (·.ended)
  jobs.foldl (fun last time => do return max (← last) (← time)) own

/-- Runs a program on an input; without one, its input is open and nothing comes. -/
def Loaded.run (p : Loaded) (input : Option Bytes) (files : FileTree) : Trace × FileTree :=
  let (result, s) := Shell.Step.runProgram Shell.depthLimit p.program (p.start input files)
  let (ended, status, cpuTime) := ending s result
  ({ ended, status, cpuTime
     written := s.written.reverse.map fun (time, stream, text) =>
       (time, stream, Octets.toBytes text)
     closed := closing s ended
     unread := match (s.channels[0]? : Option Shell.Channel) with
       | some (.source rest _) => rest.length
       | _ => 0 }, s.files)

/-- How many bytes a pipe holds that nobody has read. -/
def pipeSize : Nat := 65536

/-- The memory of a program that does little. -/
def usualMemory : Nat := 4 * Nat.pow 2 20

/-- The events of one output stream, in order of time. -/
def Trace.events (t : Trace) (stream : OutputStream) : List (Nat × StreamEvent) :=
  let data := t.written.filterMap fun (time, other, bytes) =>
    if stream = other then some (time, StreamEvent.data bytes) else none
  data.mergeSort (fun a b => a.1 ≤ b.1) ++ ((t.closed stream).map fun time => (time, .ended)).toList

/-- The input pipe of a program that was given some bytes: what it left unread stays in the pipe as
far as that has room, and the rest is refused when the program ends. -/
def Trace.input (t : Trace) (size : Nat) : InputPipe :=
  if t.unread ≤ pipeSize then ⟨[(0, .taken size)], some (0, .closed)⟩
  else
    let refused := (t.ended.map fun time => (time, WriteAnswer.brokenPipe)).toList
    ⟨(0, .taken (size - t.unread + pipeSize)) :: refused, none⟩

/-- The behaviour of a program that did something. -/
def Loaded.behaviour (p : Loaded) (t : Trace) (input : Bytes) : Behaviour where
  input := if p.inputPiped then some (t.input input.length) else none
  output stream := if p.outputPiped stream then some (t.events stream) else none
  exit := t.ended
  status := t.status
  cpuTime := t.cpuTime
  peakMemory := usualMemory
  reportedWall := none
  killFault := none
  waitFault := none

end ContestJudge.Machine
