import ContestJudge.Machine.Run
import ContestJudge.Process.Handle

/-!
# A process under observation

A program that runs on the machine, with the handle on it. Time passes only while somebody waits.
Its input stays open until that is taken; who takes it closes it.
-/

namespace ContestJudge.Machine

open Exchange

/-- A process and the handle on it. -/
structure Launched where
  /-- The program. -/
  program : Loaded
  /-- The files when it was launched. -/
  files : FileTree
  /-- The handle. -/
  handle : Handle
  /-- The milliseconds since the launch. -/
  now : Nat
  /-- When it was killed, if it was. -/
  killed : Option Nat

namespace Launched

/-- A process that was just launched. -/
def start (program : Loaded) (files : FileTree) : Launched where
  program := program
  files := files
  handle := .launch (.ofMillis 0)
    ((if program.inputPiped then [.input] else [])
      ++ ([.stdout, .stderr].filter program.outputPiped).map .output)
  now := 0
  killed := none

/-- How the process behaves, as far as its input has been closed. -/
def behaviour (p : Launched) : Behaviour :=
  let input := if p.handle.pipes.contains .input then none else some []
  p.program.behaviour (p.program.run input p.files).1 []

/-- What the system replies at some time. -/
def reply (p : Launched) (now : Nat) : Reply :=
  let b := p.behaviour
  match b.ending p.killed with
  | some (time, status) =>
    if time ≤ now then .exited status b.cpuTime b.peakMemory else .running
  | none => .running

/-- Takes a pipe. -/
def take (p : Launched) (pipe : Pipe) : Bool × Launched :=
  let move := p.handle.take pipe
  (move.answer, { p with handle := move.handle })

/-- Looks whether the process has exited. -/
def checkExited (p : Launched) : Except String Bool × Launched :=
  let move := p.handle.checkExited (.ofMillis p.now) (p.reply p.now)
  (move.answer, { p with handle := move.handle })

/-- Kills the process. -/
def kill (p : Launched) : Except String Unit × Launched :=
  let move := p.handle.kill .done
  (move.answer, { p with handle := move.handle, killed := p.killed.or (some p.now) })

/-- Waits for the process; `none` if it never exits. -/
def wait (p : Launched) : Option (Except String Usage × Launched) :=
  match p.handle.report with
  | some report => some (.ok report, p)
  | none => do
    let (time, _) ← p.behaviour.ending p.killed
    let now := max p.now time
    let move := p.handle.tryReap (.ofMillis now) (p.reply now)
    let p := { p with handle := move.handle, now }
    match move.answer with
    | .ok report => return (.ok (← report), p)
    | .error message => return (.error message, p)

end Launched

end ContestJudge.Machine
