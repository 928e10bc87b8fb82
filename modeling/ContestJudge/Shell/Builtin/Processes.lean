import ContestJudge.Shell.Builtin.Variables
import ContestJudge.Shell.Mode

/-!
# Commands for processes

The commands of a shell that send signals and wait for jobs, and that set what a process does on
signals and what it may use.
-/

namespace ContestJudge.Shell.Step

/-- How the usage of the command that sends signals is told. -/
def killUsage : String :=
  "Usage: kill [-s sigspec | -signum | -sigspec] [pid | job]... or\nkill -l [exitstatus]"

/-- Whether a job has not ended yet. -/
def isRunning (s : State) (job : Job) : Bool := job.ended.all (s.clock < ·)

/-- The job that an argument means: by its place, or the last one. -/
def jobOf (text : String) : Step Job := do
  let jobs := (← get).ownJobs
  let found := match text.toList with
    | ['%'] => jobs.head?
    | ['%', '%'] => jobs.head?
    | ['%', '+'] => jobs.head?
    | ['%', '-'] => jobs[1]?
    | '%' :: digits =>
      if digits.all Char.isDigit then
        let n := (splitDigits 10 digits).1
        if n = 0 then none else jobs.reverse[n - 1]?
      else none
    | _ => none
  match found with
  | some job => return job
  | none => fail s!"No such job: {text}"

/-- Sends a signal to a process, and says whether there is one. Only the first process leads a
group. A process that waits for this one does not notice before it has come so far. -/
def sendSignal (signal number : Nat) : Step Bool := do
  let s ← get
  let target := if number = 0 then s.number else number
  if target = s.process then
    receive signal
    return true
  else if s.ancestors.contains target then
    set { s with sent := ⟨target, signal, s.clock⟩ :: s.sent }
    return true
  else if s.jobs.any fun job => job.number = number && isRunning s job then
    set { s with jobs := s.jobs.map fun (job : Job) =>
      if job.number = number ∧ !Signal.idle.contains signal ∧ isRunning s job then
        { job with ended := some s.clock, status := 128 + signal, signal := some signal }
      else job }
    return true
  else return s.jobs.any (·.number = number)

/-- Sends a signal to what an argument means. A job leads no group, so none is found for it. -/
def sendTo (signal : Nat) (target : String) : Step Bool := do
  if target.startsWith "%" then
    let _ ← jobOf target
    return false
  else
    let digits := if target.startsWith "-" then String.ofList (target.toList.drop 1) else target
    sendSignal signal (← countOf digits)

/-- Tells the name of a signal, or of the one that an exit code stands for; or all names. -/
def tellSignal : List String → Step Unit
  | [] => do
    let names := (List.range (Signal.bound - 1)).map fun n => Signal.name (n + 1)
    write 1 (String.join (("0" :: names).map (· ++ "\n")))
  | text :: _ => do
    let n ← countOf text
    let signal := if 128 < n then n - 128 else n
    if 0 < signal ∧ signal < Signal.bound then write 1 (Signal.name signal ++ "\n")
    else fail s!"invalid signal number or exit status: {text}"

/-- Sends a signal to processes, or tells the names of signals. -/
def kill (arguments : List String) : Step Unit := do
  let direct? := match arguments with
    | word :: _ =>
      if word.startsWith "-" then Signal.ofText? 1 (String.ofList (word.toList.drop 1)) else none
    | [] => none
  let (isList, signal?, targets) ← match direct? with
    | some signal => pure (false, some signal, arguments.drop 1)
    | none => do
      let (flags, targets) ← takeOptions [('l', false), ('s', true)] arguments
      let signals ← (flags.filter (·.1 = 's')).mapM fun (_, name) =>
        match Signal.ofText? 1 name with
        | some signal => pure signal
        | none => fail s!"invalid signal number or name: {name}"
      pure (flags.any (·.1 = 'l'), signals.getLast?, targets)
  if isList then
    if signal?.isSome then fail killUsage
    tellSignal targets
    setStatus 0
  else
    if targets = [] then fail killUsage
    setStatus 0
    targets.forM fun target => do
      if !(← sendTo (signal?.getD 15) target) then
        complain "No such process\n"
        setStatus 1

/-- Waits until a job has ended, and tells which signal ended it if that is news. -/
def await (job : Job) : Step Unit := do
  match job.ended with
  | none => throw .idle
  | some ended =>
    let s ← get
    set { s with clock := max s.clock ended, status := job.status }
    if s.clock ≤ ended then
      modify fun s => s.notified s.process Signal.childEnded
      write 2 (((job.signal.bind Signal.farewell?).map (· ++ "\n")).getD "")

/-- Waits for jobs: all of them, or those of some numbers. -/
def wait (arguments : List String) : Step Unit := do
  let operands ← operandsOf arguments
  let s ← get
  if operands = [] then
    let jobs := s.ownJobs
    if jobs.any (·.ended.isNone) then throw .idle
    let ends := jobs.filterMap (·.ended)
    set { s with clock := ends.foldl max s.clock, status := 0 }
    if ends.any (s.clock ≤ ·) then modify fun s => s.notified s.process Signal.childEnded
  else
    operands.forM fun operand => do
      if operand.startsWith "%" then await (← jobOf operand)
      else
        let number ← countOf operand
        match (← get).ownJobs.find? (·.number = number) with
        | some job => await job
        | none => setStatus 127

/-- How a job does. -/
def jobState (s : State) (job : Job) : String :=
  if isRunning s job then "Running"
  else match job.signal.bind Signal.farewell? with
    | some farewell => farewell
    | none => if job.status = 0 then "Done" else s!"Done({job.status})"

/-- Shows the jobs, newest first. -/
def showJobs : Step Unit := do
  let s ← get
  let jobs := s.ownJobs
  let rows := jobs.zipIdx.map fun (job, i) =>
    let sign := if i = 0 then "+" else if i = 1 then "-" else " "
    let row := s!"[{jobs.length - i}] {sign} {jobState s job}"
    row ++ String.ofList (List.replicate (max 1 (33 - row.length)) ' ') ++ "\n"
  write 1 (String.join rows)

/-- Shows what signals do. -/
def showTraps : Step Unit := do
  let s ← get
  let rows := (List.range Signal.bound).filterMap fun signal =>
    (s.trap? s.process signal).map fun script =>
      s!"trap -- {singleQuote script} {Signal.name signal}\n"
  write 1 (String.join rows)

/-- Sets what signals do, one after the other: run a script, nothing, or what they usually do. -/
def setTraps (script? : Option String) : List String → Step Unit
  | [] => setStatus 0
  | name :: names => do
    match Signal.ofText? 0 name with
    | some signal =>
      modify fun s => s.setTrap s.process signal script?
      setTraps script? names
    | none =>
      write 2 s!"trap: {name}: bad trap\n"
      setStatus 1

/-- Sets what signals do, or shows it. -/
def trap (arguments : List String) : Step Unit := do
  match ← operandsOf arguments with
  | [] => do
    setStatus 0
    showTraps
  | [name] => setTraps none [name]
  | script :: names =>
    if (Signal.ofDigits? script).isSome then setTraps none (script :: names)
    else setTraps (if script = "-" then none else some script) names

/-- The text of a limit. -/
def boundText (bound : Option Nat) : String := ((bound.map toString).getD "unlimited") ++ "\n"

/-- Tells or sets what the process may use. -/
def ulimit (arguments : List String) : Step Unit := do
  let letters := resources.map (·.1)
  let (flags, operands) ← takeOptions (('H' :: 'S' :: 'a' :: letters).map (·, false)) arguments
  let flags := flags.map (·.1)
  let kind := (flags.filter fun c => c = 'H' || c = 'S').getLast?
  let letter := ((flags.filter letters.contains).getLast?).getD 'f'
  let ceiling := (← get).ceiling
  let value := fun (bound : Bound) => if kind = some 'H' then bound.hard else bound.soft
  setStatus 0
  match operands with
  | [] =>
    if flags.contains 'a' then
      write 1 (String.join (resources.map fun (letter, name) =>
        name ++ String.ofList (List.replicate (20 - name.length) ' ') ++ " "
          ++ boundText (value (ceiling.get letter))))
    else write 1 (boundText (value (ceiling.get letter)))
  | [text] =>
    if flags.contains 'a' then fail "too many arguments"
    if text ≠ "unlimited" ∧ !text.toList.all Char.isDigit then fail "bad number"
    let new := if text = "unlimited" then none else some (splitDigits 10 text.toList).1
    let old := ceiling.get letter
    let bound : Bound := {
      soft := if kind = some 'H' then old.soft else new
      hard := if kind = some 'S' then old.hard else new }
    if !atMost bound.soft bound.hard then fail "error setting limit (Invalid argument)"
    if !atMost bound.hard old.hard then fail "error setting limit (Operation not permitted)"
    modify fun s => { s with ceiling := s.ceiling.set letter bound }
  | _ => fail "too many arguments"

/-- Tells or sets the permissions that new files do not get. -/
def umask (arguments : List String) : Step Unit := do
  let (flags, operands) ← takeOptions [('S', false)] arguments
  let mask := (← get).mask
  setStatus 0
  match operands with
  | [] =>
    if flags ≠ [] then
      let part := fun (who : String) (shift : Nat) =>
        who ++ "=" ++ Mode.letters ((Mode.without Mode.all mask) / shift % 8)
      write 1 (",".intercalate [part "u" 64, part "g" 8, part "o" 1] ++ "\n")
    else
      let digits := Nat.toDigits 8 mask
      write 1 (String.ofList (List.replicate (4 - digits.length) '0' ++ digits) ++ "\n")
  | text :: _ =>
    if text.toList.head?.any Char.isDigit then
      match Mode.octal? text.toList with
      | some new => modify fun s => { s with mask := new &&& Mode.all }
      | none => fail s!"Illegal number: {text}"
    else
      match Mode.change? text 0 true (Mode.without Mode.all mask) with
      | some allowed => modify fun s => { s with mask := Mode.without Mode.all (allowed &&& Mode.all) }
      | none => fail s!"Illegal mode: {text}"

/-- Tells the CPU time that was used, which is too little to be seen. -/
def times : Step Unit := do
  setStatus 0
  write 1 (String.join (List.replicate 2 "0m0.000000s 0m0.000000s\n"))

end ContestJudge.Shell.Step
