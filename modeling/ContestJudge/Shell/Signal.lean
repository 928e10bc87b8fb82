import ContestJudge.Shell.Number

/-!
# Signals

The signals of the system by name and number, and how a shell tells that one has ended a process.
-/

namespace ContestJudge.Shell.Signal

/-- The signals by name. -/
def names : List (String × Nat) :=
  [("EXIT", 0), ("HUP", 1), ("INT", 2), ("QUIT", 3), ("ILL", 4), ("TRAP", 5), ("ABRT", 6),
    ("BUS", 7), ("FPE", 8), ("KILL", 9), ("USR1", 10), ("SEGV", 11), ("USR2", 12), ("PIPE", 13),
    ("ALRM", 14), ("TERM", 15), ("CHLD", 17), ("CONT", 18), ("STOP", 19),
    ("TSTP", 20), ("TTIN", 21), ("TTOU", 22), ("URG", 23), ("XCPU", 24), ("XFSZ", 25),
    ("VTALRM", 26), ("PROF", 27), ("WINCH", 28), ("IO", 29), ("PWR", 30), ("SYS", 31)]
    ++ (List.range 31).map fun n =>
      (if n = 0 then "RTMIN"
        else if n = 30 then "RTMAX"
        else if n < 16 then s!"RTMIN+{n}"
        else s!"RTMAX-{30 - n}", 34 + n)

/-- The signal that tells a process that one that it has started has ended. -/
def childEnded : Nat := 17

/-- The number after the last signal. -/
def bound : Nat := 65

/-- The number of a signal that is given as one. -/
def ofDigits? (text : String) : Option Nat :=
  if text ≠ "" ∧ text.toList.all Char.isDigit then
    let (n, _) := splitDigits 10 text.toList
    if n < bound then some n else none
  else none

/-- The number of a signal that is given by number or name, of those from `least` on. -/
def ofText? (least : Nat) (text : String) : Option Nat :=
  (ofDigits? text).or <|
    (names.find? fun (name, n) => least ≤ n && name = text.toUpper).map (·.2)

/-- The name of a signal. -/
def name (signal : Nat) : String :=
  ((names.find? (·.2 = signal)).map (·.1)).getD (toString signal)

/-- The signals that do nothing to a process that does not wait for them. -/
def idle : List Nat := [0, 17, 18, 23, 28]

/-- The signals that stop a process. -/
def stopping : List Nat := [19, 20, 21, 22]

/-- The signals that nothing can be done about. -/
def fixed : List Nat := [9, 19]

/-- What is said of a process that a signal has ended, unless it was meant to. -/
def farewell? (signal : Nat) : Option String :=
  match signal with
  | 1 => some "Hangup"
  | 2 => none
  | 3 => some "Quit"
  | 4 => some "Illegal instruction"
  | 5 => some "Trace/breakpoint trap"
  | 6 => some "Aborted"
  | 7 => some "Bus error"
  | 8 => some "Floating point exception"
  | 9 => some "Killed"
  | 10 => some "User defined signal 1"
  | 11 => some "Segmentation fault"
  | 12 => some "User defined signal 2"
  | 13 => none
  | 14 => some "Alarm clock"
  | 15 => some "Terminated"
  | 16 => some "Stack fault"
  | 24 => some "CPU time limit exceeded"
  | 25 => some "File size limit exceeded"
  | 26 => some "Virtual timer expired"
  | 27 => some "Profiling timer expired"
  | 29 => some "I/O possible"
  | 30 => some "Power failure"
  | 31 => some "Bad system call"
  | _ => some s!"Real-time signal {signal - 34}"

end ContestJudge.Shell.Signal
