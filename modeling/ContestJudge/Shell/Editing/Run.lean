import ContestJudge.Shell.Editing.Script
import ContestJudge.Shell.Utility.Lines

/-!
# Running scripts that edit lines

Each line is edited by the whole script and then written. A script that takes too many steps counts
as going on forever.
-/

namespace ContestJudge.Shell.Editing

open Text

/-- A line of the input. -/
structure Line where
  /-- The line without its end. -/
  text : List Char
  /-- Whether it has an end. -/
  hasEnd : Bool
  /-- The name of the file that it comes from. -/
  source : String
  deriving Inhabited

/-- What a place to write to has got. -/
structure Sink where
  /-- What was written, newest first. -/
  parts : List String := []
  /-- Whether the end of a line is missing. -/
  owesEnd : Bool := false

/-- What comes behind the line. -/
inductive Pending where
  /-- A text. -/
  | text (text : List Char)
  /-- A line. -/
  | line (text : List Char)

/-- The name of the place where everything is written that is not for a file. -/
def mainSink : String := "/dev/stdout"

/-- The state of editing. -/
structure State where
  /-- The script. -/
  script : Script
  /-- The lines that are left. -/
  lines : List Line
  /-- The number of the line. -/
  number : Nat := 0
  /-- The line that is edited. -/
  current : Line := default
  /-- The text that is edited. -/
  text : List Char := []
  /-- Whether the end of a line follows the text when it is written. -/
  hasEnd : Bool := true
  /-- The text that is held. -/
  held : List Char := []
  /-- Whether the end of a line follows the text that is held. -/
  heldHasEnd : Bool := true
  /-- What comes behind the line, newest first. -/
  pending : List Pending := []
  /-- Whether something was replaced. -/
  hasReplaced : Bool := false
  /-- The ranges that lines are in: the numbers of commands, and where the range ends if that is
  known. -/
  ranges : List (Nat × Option Nat) := []
  /-- The expression that was used last. -/
  lastRegex : Option Regex := none
  /-- What was written. -/
  sinks : List (String × Sink) := []
  /-- The lines that are left of files that are read line by line. -/
  readers : List (String × List (List Char)) := []
  /-- The contents of files. -/
  contents : String → Option String
  /-- Whether lines are written only when the script says so. -/
  isSilent : Bool
  /-- What ends a line. -/
  ending : Char := '\n'
  /-- Where lines are broken that are shown so that everything can be seen. -/
  width : Nat := 70

/-- What happens next. -/
inductive Leave where
  /-- The next line. -/
  | nextLine
  /-- The end, with a status. -/
  | quit (status : Nat)
  /-- An end because of a fault. -/
  | fault (reason : String)
  /-- Nothing new happens any more. -/
  | busy

/-- A step of editing. -/
abbrev Step := ExceptT Leave (StateM State)

namespace Step

/-- Writes to a place; the end of a line that is missing there comes first. -/
def writeTo (name : String) (text : List Char) (owesEnd : Bool) : Step Unit := modify fun s =>
  let sink := (s.sinks.lookup name).getD {}
  let missing := if sink.owesEnd then s.ending.toString else ""
  let sink := ⟨(missing ++ String.ofList text) :: sink.parts, owesEnd⟩
  { s with sinks := (name, sink) :: s.sinks.filter (·.1 ≠ name) }

/-- Writes a text as a line: its end is missing if that of the line is. -/
def writeLine (name : String) (text : List Char) : Step Unit := do
  let s ← get
  if s.hasEnd then writeTo name (text ++ [s.ending]) false else writeTo name text true

/-- Writes what comes behind the line. -/
def writePending : Step Unit := do
  let pending := (← get).pending.reverse
  modify ({ · with pending := [] })
  pending.forM fun
    | .text text => writeTo mainSink text false
    | .line text => writeLine mainSink text

/-- Whether there is no line left. -/
def isAtEnd : Step Bool := do return (← get).lines.isEmpty

/-- Takes the next line, if there is one. -/
def takeLine : Step Bool := do
  writePending
  let s ← get
  match s.lines with
  | [] => return false
  | line :: lines =>
    set { s with
      lines, current := line, hasEnd := line.hasEnd, number := s.number + 1
      hasReplaced := false }
    return true

/-- The expression that is looked for. -/
def regexOf (what : Finding) : Step Regex := do
  match what.regex.or (← get).lastRegex with
  | some regex =>
    modify ({ · with lastRegex := some regex })
    return regex
  | none => throw (.fault "-e expression #1, char 0: no previous regular expression")

/-- Whether a line is meant. -/
def isMeant : Address → Step Bool
  | .line n => return (← get).number = n
  | .every first step => do
    let n := (← get).number
    return first ≤ n && (n - first) % step = 0
  | .last => isAtEnd
  | .found what => do
    let regex ← regexOf what
    let s := regex.search (← get).text what.ignoresCase what.byLines
    return (regex.find? s 0).isSome

/-- Ends a range. -/
def endRange (index : Nat) : Step Unit :=
  modify fun s => { s with ranges := s.ranges.filter (·.1 ≠ index) }

/-- Begins a range, and says that the line is in it. -/
def beginRange (index : Nat) (stop : RangeEnd) : Step Bool := do
  let n := (← get).number
  let last := match stop with
    | .address (.line m) => some m
    | .more count => some (n + count)
    | .multiple factor => some (if factor = 0 then n else (n / factor + 1) * factor)
    | _ => none
  if last.all (n < ·) then
    modify fun s => { s with ranges := (index, last) :: s.ranges }
  return true

/-- Whether a command applies to the line. -/
def applies (index : Nat) (command : Command) : Step Bool := do
  match command.first, command.second with
  | none, _ => return true
  | some first, none => isMeant first
  | some first, some stop =>
    let s ← get
    let active := match s.ranges.lookup index with
      | some last => some last
      | none => match first with
        | .line 0 => if s.number = 1 then some none else none
        | _ => none
    match active, stop with
    | none, stop => if ← isMeant first then beginRange index stop else return false
    | some (some last), _ =>
      if last ≤ s.number then endRange index
      if s.number ≤ last then return true
      else if ← isMeant first then beginRange index stop else return false
    | some none, .address a =>
      if ← isMeant a then endRange index
      else if s.ranges.lookup index = none then
        modify fun s => { s with ranges := (index, none) :: s.ranges }
      return true
    | some none, _ => return true

/-- What replaces a match, behind what was written already, which is in reverse. A change of case
lasts; another one may count for the next character only. -/
def substituted (part : Nat → List Char) : (lasting once : Option CaseChange) → List Substitute →
    List Char
  | _, _, [] => []
  | lasting, once, first :: rest =>
    match first with
    | .char c =>
      changed lasting once [c] ++ substituted part lasting none rest
    | .part n =>
      let text := part n
      changed lasting once text ++ substituted part lasting (if text = [] then once else none) rest
    | .change .upperOne => substituted part lasting (some .upperOne) rest
    | .change .lowerOne => substituted part lasting (some .lowerOne) rest
    | .change .stop => substituted part none none rest
    | .change change => substituted part (some change) none rest
where
  /-- A text after changes of case. -/
  changed (lasting once : Option CaseChange) (text : List Char) : List Char :=
    let text := match lasting with
      | some .upper => text.map Char.toUpper
      | some .lower => text.map Char.toLower
      | _ => text
    match once, text with
    | some .upperOne, c :: rest => c.toUpper :: rest
    | some .lowerOne, c :: rest => c.toLower :: rest
    | _, text => text

/-- Replaces matches from some index on. Told are the number of the next match and where the last
one ended. The new text is given, and whether something was replaced. -/
def replaced (r : Replacement) (regex : Regex) (s : Regex.Search) :
    (fuel : Nat) → (start count : Nat) → (last : Option Nat) → List Char × Bool
  | 0, start, _, _ => ((s.text.extract start s.text.size).toList, false)
  | fuel + 1, start, count, last =>
    let between := fun a b => (s.text.extract a b).toList
    match regex.find? s start with
    | none => (between start s.text.size, false)
    | some m =>
      let isVain := m.first = m.last ∧ last = some m.first
      let counts := !isVain && r.first ≤ count
      let new := if counts then substituted (m.part s) none none r.substitutes
        else between m.first m.last
      let before := between start m.first ++ new
      let next := if m.first = m.last then m.last + 1 else m.last
      let skipped := between m.last next
      let goesOn := m.last < s.text.size && (!counts || r.isGlobal)
      if goesOn then
        let (rest, hit) := replaced r regex s fuel next (if isVain then count else count + 1)
          (some m.last)
        (before ++ skipped ++ rest, counts || hit)
      else (before ++ between m.last s.text.size, counts)

/-- A character so that it can be seen. -/
def unambiguous (c : Char) : List Char :=
  match [('\\', '\\'), ('\x07', 'a'), ('\x08', 'b'), ('\x0c', 'f'), ('\n', 'n'), ('\r', 'r'),
      ('\t', 't'), ('\x0b', 'v')].lookup c with
  | some letter => ['\\', letter]
  | none =>
    if ' ' ≤ c ∧ c ≤ '~' then [c]
    else
      let digits := Nat.toDigits 8 c.toNat
      '\\' :: List.replicate (3 - digits.length) '0' ++ digits

/-- A text so that everything can be seen, in lines of some width; zero means any width. -/
def shown (width : Nat) (text : List Char) : List Char :=
  let room := width - 1
  let (cs, _) := text.foldl (fun (done, column) c =>
    let next := unambiguous c
    if room < column + next.length ∧ 0 < width then
      (next.reverse ++ ['\n', '\\'] ++ done, next.length)
    else (next.reverse ++ done, column + next.length)) (([] : List Char), 0)
  cs.reverse ++ ['$', '\n']

/-- Puts a line behind a text. -/
def withLine (s : State) (text more : List Char) : List Char := text ++ s.ending :: more

/-- Does what a command does, and says where to go on. -/
def act (index : Nat) (command : Command) : Step Nat := do
  let s ← get
  let next := index + 1
  let firstLine := s.text.takeWhile (· ≠ s.ending)
  match command.action with
  | .block _ => return next
  | .nothing => return next
  | .append text =>
    set { s with pending := .text text :: s.pending }
    return next
  | .insert text =>
    writeTo mainSink text false
    return next
  | .change text =>
    if (s.ranges.lookup index).isNone ∨ command.isNegated then writeTo mainSink text false
    throw .nextLine
  | .jump onlyIf label =>
    let goes := onlyIf.all (· = s.hasReplaced)
    if onlyIf = some true ∨ (onlyIf = some false ∧ s.hasReplaced) then
      set { s with hasReplaced := false }
    if !goes then return next
    else if label = "" then return s.script.commands.size
    else return (s.script.labels.lookup label).getD s.script.commands.size
  | .quit silently status =>
    if !silently then
      if !s.isSilent then writeLine mainSink s.text
      writePending
    throw (.quit status)
  | .readFile name =>
    if let some text := s.contents name then
      set { s with pending := .text text.toList :: s.pending }
    return next
  | .readLine name =>
    let lines := match s.readers.lookup name with
      | some lines => lines
      | none => (linesOf ((s.contents name).getD "").toList).map bareLine
    match lines with
    | [] => return next
    | line :: rest =>
      set { s with
        readers := (name, rest) :: s.readers.filter (·.1 ≠ name)
        pending := .line line :: s.pending }
      return next
  | .write onlyFirst name =>
    writeLine name (if onlyFirst then firstLine else s.text)
    return next
  | .replace r =>
    let regex ← regexOf r.what
    let search := regex.search s.text r.what.ignoresCase r.what.byLines
    let (text, hit) := replaced r regex search (s.text.length + 2) 0 1 none
    if hit then
      modify fun s => { s with text, hasReplaced := true }
      if r.prints then writeLine mainSink text
      if let some file := r.file then writeLine file text
    return next
  | .translate table =>
    set { s with text := s.text.map fun c => (table.lookup c).getD c }
    return next
  | .list width =>
    writeTo mainSink (shown (width.getD s.width) s.text) false
    return next
  | .plain letter =>
    match letter with
    | '=' => writeTo mainSink ((toString s.number).toList ++ ['\n']) false
    | 'd' => throw .nextLine
    | 'D' =>
      if s.text.contains s.ending then
        set { s with text := (s.text.dropWhile (· ≠ s.ending)).drop 1 }
        return 0
      else throw .nextLine
    | 'g' => set { s with text := s.held, hasEnd := s.heldHasEnd }
    | 'G' => set { s with text := withLine s s.text s.held, hasEnd := s.heldHasEnd }
    | 'h' => set { s with held := s.text, heldHasEnd := s.hasEnd }
    | 'H' => set { s with held := withLine s s.held s.text, heldHasEnd := s.hasEnd }
    | 'x' => set { s with
      text := s.held, hasEnd := s.heldHasEnd, held := s.text, heldHasEnd := s.hasEnd }
    | 'z' => set { s with text := [] }
    | 'p' => writeLine mainSink s.text
    | 'P' => writeTo mainSink (firstLine ++ [s.ending]) false
    | 'F' => writeTo mainSink (s.current.source.toList ++ ['\n']) false
    | 'n' =>
      if ← isAtEnd then return s.script.commands.size
      if !s.isSilent then writeLine mainSink s.text
      let _ ← takeLine
      modify fun s => { s with text := s.current.text }
    | 'N' =>
      if ← isAtEnd then return s.script.commands.size
      let _ ← takeLine
      modify fun s => { s with text := withLine s s.text s.current.text }
    | _ => pure ()
    return next

/-- Runs the script from some command on. -/
def runFrom : (fuel : Nat) → Nat → Step Unit
  | 0, _ => throw .busy
  | fuel + 1, index => do
    match (← get).script.commands[index]? with
    | none => return
    | some command =>
      let applies ← applies index command
      if applies != command.isNegated then runFrom fuel (← act index command)
      else
        match command.action with
        | .block stop => runFrom fuel (stop + 1)
        | _ => runFrom fuel (index + 1)

/-- The steps that a script takes for one line at most. -/
def stepLimit : Nat := 200000

/-- Edits the line. -/
def editLine : Step Unit := do
  modify fun s => { s with text := s.current.text }
  try
    runFrom stepLimit 0
    let s ← get
    if !s.isSilent then writeLine mainSink s.text
  catch leave =>
    match leave with
    | .nextLine => pure ()
    | leave => throw leave
  writePending

/-- Edits all lines. -/
def editAll : (fuel : Nat) → Step Unit
  | 0 => return
  | fuel + 1 => do
    if ← takeLine then
      editLine
      editAll fuel

end Step

end ContestJudge.Shell.Editing
