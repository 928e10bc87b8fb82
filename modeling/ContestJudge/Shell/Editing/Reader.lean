import ContestJudge.Shell.Editing.Script
import ContestJudge.Shell.Escape

/-!
# Reading scripts that edit lines

A fault is told with the number of characters that were read until it was seen.
-/

namespace ContestJudge.Shell.Editing

/-- What is left of a script, and what was read of it. -/
structure Cursor where
  /-- The characters that are left. -/
  rest : List Char
  /-- The number of characters that were read. -/
  used : Nat := 0
  /-- The commands so far, in reverse. -/
  commands : List Command := []
  /-- The numbers of the commands that open blocks which are open, innermost first. -/
  openBlocks : List Nat := []
  /-- Where labels stand. -/
  labels : List (String × Nat) := []
  /-- Whether the script starts with a comment that says that lines are not written. -/
  isSilent : Bool := false
  /-- Whether expressions are written in the extended way. -/
  isExtended : Bool
  /-- Whether nothing comes before this script. -/
  isFirst : Bool

/-- A fault: the number of characters that were read, and a wording. -/
structure Fault where
  /-- The number of characters that were read. -/
  used : Nat
  /-- The wording. -/
  reason : String

/-- A step of reading. -/
abbrev Reader := StateT Cursor (Except Fault)

namespace Reader

/-- Gives up. -/
def fail {α : Type} (reason : String) : Reader α := do throw ⟨(← get).used, reason⟩

/-- Takes a character, if there is one. -/
def next? : Reader (Option Char) := do
  let c ← get
  match c.rest with
  | [] => return none
  | first :: rest =>
    set { c with rest, used := c.used + 1 }
    return some first

/-- The next character, which is not taken. -/
def peek? : Reader (Option Char) := do return (← get).rest.head?

/-- Takes characters as long as they have some property. -/
def takeWhile (holds : Char → Bool) : Reader (List Char) := do
  let c ← get
  let (taken, rest) := c.rest.span holds
  set { c with rest, used := c.used + taken.length }
  return taken

/-- Takes blanks. -/
def skipBlanks : Reader Unit := do let _ ← takeWhile fun c => c = ' ' || c = '\t'

/-- Takes blanks and the character behind them. -/
def nextBehindBlanks? : Reader (Option Char) := do
  skipBlanks
  next?

/-- Takes a number; without digits it is zero. -/
def number : Reader Nat := do return (splitDigits 10 (← takeWhile Char.isDigit)).1

/-- Takes the end of a command. -/
def commandEnd : Reader Unit := do
  skipBlanks
  match ← peek? with
  | some c =>
    if c = '\x7d' ∨ c = '#' then return
    else
      let _ ← next?
      if c ≠ '\n' ∧ c ≠ ';' then fail "extra characters after command"
  | none => return

/-- The number of characters of a bracket, from behind its opening on, if it is closed. -/
def bracketSize? (cs : List Char) : Option Nat :=
  let start := if cs.head? = some '^' then 1 else 0
  let start := if cs[start]? = some ']' then start + 1 else start
  (go (cs.length + 1) (cs.drop start)).map (start + ·)
where
  /-- Looks for the end. -/
  go : (fuel : Nat) → List Char → Option Nat
    | 0, _ => none
    | _ + 1, [] => none
    | _ + 1, ']' :: _ => some 1
    | fuel + 1, '[' :: mark :: rest =>
      if [':', '.', '='].contains mark then
        let name := rest.takeWhile (· ≠ mark)
        if (rest.drop name.length).take 2 = [mark, ']'] then
          (go fuel (rest.drop (name.length + 2))).map (name.length + 4 + ·)
        else (go fuel (mark :: rest)).map (1 + ·)
      else (go fuel (mark :: rest)).map (1 + ·)
    | fuel + 1, _ :: rest => (go fuel rest).map (1 + ·)

/-- A bracket in which a backslash and an `n` are the end of a line, and a sign needs no backslash.
-/
def plainBracket (sign : Char) : List Char → List Char
  | '\\' :: c :: rest =>
    if c = 'n' then '\n' :: plainBracket sign rest
    else if c = sign then sign :: plainBracket sign rest
    else '\\' :: plainBracket sign (c :: rest)
  | c :: rest => c :: plainBracket sign rest
  | [] => []
termination_by cs => cs.length
decreasing_by all_goals (simp only [List.length_cons]; omega)

/-- Takes characters up to a sign, which is taken too; nothing if it does not come. In an expression
a backslash and an `n` are the end of a line, and a bracket ends nothing. A backslash keeps the sign
from ending anything. -/
def delimited (sign : Char) (isRegex : Bool) : (fuel : Nat) → Reader (Option (List Char))
  | 0 => return none
  | fuel + 1 => do
    match ← peek? with
    | none => return none
    | some c =>
      if c = '\n' then return none
      let _ ← next?
      if c = sign then return some []
      else if c = '[' ∧ isRegex then
        let cursor ← get
        let size := (bracketSize? cursor.rest).getD cursor.rest.length
        let bracket := plainBracket sign (cursor.rest.take size)
        set { cursor with rest := cursor.rest.drop size, used := cursor.used + size }
        return (← delimited sign isRegex fuel).map ('[' :: bracket ++ ·)
      else if c ≠ '\\' then return (← delimited sign isRegex fuel).map (c :: ·)
      else
        match ← next? with
        | none => return none
        | some d =>
          let taken :=
            if d = sign then if !isRegex ∧ d = '&' then ['\\', d] else [d]
            else if d = 'n' ∧ isRegex then ['\n']
            else if d = '\n' then if isRegex then ['\n'] else ['\\', '\n']
            else ['\\', d]
          return (← delimited sign isRegex fuel).map (taken ++ ·)

end Reader

/-- The character that an escape stands for, from behind its backslash on, and what follows it. -/
def escaped? : List Char → Option (Char × List Char)
  | [] => none
  | c :: rest =>
    match [('a', '\x07'), ('f', '\x0c'), ('r', '\r'), ('t', '\t'), ('v', '\x0b')].lookup c with
    | some d => some (d, rest)
    | none =>
      match c with
      | 'd' => (splitFew 10 3 rest).map fun (n, rest) => (octet n, rest)
      | 'o' => (splitFew 8 3 rest).map fun (n, rest) => (octet n, rest)
      | 'x' => (splitFew 16 2 rest).map fun (n, rest) => (octet n, rest)
      | 'c' => rest.head?.map fun d =>
        (Char.ofNat ((d.toUpper.toNat + 64) % 128), rest.drop 1)
      | _ => none

/-- An expression in which escapes are replaced by what they stand for; what a number stands for has
no other meaning. -/
def plainRegex (isExtended : Bool) : (fuel : Nat) → List Char → List Char
  | 0, cs => cs
  | _ + 1, [] => []
  | fuel + 1, '\\' :: rest =>
    match escaped? rest, rest with
    | some (c, after), kind :: _ =>
      let special := ['.', '*', '[', ']', '^', '$', '\\']
        ++ if isExtended then ['+', '?', '(', ')', '|', '\x7b', '\x7d'] else []
      let isNumber := ['d', 'o', 'x'].contains kind
      (if isNumber ∧ special.contains c then ['\\', c] else [c])
        ++ plainRegex isExtended fuel after
    | _, c :: after => '\\' :: c :: plainRegex isExtended fuel after
    | _, [] => ['\\']
  | fuel + 1, c :: rest => c :: plainRegex isExtended fuel rest

/-- A text in which escapes are replaced by what they stand for and other backslashes are dropped. -/
def plainText : (fuel : Nat) → List Char → List Char
  | 0, cs => cs
  | _ + 1, [] => []
  | fuel + 1, '\\' :: rest =>
    match escaped? rest, rest with
    | some (c, after), _ => c :: plainText fuel after
    | none, c :: after => (if c = 'n' then '\n' else c) :: plainText fuel after
    | none, [] => []
  | fuel + 1, c :: rest => c :: plainText fuel rest

/-- The parts of a text that is put in place of a match. -/
def substitutesOf : (fuel : Nat) → List Char → List Substitute
  | 0, _ => []
  | _ + 1, [] => []
  | fuel + 1, '&' :: rest => .part 0 :: substitutesOf fuel rest
  | fuel + 1, '\\' :: rest =>
    match rest with
    | [] => [.char '\\']
    | c :: after =>
      if c.isDigit then .part (c.toNat - '0'.toNat) :: substitutesOf fuel after
      else
        let changes : List (Char × CaseChange) := [('U', .upper), ('L', .lower),
          ('u', .upperOne), ('l', .lowerOne), ('E', .stop)]
        match changes.lookup c, escaped? rest with
        | some change, _ => .change change :: substitutesOf fuel after
        | none, some (d, after) => .char d :: substitutesOf fuel after
        | none, none => .char (if c = 'n' then '\n' else c) :: substitutesOf fuel after
  | fuel + 1, c :: rest => .char c :: substitutesOf fuel rest

/-- The characters of a table of characters. -/
def tableChars : List Char → List Char
  | '\\' :: '\\' :: rest => '\\' :: tableChars rest
  | '\\' :: 'n' :: rest => '\n' :: tableChars rest
  | '\\' :: c :: rest =>
    match escaped? (c :: rest) with
    | some (d, _) => if ['a', 'f', 'r', 't', 'v'].contains c then d :: tableChars rest
      else '\\' :: c :: tableChars rest
    | none => '\\' :: c :: tableChars rest
  | c :: rest => c :: tableChars rest
  | [] => []

/-- What is looked for. -/
def findingOf (text : List Char) (ignoresCase byLines : Bool) : Reader (Finding × Nat) := do
  if text = [] then return ({ regex := none, ignoresCase, byLines }, 9)
  else
    let isExtended := (← get).isExtended
    let text := plainRegex isExtended (text.length + 1) text
    match Regex.read { isExtended, isStrict := true, refusesDoubles := true } text with
    | .ok read => return ({ regex := some read.regex, ignoresCase, byLines }, read.groups)
    | .error fault => Reader.fail fault.message

open Reader

/-- Reads the signs behind the expression of an address. -/
def findingFlags : (fuel : Nat) → Bool × Bool → Reader (Bool × Bool)
  | 0, flags => return flags
  | fuel + 1, (ignoresCase, byLines) => do
    skipBlanks
    match ← peek? with
    | some 'I' =>
      let _ ← next?
      findingFlags fuel (true, byLines)
    | some 'M' =>
      let _ ← next?
      findingFlags fuel (ignoresCase, true)
    | _ => return (ignoresCase, byLines)

/-- Reads an address that begins with some character, if it is one. -/
def address? (first : Option Char) : Reader (Option RangeEnd) := do
  let size := (← get).rest.length + 1
  match first with
  | some '$' => return some (.address .last)
  | some '+' =>
    skipBlanks
    return some (.more (← number))
  | some '~' =>
    skipBlanks
    return some (.multiple (← number))
  | some c =>
    if c = '/' ∨ c = '\\' then
      let sign ← if c = '/' then pure (some '/') else next?
      match ← delimited (sign.getD '/') true size with
      | none => fail "unterminated address regex"
      | some text =>
        let (ignoresCase, byLines) ← findingFlags size (false, false)
        return some (.address (.found (← findingOf text ignoresCase byLines).1))
    else if c.isDigit then
      let digits := c :: (← takeWhile Char.isDigit)
      let n := (splitDigits 10 digits).1
      skipBlanks
      if (← peek?) = some '~' then
        let _ ← next?
        skipBlanks
        let step ← number
        return some (.address (if step = 0 then .line n else .every n step))
      else return some (.address (.line n))
    else return none
  | none => return none

/-- Reads the name of a label. -/
def labelName : Reader String := do
  skipBlanks
  return String.ofList (← takeWhile fun c => !isSpace c && c ≠ ';' && c ≠ '\x7d')

/-- Reads the name of a file, which ends with the line. -/
def fileName : Reader String := do
  skipBlanks
  let name ← takeWhile (· ≠ '\n')
  let _ ← next?
  if name = [] then fail "missing filename in r/R/w/W commands"
  return String.ofList name

/-- Takes a line, which goes on behind a backslash at its end. -/
def wholeLine : (fuel : Nat) → Reader (List Char)
  | 0 => return []
  | fuel + 1 => do
    match ← next? with
    | none => return []
    | some '\n' => return []
    | some '\\' =>
      match ← next? with
      | none => return []
      | some c => return '\\' :: c :: (← wholeLine fuel)
    | some c => return c :: (← wholeLine fuel)

/-- Reads the text of a command that writes one. -/
def givenText : Reader (List Char) := do
  let size := (← get).rest.length + 1
  skipBlanks
  match ← peek? with
  | none => fail "expected \\ after \x60a', \x60c' or \x60i'"
  | some '\\' =>
    let _ ← next?
    let blanks ← takeWhile fun c => c = ' ' || c = '\t'
    match ← peek? with
    | some '\n' =>
      let _ ← next?
      let text ← wholeLine size
      return plainText size text ++ ['\n']
    | none => return []
    | some _ =>
      let text ← wholeLine size
      return blanks ++ plainText size text ++ ['\n']
  | some _ =>
    let text ← wholeLine size
    return plainText size text ++ ['\n']

/-- The signs behind a replacement. -/
structure ReplacementFlags where
  /-- Whether all matches are replaced. -/
  isGlobal : Bool := false
  /-- The first match that is replaced. -/
  first : Option Nat := none
  /-- Whether the result is written. -/
  prints : Bool := false
  /-- Whether the case of letters does not count. -/
  ignoresCase : Bool := false
  /-- Whether each line is on its own. -/
  byLines : Bool := false
  /-- The file to which the result is written. -/
  file : Option String := none

/-- Reads the signs behind a replacement. -/
def replacementFlags : (fuel : Nat) → ReplacementFlags → Reader ReplacementFlags
  | 0, flags => return flags
  | fuel + 1, flags => do
    match ← peek? with
    | none => return flags
    | some c =>
      if c.isDigit then
        let digits ← takeWhile Char.isDigit
        if flags.first.isSome then fail "multiple number options to \x60s' command"
        let n := (splitDigits 10 digits).1
        if n = 0 then fail "number option to \x60s' command may not be zero"
        replacementFlags fuel { flags with first := some n }
      else if c = '\x7d' ∨ c = '#' then return flags
      else
        let _ ← next?
        match c with
        | 'i' => replacementFlags fuel { flags with ignoresCase := true }
        | 'I' => replacementFlags fuel { flags with ignoresCase := true }
        | 'm' => replacementFlags fuel { flags with byLines := true }
        | 'M' => replacementFlags fuel { flags with byLines := true }
        | 'p' =>
          if flags.prints then fail "multiple \x60p' options to \x60s' command"
          replacementFlags fuel { flags with prints := true }
        | 'g' =>
          if flags.isGlobal then fail "multiple \x60g' options to \x60s' command"
          replacementFlags fuel { flags with isGlobal := true }
        | 'w' => return { flags with file := some (← fileName) }
        | ' ' => replacementFlags fuel flags
        | '\t' => replacementFlags fuel flags
        | '\n' => return flags
        | ';' => return flags
        | _ => fail "unknown option to \x60s'"

/-- Reads a replacement of matches. -/
def replacement : Reader Replacement := do
  let size := (← get).rest.length + 1
  match ← next? with
  | none => fail "unterminated \x60s' command"
  | some sign =>
    match ← delimited sign true size with
    | none => fail "unterminated \x60s' command"
    | some text =>
      match ← delimited sign false size with
      | none => fail "unterminated \x60s' command"
      | some new =>
        let flags ← replacementFlags size {}
        let (what, groups) ← findingOf text flags.ignoresCase flags.byLines
        let substitutes := substitutesOf (new.length + 1) new
        for s in substitutes do
          match s with
          | .part n =>
            if groups < n then fail s!"invalid reference \\{n} on \x60s' command's RHS"
          | _ => pure ()
        return {
          what, substitutes, isGlobal := flags.isGlobal, first := flags.first.getD 1
          prints := flags.prints, file := flags.file }

/-- Reads a table of characters. -/
def translation : Reader (List (Char × Char)) := do
  let size := (← get).rest.length + 1
  match ← next? with
  | none => fail "unterminated \x60y' command"
  | some sign =>
    match ← delimited sign false size with
    | none => fail "unterminated \x60y' command"
    | some old =>
      match ← delimited sign false size with
      | none => fail "unterminated \x60y' command"
      | some new =>
        let (old, new) := (tableChars old, tableChars new)
        if old.length ≠ new.length then
          fail "strings for \x60y' command are different lengths"
        commandEnd
        return old.zip new

/-- Reads what a command does, behind its letter. -/
def action (letter : Char) (command : Command) : Reader Action := do
  let c ← get
  let hasAddress := command.first.isSome
  let jump (onlyIf : Option Bool) : Reader Action := do
    let label ← labelName
    commandEnd
    return .jump onlyIf label
  let quit (silently : Bool) : Reader Action := do
    if command.second.isSome then fail "command only uses one address"
    skipBlanks
    let status ← number
    commandEnd
    return .quit silently status
  match letter with
  | '\x7b' =>
    set { c with openBlocks := c.commands.length :: c.openBlocks }
    return .block 0
  | '\x7d' =>
    match c.openBlocks with
    | [] => fail "unexpected \x60\x7d'"
    | start :: others =>
      if hasAddress then fail "\x60\x7d' doesn't want any addresses"
      let place := c.commands.length
      let close := fun (command : Command) (i : Nat) =>
        if place - 1 - i = start then { command with action := .block place } else command
      set { c with
        openBlocks := others
        commands := c.commands.zipIdx.map fun (command, i) => close command i }
      commandEnd
      return .nothing
  | ':' =>
    if hasAddress then fail ": doesn't want any addresses"
    skipBlanks
    let name := String.ofList (← takeWhile fun c => !isSpace c && c ≠ ';')
    if name = "" then fail "\":\" lacks a label"
    modify fun c => { c with labels := c.labels ++ [(name, c.commands.length)] }
    return .nothing
  | 'a' => return .append (← givenText)
  | 'i' => return .insert (← givenText)
  | 'c' => return .change (← givenText)
  | 'b' => jump none
  | 't' => jump (some true)
  | 'T' => jump (some false)
  | 'q' => quit false
  | 'Q' => quit true
  | 'r' => return .readFile (← fileName)
  | 'R' => return .readLine (← fileName)
  | 'w' => return .write false (← fileName)
  | 'W' => return .write true (← fileName)
  | 's' => return .replace (← replacement)
  | 'y' => return .translate (← translation)
  | 'l' =>
    skipBlanks
    let digits ← takeWhile Char.isDigit
    commandEnd
    return .list (if digits = [] then none else some (splitDigits 10 digits).1)
  | 'v' =>
    let version ← labelName
    commandEnd
    let wanted := ((version.splitOn ".").map fun part => (splitDigits 10 part.toList).1) ++ [0, 0]
    let isNewer := [4, 9, 0].zip wanted |>.foldl (fun (order : Ordering) (ours, want) =>
      if order = .eq then compare ours want else order) .eq
    if isNewer = .lt then fail "expected newer version of sed"
    return .nothing
  | letter =>
    if "=dDgGhHnNpPxzF".toList.contains letter then
      commandEnd
      return .plain letter
    else fail s!"unknown command: \x60{letter}'"

/-- Reads commands to the end. -/
def commands : (fuel : Nat) → Reader Unit
  | 0 => return
  | fuel + 1 => do
    let _ ← takeWhile fun c => isSpace c || c = ';'
    match ← next? with
    | none => return
    | some first =>
      let mut command : Command := { action := .nothing }
      let mut letter := some first
      match ← address? (some first) with
      | some (.address a) =>
        command := { command with first := some a }
        letter ← nextBehindBlanks?
        if letter = some ',' then
          match ← address? (← nextBehindBlanks?) with
          | none => fail "unexpected \x60,'"
          | some stop =>
            command := { command with second := some stop }
            letter ← nextBehindBlanks?
        match a, command.second with
        | .line 0, some (.address (.found _)) => pure ()
        | .line 0, _ => fail "invalid usage of line address 0"
        | _, _ => pure ()
      | some _ => fail "invalid usage of +N or ~N as first address"
      | none => pure ()
      if letter = some '!' then
        command := { command with isNegated := true }
        letter ← nextBehindBlanks?
        if letter = some '!' then fail "multiple \x60!'s"
      match letter with
      | none => fail "missing command"
      | some '#' =>
        if command.first.isSome then fail "comments don't accept any addresses"
        let c ← get
        let text ← takeWhile (· ≠ '\n')
        if c.used = 1 ∧ c.isFirst ∧ text = ['n'] then modify ({ · with isSilent := true })
        commands fuel
      | some name =>
        let action ← action name command
        modify fun c => { c with commands := { command with action } :: c.commands }
        commands fuel

/-- Reads a part of a script behind other parts. -/
def readMore (c : Cursor) (text : List Char) : Except Fault Cursor :=
  ((commands (text.length + 1)).run { c with rest := text, used := 0 }).map fun (_, c) =>
    { c with isFirst := false }

/-- The script that was read, if it is whole. -/
def Cursor.script (c : Cursor) : Except String Script :=
  let commands := c.commands.reverse
  let missing := commands.findSome? fun command => match command.action with
    | .jump _ label =>
      if label = "" ∨ (c.labels.lookup label).isSome then none else some label
    | _ => none
  match c.openBlocks, missing with
  | _ :: _, _ => .error "-e expression #1, char 0: unmatched \x60\x7b'"
  | [], some label => .error s!"can't find label for jump to \x60{label}'"
  | [], none => .ok ⟨commands.toArray, c.labels, c.isSilent⟩

end ContestJudge.Shell.Editing
