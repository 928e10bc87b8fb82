import ContestJudge.Shell.Utility.Basic

/-!
# Commands that are made of input

What a program that runs others with what it reads makes of its options and of its input. The input
is told apart into words, in lines, and the words are dealt out to commands: as many as fit, or as
many words or lines as was asked for, or each in the place of a name. What comes of that is known
before any command runs.
-/

namespace ContestJudge.Shell

open Text

/-- The options of the program that runs another one with what it reads. -/
def gatheringUsage : Usage where
  letters := "0rtxoI:i;n:L:l;d:P:s:E:e;"
  names := [("null", '0'), ("no-run-if-empty", 'r'), ("verbose", 't'), ("max-args", 'n'),
    ("max-procs", 'P'), ("delimiter", 'd'), ("replace", 'i'), ("max-lines", 'l'), ("exit", 'x'),
    ("max-chars", 's'), ("eof", 'e')]
  isFree := false

/-- How commands are made of input. -/
structure Gathering where
  /-- The character that ends a word, if nothing else does and nothing is quoted. -/
  delimiter : Option Char := none
  /-- What each line takes the place of. -/
  place : Option String := none
  /-- How many words a command gets at most. -/
  words : Option Nat := none
  /-- How many lines a command gets at most. -/
  lines : Option Nat := none
  /-- How many octets a command has at most, with an end for each word. -/
  size : Nat := Nat.pow 2 17
  /-- The word that ends the input. -/
  ending : Option String := none
  /-- Whether a command runs even if there is nothing to read. -/
  runsAnyway : Bool := true
  /-- What is said about options that contradict each other, in order. -/
  warnings : List String := []

/-- What a complaint about an option says of the number that it was given. -/
def gatheredCount (option : Char) (text : String) : Except String Nat :=
  match text.toInt? with
  | none => .error s!"invalid number \"{text}\" for -{option} option"
  | some n =>
    if n < 1 then .error s!"value {text} for -{option} option should be >= 1" else .ok n.toNat

/-- The characters that letters behind a backslash stand for. -/
def delimiterEscapes : List (Char × Char) :=
  [('a', '\x07'), ('b', '\x08'), ('f', '\x0c'), ('n', '\n'), ('r', '\r'), ('t', '\t'),
    ('v', '\x0b'), ('\\', '\\')]

/-- The character that an argument names as the one that ends words. -/
def delimiterOf (text : String) : Except String Char :=
  match text.toList with
  | [c] => .ok c
  | ['\\', c] =>
    match delimiterEscapes.lookup c with
    | some c => .ok c
    | none => numbered 8 text [c]
  | '\\' :: 'x' :: digits => numbered 16 text digits
  | '\\' :: digits => numbered 8 text digits
  | _ => .error ("Invalid input delimiter specification " ++ text ++ ": the delimiter must be " ++
      "either a single character or an escape sequence starting with \\.")
where
  /-- The value of a digit. -/
  digit? (c : Char) : Option Nat :=
    "0123456789abcdef".toList.findIdx? (· = c.toLower)
  /-- The character of a number that is written in some base. -/
  numbered (base : Nat) (text : String) (digits : List Char) : Except String Char :=
    let values := digits.filterMap fun c => (digit? c).filter (· < base)
    if digits = [] ∨ values.length < digits.length then
      .error s!"Invalid escape sequence {text} in input delimiter specification."
    else .ok (Char.ofNat ((values.foldl (fun n d => n * base + d) 0) % 256))

namespace Gathering

/-- Whether the input is told apart by the lines of it that take the place of a name. -/
def isReplacing (g : Gathering) : Bool := g.place.isSome

/-- Takes an option into account, which may put one of those before it out of force. -/
def withOption (g : Gathering) (option : Char) (value : String) : Except String Gathering := do
  let warn (isGiven : Bool) (ignored other : String) (g : Gathering) : Gathering :=
    if !isGiven then g
    else { g with warnings := g.warnings ++
      ["warning: options --" ++ ignored ++ " and " ++ other ++ " are mutually exclusive, ignoring " ++
        "previous --" ++ ignored ++ " value"] }
  let replacing (place : String) : Gathering :=
    let other := "--replace/-I/-i"
    let g := warn g.words.isSome "max-args" other (warn g.lines.isSome "max-lines" other g)
    { g with place := some place, words := none, lines := none }
  let byLines (other : String) (count : Nat) : Gathering :=
    let g := warn g.words.isSome "max-args" other (warn g.isReplacing "replace" other g)
    { g with lines := some count, words := none, place := none }
  match option with
  | '0' => return { g with delimiter := some '\x00' }
  | 'd' => return { g with delimiter := some (← delimiterOf value) }
  | 'r' => return { g with runsAnyway := false }
  | 'E' => return { g with ending := if value = "" then none else some value }
  | 'e' => return { g with ending := if value = "" then none else some value }
  | 's' => return { g with size := ← gatheredCount 's' value }
  | 'P' =>
    if value ≠ "0" then let _ ← gatheredCount 'P' value
    return g
  | 'I' => return replacing value
  | 'i' => return replacing (if value = "" then "\x7b\x7d" else value)
  | 'L' => return byLines "-L" (← gatheredCount 'L' value)
  | 'l' => return byLines "--max-lines/-l" (← if value = "" then pure 1 else gatheredCount 'l' value)
  | 'n' =>
    let count ← gatheredCount 'n' value
    if count = 1 ∧ g.isReplacing then return g
    let other := "--max-args/-n"
    let g := warn g.lines.isSome "max-lines" other (warn g.isReplacing "replace" other g)
    return { g with words := some count, lines := none, place := none }
  | _ => return g

/-- What options ask for. -/
def ofOptions (options : List (Char × String)) : Except String Gathering :=
  options.foldlM (fun g (option, value) => g.withOption option value) {}

end Gathering

/-- What has been read of words between blanks. -/
structure WordReading where
  /-- The lines that have ended, the last one first. -/
  lines : List (List String) := []
  /-- The words of the line that is being read, the last one first. -/
  words : List String := []
  /-- The characters of the word that is being read, the last one first. -/
  word : Option (List Char) := none
  /-- The quote that is open, or a backslash that was just read. -/
  quote : Option Char := none
  /-- The quote that was open at the end of a line, where reading stops. -/
  unmatched : Option Char := none

namespace WordReading

/-- Whether blanks are skipped in front of a word. -/
def isSkipped (c : Char) : Bool := [' ', '\t', '\n', '\r', '\x0b', '\x0c'].contains c

/-- Ends the word that is being read. -/
def endWord (r : WordReading) : WordReading :=
  match r.word with
  | none => r
  | some cs => { r with words := String.ofList cs.reverse :: r.words, word := none }

/-- Ends the line that is being read. -/
def endLine (r : WordReading) : WordReading :=
  let r := r.endWord
  { r with lines := r.words.reverse :: r.lines, words := [] }

/-- Reads a character. Blanks may belong to the words. -/
def read (keepsBlanks : Bool) (r : WordReading) (c : Char) : WordReading :=
  let added := { r with word := some (c :: r.word.getD []) }
  match r.unmatched, r.quote, r.word with
  | some _, _, _ => r
  | none, some '\\', _ => { added with quote := none }
  | none, some q, _ =>
    if c = '\n' then { r with unmatched := some q }
    else if c = q then { r with quote := none }
    else added
  | none, none, word =>
    if word.isNone ∧ isSkipped c then r
    else if c = '\n' then r.endLine
    else if !keepsBlanks ∧ (c = ' ' ∨ c = '\t') then r.endWord
    else if c = '\x27' ∨ c = '"' ∨ c = '\\' then
      { r with quote := some c, word := some (word.getD []) }
    else added

/-- The lines that were read when the input has ended, and the quote that was open then. -/
def finish (r : WordReading) : List (List String) × Option Char :=
  let open? := r.unmatched.or (r.quote.filter (· ≠ '\\'))
  let r := if open?.isSome ∨ r.word = some [] then { r with word := none } else r
  let r := if (r.words = [] ∧ r.word = none) then r else r.endLine
  (r.lines.reverse, open?)

end WordReading

/-- The commands that are being made of words. -/
structure Dealing where
  /-- The lists of words that are complete, the last one first. -/
  done : List (List String) := []
  /-- The words of the next one, the last one first. -/
  words : List String := []
  /-- The octets of these words, with an end for each. -/
  size : Nat := 0
  /-- The lines of these words. -/
  lines : Nat := 0

namespace Dealing

/-- Completes a list of words if there are any. -/
def close (d : Dealing) : Dealing :=
  if d.words = [] then d else { done := d.words.reverse :: d.done }

/-- Adds a word to the list that it still fits into. -/
def add (g : Gathering) (room : Nat) (d : Dealing) (word : String) : Dealing :=
  let isFull := g.words = some d.words.length || room < d.size + word.length + 1
  let d := if isFull then d.close else d
  { d with words := word :: d.words, size := d.size + word.length + 1 }

/-- Adds the words of a line. -/
def addLine (g : Gathering) (room : Nat) (d : Dealing) (words : List String) : Dealing :=
  let d := words.foldl (add g room) d
  let d := { d with lines := d.lines + 1 }
  if g.lines.any (· ≤ d.lines) then { d.close with lines := 0 } else d

end Dealing

namespace Gathering

/-- The lines of the input, and the quote that is open in it. -/
def linesOf (g : Gathering) (text : String) : List (List String) × Option Char :=
  match g.delimiter with
  | some c =>
    let pieces := (text.toList.splitOn c).map String.ofList
    let pieces := if pieces.getLast? = some "" then pieces.dropLast else pieces
    (pieces.map ([·]), none)
  | none => (text.toList.foldl (WordReading.read g.isReplacing) {}).finish

/-- The lines up to the first word of some kind, and that word. -/
def cutAt (stops : String → Bool) : List (List String) → List (List String) × Option String
  | [] => ([], none)
  | line :: rest =>
    match line.dropWhile (!stops ·) with
    | [] =>
      let (more, found) := cutAt stops rest
      (line :: more, found)
    | word :: _ => ([line.takeWhile (!stops ·)].filter (· ≠ []), some word)

/-- The commands that are to run, and why nothing more can be done then. -/
def commands (g : Gathering) (command : List String) (text : String) :
    List (List String) × Option String :=
  let base := (command.map (·.length + 1)).foldl (· + ·) 0
  if g.size < base then
    ([], some "cannot fit single argument within argument list size limit")
  else
    let room := g.size - base
    let isLong (word : String) : Bool := room < word.length + 1
    let (lines, open?) := g.linesOf text
    let (lines, found) := cutAt (fun word => some word = g.ending || isLong word) lines
    let complaint := match found, open? with
      | some word, _ => if some word = g.ending then none else some "argument line too long"
      | none, some q => some (unmatched (if q = '"' then "double" else "single"))
      | none, none => none
    match g.place with
    | some place =>
      (lines.map fun line => command.map fun word =>
        (line.headD "").intercalate (word.splitOn place), complaint)
    | none =>
      let lists := ((lines.foldl (Dealing.addLine g room) {}).close).done.reverse
      let isIdle := lists = [] && (complaint.isSome || !g.runsAnyway)
      ((if lists = [] ∧ !isIdle then [[]] else lists).map (command ++ ·), complaint)
where
  /-- What is said of a quote that is not closed. -/
  unmatched (kind : String) : String :=
    "unmatched " ++ kind ++ " quote; by default quotes are special to xargs unless you use the " ++
      "-0 option"

end Gathering

end ContestJudge.Shell
