import ContestJudge.Shell.Number
import ContestJudge.Shell.Regex.Basic

/-!
# Reading regular expressions

There are two ways of writing them: in the basic one, signs such as parentheses get their meaning
from a backslash, in the extended one they lose it. Programs differ in how strictly they read.
-/

namespace ContestJudge.Shell.Regex

/-- How expressions are written. -/
structure Style where
  /-- Whether signs have their meaning without a backslash. -/
  isExtended : Bool := false
  /-- Whether what makes no sense is refused, and not taken for plain text. -/
  isStrict : Bool := false
  /-- Whether a repetition may not be repeated in the basic way of writing. -/
  refusesDoubles : Bool := false

/-- Why something is no expression. -/
inductive Fault where
  | openBracket
  | openGroup
  | closedGroup
  | openCount
  | badCount
  | tooLarge
  | badRange
  | badClass
  | badCollation
  | badReference
  | badRepetition
  | endingBackslash
  | incomplete
  | looseClass
  deriving DecidableEq, Repr

/-- The wording of a fault. -/
def Fault.message : Fault → String
  | openBracket => "Unmatched [, [^, [:, [., or [="
  | openGroup => "Unmatched ( or \\("
  | closedGroup => "Unmatched ) or \\)"
  | openCount => "Unmatched \\\x7b"
  | badCount => "Invalid content of \\\x7b\\\x7d"
  | tooLarge => "Regular expression too big"
  | badRange => "Invalid range end"
  | badClass => "Invalid character class name"
  | badCollation => "Invalid collation character"
  | badReference => "Invalid back reference"
  | badRepetition => "Invalid preceding regular expression"
  | endingBackslash => "Trailing backslash"
  | incomplete => "Invalid regular expression"
  | looseClass => "character class syntax is [[:space:]], not [:space:]"

/-- What is left to be read, and what has been seen. -/
structure Reading where
  /-- The characters that are left. -/
  rest : List Char
  /-- The number of parts that are remembered. -/
  groups : Nat := 0
  /-- The numbers of those that have ended. -/
  closed : List Nat := []
  /-- What the reader should be warned of. -/
  warnings : List String := []

/-- A step of reading. -/
abbrev Reader := StateT Reading (Except Fault)

/-- An end of a range in a bracket. -/
def bracketEnd : List Char → Except Fault (Char × List Char)
  | '[' :: mark :: rest =>
    if mark = '.' ∨ mark = '=' then
      match rest with
      | c :: d :: ']' :: after =>
        if d = mark then .ok (c, after) else .error .badCollation
      | _ => .error (if rest.length < 3 then .openBracket else .badCollation)
    else .ok ('[', mark :: rest)
  | c :: rest => .ok (c, rest)
  | [] => .error .openBracket

/-- Reads the members of a bracket behind those that were read, which are in reverse, and what
follows them. -/
def bracketMembers : (fuel : Nat) → (isFirst : Bool) → List Member → List Char →
    Except Fault (List Member × List Char)
  | 0, _, _, _ => .error .openBracket
  | _ + 1, _, _, [] => .error .openBracket
  | fuel + 1, isFirst, seen, c :: rest =>
    if c = ']' ∧ !isFirst then .ok (seen.reverse, rest)
    else if c = '[' ∧ rest.head? = some ':' then
      let (name, after) := (rest.drop 1).span (fun c => c ≠ ':' && c ≠ ']')
      let name := String.ofList name
      match after with
      | ':' :: ']' :: after =>
        if characterClasses.contains name then
          bracketMembers fuel false (.named name :: seen) after
        else .error .badClass
      | _ => .error .openBracket
    else do
      let (first, rest) ← bracketEnd (c :: rest)
      match rest with
      | '-' :: ']' :: _ => bracketMembers fuel false (.range first first :: seen) rest
      | '-' :: '-' :: ']' :: _ => throw .badRange
      | '-' :: after =>
        let (last, after) ← bracketEnd after
        if last < first then throw .badRange
        if after.head? = some '-' ∧ after[1]? ≠ some ']' then throw .badRange
        bracketMembers fuel false (.range first last :: seen) after
      | rest => bracketMembers fuel false (.range first first :: seen) rest

/-- Whether a bracket looks like a class whose own bracket is missing. -/
def isLooseClass (members : List Member) : Bool :=
  let colon := Member.range ':' ':'
  let isPlain := fun m => match m with
    | Member.range a b => a = b
    | _ => false
  2 < members.length && members.all isPlain && members.head? = some colon
    && members.getLast? = some colon && !(members.drop 1).dropLast.contains colon

/-- Reads a bracket from behind its opening on. -/
def readBracket (cs : List Char) : Except Fault (Regex × List Char) := do
  let (negated, cs) := match cs with
    | '^' :: rest => (true, rest)
    | cs => (false, cs)
  if cs = [] ∧ !negated then throw .incomplete
  let (members, rest) ← bracketMembers (cs.length + 1) true [] cs
  return (.bracket negated members, rest)

/-- Splits off the numbers of a repetition, from behind its opening on. -/
def readCounts (style : Style) (cs : List Char) :
    Except Fault (Option (Nat × Option Nat × List Char)) :=
  let (least, rest) := cs.span Char.isDigit
  let (most, rest) := match rest with
    | ',' :: rest =>
      let (digits, rest) := rest.span Char.isDigit
      (some digits, rest)
    | rest => (none, rest)
  let closing := if style.isExtended then ['\x7d'] else ['\\', '\x7d']
  let number := fun digits => (splitDigits 10 digits).1
  let isPlain := style.isExtended && !style.isStrict
  if closing.isPrefixOf rest then
    let few := number least
    let many := match most with
      | none => some few
      | some [] => none
      | some digits => some (number digits)
    if least = [] ∧ most.isNone then .error .badCount
    else if many.any (· < few) then .error .badCount
    else if 32767 < max few (many.getD 0) then .error .tooLarge
    else .ok (some (few, many, rest.drop closing.length))
  else if isPlain then .ok none
  else .error (if rest = [] then .openCount else .badCount)

/-- A sign that stands for a repetition, and what follows it. -/
def splitRepetition (style : Style) (cs : List Char) :
    Except Fault (Option (Nat × Option Nat × List Char)) :=
  match cs with
  | '*' :: rest => .ok (some (0, none, rest))
  | '+' :: rest => .ok (if style.isExtended then some (1, none, rest) else none)
  | '?' :: rest => .ok (if style.isExtended then some (0, some 1, rest) else none)
  | '\x7b' :: rest => if style.isExtended then readCounts style rest else .ok none
  | '\\' :: '+' :: rest => .ok (if style.isExtended then none else some (1, none, rest))
  | '\\' :: '?' :: rest => .ok (if style.isExtended then none else some (0, some 1, rest))
  | '\\' :: '\x7b' :: rest => if style.isExtended then .ok none else readCounts style rest
  | _ => .ok none

/-- Whether an alternative begins here, and what follows its sign. -/
def splitBar (style : Style) : List Char → Option (List Char)
  | '|' :: rest => if style.isExtended then some rest else none
  | '\\' :: '|' :: rest => if style.isExtended then none else some rest
  | _ => none

/-- Whether a group ends here, and what follows its sign. -/
def splitClosing (style : Style) : List Char → Option (List Char)
  | ')' :: rest => if style.isExtended then some rest else none
  | '\\' :: ')' :: rest => if style.isExtended then none else some rest
  | _ => none

/-- Whether a group begins here, and what follows its sign. -/
def splitOpening (style : Style) : List Char → Option (List Char)
  | '(' :: rest => if style.isExtended then some rest else none
  | '\\' :: '(' :: rest => if style.isExtended then none else some rest
  | _ => none

/-- What a letter behind a backslash stands for. -/
def named? (c : Char) : Option Regex :=
  let word := [Member.named "alnum", .range '_' '_']
  match c with
  | 'w' => some (.bracket false word)
  | 'W' => some (.bracket true word)
  | 's' => some (.bracket false [.named "space"])
  | 'S' => some (.bracket true [.named "space"])
  | '<' => some .wordStart
  | '>' => some .wordEnd
  | 'b' => some (.wordEdge false)
  | 'B' => some (.wordEdge true)
  | '\x60' => some .textStart
  | '\x27' => some .textEnd
  | _ => none

mutual

/-- Reads alternatives. -/
def readAll (fuel : Nat) (style : Style) (depth : Nat) : Reader Regex :=
  match fuel with
  | 0 => throw .tooLarge
  | fuel + 1 => do
    let first ← readParts fuel style depth true
    match splitBar style (← get).rest with
    | some rest =>
      modify ({ · with rest })
      return .either first (← readAll fuel style depth)
    | none => return first

/-- Reads parts that follow each other. -/
def readParts (fuel : Nat) (style : Style) (depth : Nat) (isFirst : Bool) : Reader Regex :=
  match fuel with
  | 0 => throw .tooLarge
  | fuel + 1 => do
    let r ← get
    let isEnd := (splitBar style r.rest).isSome ||
      ((splitClosing style r.rest).isSome &&
        (0 < depth || !style.isExtended || style.isStrict))
    if r.rest = [] ∨ (isEnd ∧ 0 < depth) ∨ (splitBar style r.rest).isSome then return .nothing
    else if isEnd then throw .closedGroup
    else
      let (part, isStart) ← readPart fuel style depth isFirst
      let part ← readRepetitions fuel style isStart false part
      let after ← readParts fuel style depth false
      return match after with
        | .nothing => part
        | after => .both part after

/-- Reads a part, and says whether what follows still counts as the start. -/
def readPart (fuel : Nat) (style : Style) (depth : Nat) (isFirst : Bool) :
    Reader (Regex × Bool) :=
  match fuel with
  | 0 => throw .tooLarge
  | fuel + 1 => do
    let r ← get
    let isRepetition ← if isFirst then splitRepetition style r.rest else pure none
    let atEnd := fun rest => rest = [] || (splitBar style rest).isSome
      || (splitClosing style rest).isSome
    match splitOpening style r.rest, isRepetition, r.rest with
    | some rest, _, _ =>
      let number := r.groups + 1
      set { r with rest, groups := number }
      let body ← readAll fuel style (depth + 1)
      match splitClosing style (← get).rest with
      | some rest =>
        modify fun r => { r with rest, closed := number :: r.closed }
        return (.group number body, false)
      | none => throw .openGroup
    | none, some (_, _, after), c :: rest =>
      if style.isExtended then
        if style.isStrict then throw .badRepetition
        let sign := if c = '\x7b' then "\x7b...\x7d" else c.toString
        set { r with rest := after, warnings := r.warnings ++ [s!"{sign} at start of expression"] }
        return (.nothing, true)
      else if c = '*' then
        set { r with rest }
        return (.just '*', false)
      else if style.isStrict ∧ rest.head? = some '\x7b' then throw .badRepetition
      else
        set { r with rest := rest.drop 1 }
        return (.just (rest.headD c), false)
    | none, _, '^' :: rest =>
      if style.isExtended ∨ isFirst then
        set { r with rest }
        return (.lineStart, true)
      else
        set { r with rest }
        return (.just '^', false)
    | none, _, '$' :: rest =>
      set { r with rest }
      return (if style.isExtended ∨ atEnd rest then .lineEnd else .just '$', false)
    | none, _, '.' :: rest =>
      set { r with rest }
      return (.anyChar, false)
    | none, _, '[' :: rest =>
      let (part, rest) ← readBracket rest
      match part with
      | .bracket _ members => if style.isStrict = false ∧ isLooseClass members then throw .looseClass
      | _ => pure ()
      set { r with rest }
      return (part, false)
    | none, _, ['\\'] => throw .endingBackslash
    | none, _, '\\' :: c :: rest =>
      set { r with rest }
      if '1' ≤ c ∧ c ≤ '9' then
        let number := c.toNat - '0'.toNat
        if !r.closed.contains number then throw .badReference
        return (.same number, false)
      return ((named? c).getD (.just c), false)
    | none, _, c :: rest =>
      set { r with rest }
      return (.just c, false)
    | none, _, [] => return (.nothing, false)

/-- Reads the repetitions behind a part. -/
def readRepetitions (fuel : Nat) (style : Style) (isStart isAgain : Bool) (part : Regex) :
    Reader Regex :=
  match fuel with
  | 0 => throw .tooLarge
  | fuel + 1 => do
    let r ← get
    if isStart ∧ !style.isExtended then return part
    match ← splitRepetition style r.rest with
    | none => return part
    | some (least, most, rest) =>
      let isPlainSign := style.isExtended || r.rest.head? = some '*' || r.rest[1]? = some '\x7b'
      if isAgain ∧ style.refusesDoubles ∧ !style.isExtended ∧ isPlainSign then
        throw .badRepetition
      if isStart ∧ style.isExtended then
        if style.isStrict ∧ r.rest.head? ≠ some '*' then throw .badRepetition
        let sign := (r.rest.headD '*').toString
        set { r with rest, warnings := r.warnings ++ [s!"{sign} at start of expression"] }
      else set { r with rest }
      readRepetitions fuel style isStart true (.repeated least most part)

end

/-- What an expression means that is written in some style. -/
structure Read where
  /-- The expression. -/
  regex : Regex
  /-- The number of parts that it remembers. -/
  groups : Nat
  /-- What the reader should be warned of. -/
  warnings : List String

/-- Reads an expression. -/
def read (style : Style) (text : List Char) : Except Fault Read :=
  match (readAll (4 * text.length + 8) style 0).run { rest := text } with
  | .ok (regex, r) => .ok ⟨regex, r.groups, r.warnings⟩
  | .error fault => .error fault

/-- Whether an expression asks for parts that were remembered. -/
def asksBack : Regex → Bool
  | same _ => true
  | group _ body => asksBack body
  | both a b => asksBack a || asksBack b
  | either a b => asksBack a || asksBack b
  | repeated _ _ body => asksBack body
  | _ => false

/-- Prepares to look for an expression in a text. -/
def search (r : Regex) (text : List Char) (ignoresCase byLines : Bool) : Search where
  text := text.toArray
  ignoresCase := ignoresCase
  byLines := byLines
  remembers := r.asksBack

end ContestJudge.Shell.Regex
