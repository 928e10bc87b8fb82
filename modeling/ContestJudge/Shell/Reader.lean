import ContestJudge.Shell.Script

/-!
# Reading scripts

A script is read line by line, where a line goes on until its last command is complete. A word ends
at a blank, a line end or an operator that is not quoted; inside it single quotes keep everything,
double quotes all but substitutions, and a backslash the next character. What a substitution runs is
read along with it. Every step takes at least one character or goes one level down, so fuel in
proportion to the length of the script is enough.
-/

namespace ContestJudge.Shell

/-- A token. -/
inductive Token where
  | word (word : Word)
  | operator (text : String)
  /-- The sign of a redirection, with the descriptor before it. -/
  | redirection (descriptor : Option Nat) (sign : String)
  | lineEnd
  | scriptEnd
  deriving Inhabited

/-- A place in a script. -/
structure Cursor where
  /-- What is still to be read. -/
  rest : List Char
  /-- The number of the line. -/
  line : Nat := 1
  /-- The lines of documents behind the current line, which are read already. -/
  ahead : Nat := 0
  /-- A token that is read already. -/
  pending : Option Token := none
  /-- The texts that stand for the first word of a command. -/
  aliases : List (String × String) := []
  /-- Those that are being read, with the length of what follows them. -/
  expanding : List (String × Nat) := []

/-- Whether between two places of a script there is the end of a text that ends with a blank and
stands for a word; then the next word may stand for something else, too. -/
def Cursor.leavesAlias (before after : Cursor) : Bool :=
  before.expanding.any fun (name, length) =>
    length ≤ before.rest.length && after.rest.length < length &&
      ((before.aliases.lookup name).any fun text => text.endsWith " " || text.endsWith "\t")

/-- Reads something from a script. -/
abbrev Reader := StateT Cursor (Except SyntaxFault)

/-- The operators that separate commands. -/
def operators : List String := ["&&", "||", ";;", "&", ";", "|", "(", ")"]

/-- The signs of redirections. -/
def redirectionSigns : List String := ["<<-", "<<", ">>", "<&", ">&", "<>", ">|", "<", ">"]

/-- The words that have a meaning where a command starts. -/
def reservedWords : List String :=
  ["!", "\x7b", "\x7d", "if", "then", "elif", "else", "fi", "while", "until", "for", "do", "done",
    "case", "esac", "in"]

/-- The tokens that end a list of commands. -/
def listEnds : List String :=
  [")", ";;", "then", "elif", "else", "fi", "do", "done", "esac", "\x7d"]

/-- The commands of the shell that no function can stand for. -/
def specialCommands : List String :=
  [".", ":", "break", "continue", "eval", "exec", "exit", "export", "local", "readonly", "return",
    "set", "shift", "times", "trap", "unset"]

/-- The parameters with a name of one sign. -/
def specialParameters : List Char := ['#', '?', '$', '!', '-', '*', '@']

/-- What surrounds the characters that are read. -/
inductive Surrounding where
  /-- A word of a command. -/
  | command
  /-- Braces. -/
  | braces
  /-- Double quotes. -/
  | quotes
  /-- Braces in double quotes, and perhaps double quotes in those. -/
  | quotedBraces (inner : Bool)
  /-- A text that is expanded whole, or braces in it. -/
  | document
  /-- An expression, with the number of its open brackets. -/
  | expression (depth : Nat)
  deriving DecidableEq, Repr

namespace Surrounding

/-- Whether a backslash keeps itself before most characters. -/
def isQuoted : Surrounding → Bool
  | command => false
  | braces => false
  | _ => true

/-- What surrounds a word of a parameter. A pattern is never quoted by what is around it. -/
def inBraces (around : Surrounding) (use : Use) : Surrounding :=
  match use with
  | .withoutStart _ => .braces
  | .withoutEnd _ => .braces
  | _ => if around.isQuoted then .quotedBraces false else .braces

/-- Whether a character has a meaning. -/
def stopsAt (around : Surrounding) (c : Char) : Bool :=
  ['\\', '$', '\x60'].contains c ||
  match around with
  | command => " \t\n;&|()<>'\"".toList.contains c
  | braces => ['\x27', '"', '\x7d', '\n'].contains c
  | quotes => ['"', '\n'].contains c
  | quotedBraces _ => ['"', '\x7d', '\n'].contains c
  | document => c = '\n'
  | expression _ => ['(', ')', '\n'].contains c

end Surrounding

/-- The first of some texts that the characters start with, and what follows it. -/
def splitFirst (texts : List String) (cs : List Char) : Option (String × List Char) :=
  texts.findSome? fun text =>
    if text.toList.isPrefixOf cs then some (text, cs.drop text.length) else none

/-- Drops joined line ends, and counts them. -/
def dropJoins (count : Nat) : List Char → Nat × List Char
  | '\\' :: '\n' :: rest => dropJoins (count + 1) rest
  | rest => (count, rest)

/-- Adds a text to the pieces that were read, which are in reverse. -/
def pushLiteral (text : String) : List Piece → List Piece
  | .literal before :: seen => .literal (before ++ text) :: seen
  | seen => .literal text :: seen

/-- Adds a quoted text to the pieces that were read, which are in reverse. -/
def pushQuoted (text : String) : List Piece → List Piece
  | .quoted before :: seen => .quoted (before ++ text) :: seen
  | seen => .quoted text :: seen

/-- Splits a text into the lines before a line of some text, and what follows that, with the number
of lines that are gone. -/
def splitDocument (strip : Bool) (delimiter : List Char) :
    (fuel : Nat) → List Char → List Char × List Char × Nat
  | 0, cs => ([], cs, 0)
  | fuel + 1, cs =>
    if cs = [] then ([], [], 0)
    else
      let cs := if strip then cs.dropWhile (· = '\t') else cs
      let (line, rest) := cs.span (· ≠ '\n')
      if line = delimiter then ([], rest.drop 1, 1)
      else
        let (lines, after, count) := splitDocument strip delimiter fuel (rest.drop 1)
        (line ++ rest.take 1 ++ lines, after, count + 1)

namespace Reader

/-- Stops for a reason. -/
def fail {α : Type} (reason : String) : Reader α := do
  throw ⟨(← get).line, s!"Syntax error: {reason}"⟩

/-- Goes on behind some characters of the current line. -/
def moveTo (rest : List Char) : Reader Unit := modify fun c => { c with rest }

/-- Goes on behind a line end. -/
def passLine (rest : List Char) : Reader Unit :=
  modify fun c => { c with rest, line := c.line + 1 + c.ahead, ahead := 0 }

/-- The characters that come next, without joined line ends. -/
def coming : Reader (List Char) := do
  let c ← get
  let (count, rest) := dropJoins 0 c.rest
  if count = 0 then return c.rest
  set { c with rest, line := c.line + count }
  return rest

/-- The text that single quotes begin. -/
def singleQuoted : Reader String := do
  let c ← get
  let (inner, rest) := c.rest.span (· ≠ '\x27')
  set { c with rest := rest.drop 1, line := c.line + inner.count '\n' }
  if rest = [] then fail "Unterminated quoted string"
  return String.ofList inner

/-- Takes the characters of a name. -/
def takeName (continues : Char → Bool) : Nat → List Char → Reader String
  | 0, seen => return String.ofList seen.reverse
  | fuel + 1, seen => do
    match ← coming with
    | c :: rest =>
      if continues c then
        moveTo rest
        takeName continues fuel (c :: seen)
      else return String.ofList seen.reverse
    | [] => return String.ofList seen.reverse

/-- Takes the name of a variable. -/
def variableName : Reader String := do takeName continuesName (← get).rest.length []

/-- What is made of a parameter in braces, from behind its name on. -/
def use : Reader Use := do
  match ← coming with
  | '\x7d' :: rest =>
    moveTo rest
    return .plain
  | ':' :: rest =>
    moveTo rest
    match ← coming with
    | c :: rest =>
      moveTo rest
      return if c = '\x7d' then .plain else (substitute? true c).getD .malformed
    | [] => return .malformed
  | '%' :: rest =>
    moveTo rest
    return .withoutEnd (← twice '%')
  | '#' :: rest =>
    moveTo rest
    return .withoutStart (← twice '#')
  | c :: rest =>
    moveTo rest
    return (substitute? false c).getD .malformed
  | [] => return .malformed
where
  /-- What a sign asks for when there is no value, or is one. -/
  substitute? (emptyToo : Bool) : Char → Option Use
    | '-' => some (.orElse emptyToo)
    | '=' => some (.orAssign emptyToo)
    | '+' => some (.andThen emptyToo)
    | '?' => some (.orFail emptyToo)
    | _ => none
  /-- Takes a sign if it is there again. -/
  twice (sign : Char) : Reader Bool := do
    match ← coming with
    | c :: rest =>
      if c = sign then
        moveTo rest
        return true
      else return false
    | [] => return false

/-- The end of a parameter whose length is asked for. -/
def lengthEnd : Reader Use := do
  match ← coming with
  | '\x7d' :: rest =>
    moveTo rest
    return .length
  | _ => return .malformed

/-- The name of a parameter in braces, and what is made of it. A number sign asks for the length,
unless it is the parameter itself. -/
def bracedName : Reader (String × Use) := do
  match ← coming with
  | [] => return ("", .malformed)
  | '#' :: rest =>
    moveTo rest
    match ← coming with
    | c :: rest =>
      if startsName c then
        let name ← variableName
        return (name, ← lengthEnd)
      else if c.isDigit then
        moveTo rest
        return (c.toString, ← lengthEnd)
      else if c = '\x7d' ∨ rest.head? ≠ some '\x7d' then return ("#", ← use)
      else
        moveTo rest
        if specialParameters.contains c then return (c.toString, ← lengthEnd)
        else return ("", .malformed)
    | [] => return ("#", .malformed)
  | c :: rest =>
    if startsName c then
      let name ← variableName
      return (name, ← use)
    else if c.isDigit then
      let name ← takeName Char.isDigit rest.length.succ []
      return (name, ← use)
    else if specialParameters.contains c then
      moveTo rest
      return (c.toString, ← use)
    else
      if c ≠ '\x7d' then moveTo rest
      return ("", .malformed)

/-- The script up to a closing backquote. -/
def backquoted (quoted : Bool) : Nat → List Char → Reader String
  | 0, _ => fail "EOF in backquote substitution"
  | fuel + 1, seen => do
    match ← coming with
    | '\x60' :: rest =>
      moveTo rest
      return String.ofList seen.reverse
    | '\\' :: c :: rest =>
      moveTo rest
      let kept := c = '\\' ∨ c = '\x60' ∨ c = '$' ∨ (quoted ∧ c = '"')
      backquoted quoted fuel (if kept then c :: seen else c :: '\\' :: seen)
    | '\n' :: rest =>
      passLine rest
      backquoted quoted fuel ('\n' :: seen)
    | c :: rest =>
      moveTo rest
      backquoted quoted fuel (c :: seen)
    | [] => fail "EOF in backquote substitution"

/-- Skips blanks and a comment. -/
def skipBlanks : Nat → Reader Unit
  | 0 => return
  | fuel + 1 => do
    match ← coming with
    | c :: rest =>
      if c = ' ' ∨ c = '\t' then
        moveTo rest
        skipBlanks fuel
      else if c = '#' then moveTo (rest.dropWhile (· ≠ '\n'))
      else return
    | [] => return

/-- How a token is named in a fault. -/
def describe : Token → String
  | .word word =>
    match word.bare?.filter fun text => reservedWords.contains text && text ≠ "in" with
    | some text => s!"\"{text}\""
    | none => "word"
  | .operator text => s!"\"{text}\""
  | .redirection .. => "redirection"
  | .lineEnd => "newline"
  | .scriptEnd => "end of file"

/-- The text of a token that can have a meaning of its own. -/
def closing? : Token → Option String
  | .word word => word.bare?
  | .operator text => some text
  | _ => none

/-- Stops at a token, perhaps in place of another one. -/
def unexpected {α : Type} (next : Token) (wanted : Option String) : Reader α :=
  fail (s!"{describe next} unexpected" ++ (wanted.map fun w => s!" (expecting {w})").getD "")

mutual

/-- Takes the next token from the text. -/
def scan (fuel : Nat) : Reader Token :=
  match fuel with
  | 0 => fail "too long"
  | fuel + 1 => do
    skipBlanks (← get).rest.length.succ
    let cs ← coming
    match cs with
    | [] => return .scriptEnd
    | '\n' :: rest =>
      passLine rest
      return .lineEnd
    | c :: behind =>
      let (descriptor, behind) :=
        if c.isDigit ∧ (behind.head?.any fun d => d = '<' || d = '>') then
          (some (c.toNat - 48), behind)
        else (none, cs)
      match splitFirst redirectionSigns behind with
      | some (sign, rest) =>
        moveTo rest
        return .redirection descriptor sign
      | none =>
        match splitFirst operators cs with
        | some (text, rest) =>
          moveTo rest
          return .operator text
        | none => return .word (← pieces fuel .command [])

/-- Reads the pieces of a word behind those that were read, which are in reverse. -/
def pieces (fuel : Nat) (around : Surrounding) (seen : List Piece) : Reader Word :=
  match fuel with
  | 0 => fail "too long"
  | fuel + 1 => do
    let cs ← coming
    let (plain, rest) := cs.span (!around.stopsAt ·)
    if plain ≠ [] then
      moveTo rest
      pieces fuel around (pushLiteral (String.ofList plain) seen)
    else match cs with
      | [] =>
        match around with
        | .command => return seen.reverse
        | .document => return seen.reverse
        | .braces => fail "Missing '\x7d'"
        | .quotes => fail "Unterminated quoted string"
        | .quotedBraces _ => fail "Unterminated quoted string"
        | .expression _ => fail "Missing '))'"
      | '\\' :: [] =>
        moveTo []
        pieces fuel around (pushQuoted "\\" seen)
      | '\\' :: c :: rest =>
        moveTo rest
        let isInBraces := match around with
          | .quotedBraces _ => true
          | _ => false
        let isEscape := ['\\', '\x60', '$'].contains c || (c = '"' && around ≠ .document)
          || (c = '\x7d' && isInBraces)
        let text := if around.isQuoted && !isEscape then String.ofList ['\\', c] else c.toString
        pieces fuel around (pushQuoted text seen)
      | '$' :: rest =>
        moveTo rest
        match ← dollar fuel around with
        | some piece => pieces fuel around (piece :: seen)
        | none => pieces fuel around (pushLiteral "$" seen)
      | '\x60' :: rest =>
        moveTo rest
        let text ← backquoted around.isQuoted fuel []
        let commands ← inner fuel text
        pieces fuel around (.output (.block commands) :: seen)
      | c :: rest =>
        let onward (c : Char) : Reader Word := do
          if c = '\n' then passLine rest else moveTo rest
          pieces fuel around (pushLiteral c.toString seen)
        match around, c with
        | .command, '\x27' =>
          moveTo rest
          pieces fuel around (.quoted (← singleQuoted) :: seen)
        | .braces, '\x27' =>
          moveTo rest
          pieces fuel around (.quoted (← singleQuoted) :: seen)
        | .command, '"' =>
          moveTo rest
          pieces fuel around (.group (← pieces fuel .quotes []) :: seen)
        | .braces, '"' =>
          moveTo rest
          pieces fuel around (.group (← pieces fuel .quotes []) :: seen)
        | .command, _ => return seen.reverse
        | .braces, '\x7d' =>
          moveTo rest
          return seen.reverse
        | .quotes, '"' =>
          moveTo rest
          return seen.reverse
        | .quotedBraces inner, '"' =>
          moveTo rest
          pieces fuel (.quotedBraces !inner) seen
        | .quotedBraces false, '\x7d' =>
          moveTo rest
          return seen.reverse
        | .expression n, '(' =>
          moveTo rest
          pieces fuel (.expression (n + 1)) (pushLiteral "(" seen)
        | .expression (n + 1), ')' =>
          moveTo rest
          pieces fuel (.expression n) (pushLiteral ")" seen)
        | .expression 0, ')' =>
          moveTo rest
          match ← coming with
          | ')' :: rest =>
            moveTo rest
            return seen.reverse
          | _ => pieces fuel around (pushLiteral ")" seen)
        | _, c => onward c

/-- The substitution that a dollar sign begins, from behind the sign on; nothing if there is none.
-/
def dollar (fuel : Nat) (around : Surrounding) : Reader (Option Piece) :=
  match fuel with
  | 0 => fail "too long"
  | fuel + 1 => do
    match ← coming with
    | '(' :: rest =>
      moveTo rest
      match ← coming with
      | '(' :: rest =>
        moveTo rest
        return some (.value (← pieces fuel (.expression 0) []))
      | _ =>
        let commands ← list fuel true []
        expect fuel ")"
        return some (.output (.block commands))
    | '\x7b' :: rest =>
      moveTo rest
      let (name, use) ← bracedName
      match use with
      | .plain => return some (.parameter name .plain [])
      | .length => return some (.parameter name .length [])
      | use => return some (.parameter name use (← pieces fuel (around.inBraces use) []))
    | c :: rest =>
      if startsName c then return some (.parameter (← variableName) .plain [])
      else if c.isDigit ∨ specialParameters.contains c then
        moveTo rest
        return some (.parameter c.toString .plain [])
      else return none
    | [] => return none

/-- Reads a text of its own as commands. -/
def inner (fuel : Nat) (text : String) : Reader (List Command) :=
  match fuel with
  | 0 => fail "too long"
  | fuel + 1 => do
    let outer ← get
    set { outer with rest := text.toList, line := 1, ahead := 0, pending := none }
    let commands ← list fuel true []
    let .scriptEnd ← peek fuel | do unexpected (← peek fuel) none
    set outer
    return commands

/-- The next token, which is not taken. -/
def peek (fuel : Nat) : Reader Token :=
  match fuel with
  | 0 => fail "too long"
  | fuel + 1 => do
    match (← get).pending with
    | some next => return next
    | none =>
      let next ← scan fuel
      modify fun c => { c with pending := some next }
      return next

/-- Takes the next token. -/
def token (fuel : Nat) : Reader Token :=
  match fuel with
  | 0 => fail "too long"
  | fuel + 1 => do
    let next ← peek fuel
    modify fun c => { c with pending := none }
    return next

/-- Takes a token that has to be there. -/
def expect (fuel : Nat) (text : String) : Reader Unit :=
  match fuel with
  | 0 => fail "too long"
  | fuel + 1 => do
    if closing? (← peek fuel) = some text then modify fun c => { c with pending := none }
    else unexpected (← peek fuel) (some s!"\"{text}\"")

/-- Takes a token if it is there. -/
def skip (fuel : Nat) (text : String) : Reader Bool :=
  match fuel with
  | 0 => fail "too long"
  | fuel + 1 => do
    if closing? (← peek fuel) = some text then
      modify fun c => { c with pending := none }
      return true
    else return false

/-- Skips the ends of lines. -/
def skipLines (fuel : Nat) : Reader Unit :=
  match fuel with
  | 0 => fail "too long"
  | fuel + 1 => do
    if let .lineEnd ← peek fuel then
      modify fun c => { c with pending := none }
      skipLines fuel

/-- Skips tokens up to the end of the line. -/
def skipToLineEnd (fuel : Nat) : Reader Unit :=
  match fuel with
  | 0 => fail "too long"
  | fuel + 1 => do
    match ← token fuel with
    | .lineEnd => return
    | .scriptEnd => return
    | _ => skipToLineEnd fuel

/-- Takes the lines that begin after the current one, up to a delimiter. -/
def document (fuel : Nat) (strip : Bool) (delimiter : Word) : Reader Word :=
  match fuel with
  | 0 => fail "too long"
  | fuel + 1 => do
    let here ← get
    let after := match skipToLineEnd fuel here with
      | .ok (_, there) => there.rest
      | .error _ => (here.rest.dropWhile (· ≠ '\n')).drop 1
    let before := here.rest.take (here.rest.length - after.length)
    let (lines, rest, count) :=
      splitDocument strip delimiter.plainText.toList (after.length + 1) after
    let there := { here with rest := before ++ rest, ahead := here.ahead + count }
    if delimiter.any Piece.isQuoted then
      set there
      return [.quoted (String.ofList lines)]
    else
      set { here with rest := lines, line := here.line + 1 + here.ahead, pending := none }
      let content ← pieces fuel .document []
      set there
      return content

/-- Reads the rest of a redirection. -/
def redirection (fuel : Nat) (descriptor : Option Nat) (sign : String) :
    Reader (Redirection Word) :=
  match fuel with
  | 0 => fail "too long"
  | fuel + 1 => do
    let .word word ← peek fuel | do unexpected (← peek fuel) none
    modify fun c => { c with pending := none }
    let reads := descriptor.getD 0
    let writes := descriptor.getD 1
    match sign with
    | "<<" => return ⟨reads, .text, ← document fuel false word⟩
    | "<<-" => return ⟨reads, .text, ← document fuel true word⟩
    | ">>" => return ⟨writes, .append, word⟩
    | "<&" => return ⟨reads, .same, word⟩
    | ">&" => return ⟨writes, .same, word⟩
    | "<>" => return ⟨reads, .readWrite, word⟩
    | "<" => return ⟨reads, .read, word⟩
    | ">|" => return ⟨writes, .write true, word⟩
    | _ => return ⟨writes, .write false, word⟩

/-- Reads redirections behind those that were read, which are in reverse. -/
def redirections (fuel : Nat) (seen : List (Redirection Word)) :
    Reader (List (Redirection Word)) :=
  match fuel with
  | 0 => fail "too long"
  | fuel + 1 => do
    match ← peek fuel with
    | .redirection descriptor sign =>
      modify fun c => { c with pending := none }
      redirections fuel ((← redirection fuel descriptor sign) :: seen)
    | _ => return seen.reverse

/-- Reads words behind those that were read, which are in reverse. -/
def words (fuel : Nat) (seen : List Word) : Reader (List Word) :=
  match fuel with
  | 0 => fail "too long"
  | fuel + 1 => do
    match ← peek fuel with
    | .word word =>
      modify fun c => { c with pending := none }
      words fuel (word :: seen)
    | _ => return seen.reverse

/-- Reads the patterns of an arm behind those that were read, which are in reverse. -/
def patterns (fuel : Nat) (seen : List Word) : Reader (List Word) :=
  match fuel with
  | 0 => fail "too long"
  | fuel + 1 => do
    let .word word ← peek fuel | do unexpected (← peek fuel) (some "\")\"")
    modify fun c => { c with pending := none }
    if ← skip fuel "|" then patterns fuel (word :: seen)
    else
      expect fuel ")"
      return (word :: seen).reverse

/-- Reads commands up to a token that ends them, behind those that were read, which are in reverse.
-/
def list (fuel : Nat) (maybeEmpty : Bool) (seen : List Command) : Reader (List Command) :=
  match fuel with
  | 0 => fail "too long"
  | fuel + 1 => do
    skipLines fuel
    let next ← peek fuel
    if let .scriptEnd := next then return seen.reverse
    if maybeEmpty ∧ (closing? next).any listEnds.contains then return seen.reverse
    let command ← chain fuel
    if ← skip fuel "&" then list fuel true (.background command :: seen)
    else if ← skip fuel ";" then list fuel true (command :: seen)
    else if let .lineEnd ← peek fuel then list fuel true (command :: seen)
    else return (command :: seen).reverse

/-- Reads commands, of which there has to be one, up to a token that ends them. -/
def block (fuel : Nat) : Reader Command :=
  match fuel with
  | 0 => fail "too long"
  | fuel + 1 => do return .block (← list fuel false [])

/-- Reads commands, each of which depends on the success of the one before. -/
def chain (fuel : Nat) : Reader Command :=
  match fuel with
  | 0 => fail "too long"
  | fuel + 1 => do chainFrom fuel (← pipeline fuel)

/-- Reads on behind the first of some commands that depend on each other. -/
def chainFrom (fuel : Nat) (first : Command) : Reader Command :=
  match fuel with
  | 0 => fail "too long"
  | fuel + 1 => do
    if ← skip fuel "&&" then
      skipLines fuel
      chainFrom fuel (.both first (← pipeline fuel))
    else if ← skip fuel "||" then
      skipLines fuel
      chainFrom fuel (.either first (← pipeline fuel))
    else return first

/-- Reads a pipeline. -/
def pipeline (fuel : Nat) : Reader Command :=
  match fuel with
  | 0 => fail "too long"
  | fuel + 1 => do
    if ← skip fuel "!" then return .negation (← pipeFrom fuel [← command fuel])
    else pipeFrom fuel [← command fuel]

/-- Reads on behind the first commands of a pipeline, which are in reverse. -/
def pipeFrom (fuel : Nat) (seen : List Command) : Reader Command :=
  match fuel with
  | 0 => fail "too long"
  | fuel + 1 => do
    if ← skip fuel "|" then
      skipLines fuel
      pipeFrom fuel ((← command fuel) :: seen)
    else match seen with
      | [only] => return only
      | seen => return .pipe seen.reverse

/-- Puts the text of an alias in the place of the next token, as often as there is one. -/
def expandAlias (fuel : Nat) : Reader Unit :=
  match fuel with
  | 0 => return
  | fuel + 1 => do
    let next ← peek fuel
    let c ← get
    let expanding := c.expanding.filter fun (_, length) => length ≤ c.rest.length
    let name := (closing? next).filter (!reservedWords.contains ·)
    match name.bind fun name => (c.aliases.lookup name).map (name, ·) with
    | some (name, text) =>
      if (expanding.lookup name).isNone then
        set { c with
          rest := text.toList ++ c.rest
          pending := none
          expanding := (name, c.rest.length) :: expanding }
        expandAlias fuel
    | none => return

/-- Reads one command. -/
def command (fuel : Nat) : Reader Command :=
  match fuel with
  | 0 => fail "too long"
  | fuel + 1 => do
    expandAlias fuel
    let next ← peek fuel
    let line := (← get).line
    match closing? next with
    | some "(" =>
      modify fun c => { c with pending := none }
      let body ← block fuel
      expect fuel ")"
      return .enclosed line body (← redirections fuel [])
    | some "\x7b" =>
      modify fun c => { c with pending := none }
      let body ← block fuel
      expect fuel "\x7d"
      redirect fuel line body
    | some "if" =>
      modify fun c => { c with pending := none }
      redirect fuel line (← branch fuel)
    | some "while" =>
      modify fun c => { c with pending := none }
      redirect fuel line (← loop fuel true)
    | some "until" =>
      modify fun c => { c with pending := none }
      redirect fuel line (← loop fuel false)
    | some "for" =>
      modify fun c => { c with pending := none }
      redirect fuel line (← each fuel line)
    | some "case" =>
      modify fun c => { c with pending := none }
      let .word word ← peek fuel | do unexpected (← peek fuel) (some "word")
      modify fun c => { c with pending := none }
      skipLines fuel
      expect fuel "in"
      redirect fuel line (.select line word (← arms fuel []))
    | text =>
      match next with
      | .word _ =>
        if text.any fun text => reservedWords.contains text && text ≠ "in" then
          unexpected next none
        else simple fuel line [] [] []
      | .redirection .. => simple fuel line [] [] []
      | next => unexpected next none

/-- Reads the redirections of a command. -/
def redirect (fuel line : Nat) (body : Command) : Reader Command :=
  match fuel with
  | 0 => fail "too long"
  | fuel + 1 => do
    match ← redirections fuel [] with
    | [] => return body
    | rs => return .redirected line body rs

/-- Reads a branch from its condition on. -/
def branch (fuel : Nat) : Reader Command :=
  match fuel with
  | 0 => fail "too long"
  | fuel + 1 => do
    let condition ← block fuel
    expect fuel "then"
    let yes ← block fuel
    if ← skip fuel "elif" then return .branch condition yes (some (← branch fuel))
    else if ← skip fuel "else" then
      let no ← block fuel
      expect fuel "fi"
      return .branch condition yes (some no)
    else
      expect fuel "fi"
      return .branch condition yes none

/-- Reads a loop from its condition on. -/
def loop (fuel : Nat) (wanted : Bool) : Reader Command :=
  match fuel with
  | 0 => fail "too long"
  | fuel + 1 => do
    let condition ← block fuel
    return .loop wanted condition (← loopBody fuel)

/-- Reads the body of a loop. -/
def loopBody (fuel : Nat) : Reader Command :=
  match fuel with
  | 0 => fail "too long"
  | fuel + 1 => do
    expect fuel "do"
    let body ← block fuel
    expect fuel "done"
    return body

/-- Reads a loop over words from its name on. -/
def each (fuel line : Nat) : Reader Command :=
  match fuel with
  | 0 => fail "too long"
  | fuel + 1 => do
    let .word word ← token fuel | fail "Bad for loop variable"
    let some name := word.bare?.filter isName | fail "Bad for loop variable"
    skipLines fuel
    let list ←
      if ← skip fuel "in" then
        let list ← words fuel []
        match ← peek fuel with
        | .lineEnd => modify fun c => { c with pending := none }
        | _ => if !(← skip fuel ";") then unexpected (← peek fuel) none
        pure list
      else
        let _ ← skip fuel ";"
        pure [[.group [.parameter "@" .plain []]]]
    skipLines fuel
    return .each line name list (← loopBody fuel)

/-- Reads the arms of a selection behind those that were read, which are in reverse. -/
def arms (fuel : Nat) (seen : List (List Word × Option Command)) :
    Reader (List (List Word × Option Command)) :=
  match fuel with
  | 0 => fail "too long"
  | fuel + 1 => do
    skipLines fuel
    if ← skip fuel "esac" then return seen.reverse
    else
      let _ ← skip fuel "("
      let patterns ← patterns fuel []
      let body ← list fuel true []
      let arm := (patterns, if body.isEmpty then none else some (.block body))
      skipLines fuel
      if ← skip fuel "esac" then return (arm :: seen).reverse
      else
        expect fuel ";;"
        arms fuel (arm :: seen)

/-- Reads a simple command behind what was read of it, which is in reverse. -/
def simple (fuel line : Nat) (assignments : List (String × Word)) (words : List Word)
    (redirections : List (Redirection Word)) : Reader Command :=
  match fuel with
  | 0 => fail "too long"
  | fuel + 1 => do
    let before ← get
    if !words.isEmpty then let _ ← peek fuel
    if words.isEmpty || before.leavesAlias (← get) then expandAlias fuel
    match ← peek fuel with
    | .word word =>
      modify fun c => { c with pending := none }
      match words, word.assignment? with
      | [], some assignment => simple fuel line (assignment :: assignments) words redirections
      | _, _ => simple fuel line assignments (word :: words) redirections
    | .redirection descriptor sign =>
      modify fun c => { c with pending := none }
      simple fuel line assignments words ((← redirection fuel descriptor sign) :: redirections)
    | next =>
      match closing? next, words, assignments, redirections with
      | some "(", [word], [], [] =>
        modify fun c => { c with pending := none }
        expect fuel ")"
        match word.bare?.filter fun name => isName name && !specialCommands.contains name with
        | none => fail "Bad function name"
        | some name =>
          let line := (← get).line
          skipLines fuel
          return .define line name (← command fuel)
      | _, _, _, _ => return .simple line assignments.reverse words.reverse redirections.reverse

/-- Reads the commands of one line behind those that were read, which are in reverse; nothing if the
script has ended. -/
def line (fuel : Nat) (seen : List Command) : Reader (Option (List Command)) :=
  match fuel with
  | 0 => fail "too long"
  | fuel + 1 => do
    match ← peek fuel with
    | .lineEnd =>
      modify fun c => { c with pending := none }
      return some seen.reverse
    | .scriptEnd => return if seen.isEmpty then none else some seen.reverse
    | _ =>
      let command ← chain fuel
      if ← skip fuel "&" then line fuel (.background command :: seen)
      else if ← skip fuel ";" then line fuel (command :: seen)
      else match ← peek fuel with
        | .lineEnd => line fuel (command :: seen)
        | .scriptEnd => return some (command :: seen).reverse
        | next => unexpected next none

end

end Reader

/-- Reads the next line of a script: its commands, or nothing if the script has ended. -/
def Cursor.readLine (cursor : Cursor) : Except SyntaxFault (Option (List Command) × Cursor) :=
  Reader.line (64 * (cursor.rest.length + 16)) [] cursor

/-- The word that a text is where only substitutions have a meaning. -/
def Word.ofDocument? (text : String) : Option Word :=
  ((Reader.pieces (64 * (text.length + 16)) .document [] { rest := text.toList }).toOption).map (·.1)

/-- Whether nothing is left of a script. -/
def Cursor.isAtEnd (cursor : Cursor) : Bool :=
  match cursor.pending with
  | some .scriptEnd => true
  | _ => false

end ContestJudge.Shell
