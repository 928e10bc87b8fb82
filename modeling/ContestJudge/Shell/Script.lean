/-!
# Scripts

What a shell script says. Words hold the scripts whose output they take, so words and commands are
one family of types. All texts are octets.
-/

namespace ContestJudge.Shell

/-- What is made of the value of a parameter. The flag of the first four tells whether an empty
value counts as none. -/
inductive Use where
  | plain
  /-- Its length. -/
  | length
  /-- A word, if there is no value. -/
  | orElse (emptyToo : Bool)
  /-- A word that is also assigned, if there is no value. -/
  | orAssign (emptyToo : Bool)
  /-- A word, if there is a value. -/
  | andThen (emptyToo : Bool)
  /-- The end of the script, if there is no value. -/
  | orFail (emptyToo : Bool)
  /-- Without the shortest, or longest, start that matches a pattern. -/
  | withoutStart (longest : Bool)
  /-- Without the shortest, or longest, end that matches a pattern. -/
  | withoutEnd (longest : Bool)
  /-- Nothing that makes sense. -/
  | malformed
  deriving DecidableEq, Repr, Inhabited

/-- What a redirection does to a descriptor. -/
inductive Opening where
  /-- Reads from a file. -/
  | read
  /-- Writes to an emptied file; `force` also empties one that is to be kept. -/
  | write (force : Bool)
  /-- Writes to the end of a file. -/
  | append
  /-- Reads from and writes to a file. -/
  | readWrite
  /-- Means the same as another descriptor. -/
  | same
  /-- Reads the text of the word. -/
  | text
  deriving DecidableEq, Repr, Inhabited

/-- A redirection of a descriptor, with words of some kind. -/
structure Redirection (ω : Type) where
  /-- The descriptor. -/
  descriptor : Nat
  /-- What is done to it. -/
  opening : Opening
  /-- The file, descriptor or text. -/
  word : ω
  deriving Inhabited

mutual

/-- A part of a word. -/
inductive Piece where
  /-- Itself, where a wildcard has its meaning. -/
  | literal (text : String)
  /-- Itself and nothing else. -/
  | quoted (text : String)
  /-- What stands in double quotes. -/
  | group (pieces : List Piece)
  /-- The value of a parameter. -/
  | parameter (name : String) (use : Use) (word : List Piece)
  /-- The output of a script. -/
  | output (script : Command)
  /-- The value of an expression. -/
  | value (expression : List Piece)

/-- A command. Some know the line where they start. -/
inductive Command where
  /-- Assignments and words. -/
  | simple (line : Nat) (assignments : List (String × List Piece)) (words : List (List Piece))
      (redirections : List (Redirection (List Piece)))
  /-- One command after the other. -/
  | block (commands : List Command)
  /-- A command that is not waited for. -/
  | background (command : Command)
  /-- A second command if the first one succeeds. -/
  | both (first second : Command)
  /-- A second command if the first one fails. -/
  | either (first second : Command)
  /-- A command that succeeds when it fails. -/
  | negation (command : Command)
  /-- Commands, each of which reads what the one before it writes. -/
  | pipe (commands : List Command)
  /-- A command that changes nothing of the shell that runs it. -/
  | enclosed (line : Nat) (command : Command) (redirections : List (Redirection (List Piece)))
  /-- One command or another, by the success of a condition. -/
  | branch (condition yes : Command) (no : Option Command)
  /-- A body again and again, as long as the success of a condition is as wanted. -/
  | loop (wanted : Bool) (condition body : Command)
  /-- A body for each of some words. -/
  | each (line : Nat) (name : String) (words : List (List Piece)) (body : Command)
  /-- The first command one of whose patterns matches a word. -/
  | select (line : Nat) (word : List Piece) (arms : List (List (List Piece) × Option Command))
  /-- A command with redirections. -/
  | redirected (line : Nat) (command : Command) (redirections : List (Redirection (List Piece)))
  /-- Gives a name to a command. -/
  | define (line : Nat) (name : String) (body : Command)

end

instance : Inhabited Piece := ⟨.literal ""⟩
instance : Inhabited Command := ⟨.block []⟩

/-- A word. -/
abbrev Word := List Piece

/-- The text of a word that is one literal; only such a word can be reserved. -/
def Word.bare? : Word → Option String
  | [.literal text] => some text
  | _ => none

/-- Whether a part of a word is quoted. -/
def Piece.isQuoted : Piece → Bool
  | quoted _ => true
  | group _ => true
  | _ => false

/-- The text of a word without its quotes, as far as it needs no shell to know it. -/
def Word.plainText (word : Word) : String :=
  String.join (word.map fun
    | .literal text => text
    | .quoted text => text
    | .group pieces => String.join (pieces.map fun
      | .literal text => text
      | .quoted text => text
      | _ => "")
    | _ => "")

/-- Whether a name may start with a character. -/
def startsName (c : Char) : Bool := c.isAlpha || c = '_'

/-- Whether a name may go on with a character. -/
def continuesName (c : Char) : Bool := c.isAlphanum || c = '_'

/-- Whether a text is the name of a variable. -/
def isName (text : String) : Bool :=
  match text.toList with
  | [] => false
  | c :: rest => startsName c && rest.all continuesName

/-- A name and a value with an equals sign between them. -/
def splitAssignment? (text : String) : Option (String × String) :=
  match text.toList.span continuesName with
  | (c :: name, '=' :: value) =>
    if startsName c then some (String.ofList (c :: name), String.ofList value) else none
  | _ => none

/-- The name and value of a word that is an assignment. -/
def Word.assignment? : Word → Option (String × Word)
  | .literal text :: rest =>
    (splitAssignment? text).map fun (name, value) =>
      (name, if value = "" then rest else .literal value :: rest)
  | _ => none

/-- A script that cannot be read. -/
structure SyntaxFault where
  /-- The line where reading stopped. -/
  line : Nat
  /-- What is wrong there. -/
  reason : String
  deriving DecidableEq, Repr

end ContestJudge.Shell
