import ContestJudge.Shell.Regex.Reader

/-!
# Scripts that edit lines

A script is a list of commands. Each applies to some lines only, and changes the text that is being
edited, or writes something, or says where to go on.
-/

namespace ContestJudge.Shell.Editing

/-- What is looked for in a text; without an expression it is the one that was used last. -/
structure Finding where
  /-- The expression. -/
  regex : Option Regex
  /-- Whether the case of letters does not count. -/
  ignoresCase : Bool := false
  /-- Whether each line of the text is on its own. -/
  byLines : Bool := false
  deriving Inhabited

/-- Which lines are meant. -/
inductive Address where
  /-- The line of that number. -/
  | line (number : Nat)
  /-- A line, and then every so many lines. -/
  | every (first step : Nat)
  /-- The last line. -/
  | last
  /-- Lines in which something is found. -/
  | found (what : Finding)
  deriving Inhabited

/-- Where a range of lines ends. -/
inductive RangeEnd where
  /-- At a line that is meant. -/
  | address (a : Address)
  /-- So many lines further on. -/
  | more (count : Nat)
  /-- At a line whose number is a multiple. -/
  | multiple (factor : Nat)

/-- What changes the case of letters from some place on. -/
inductive CaseChange where
  /-- All letters become large. -/
  | upper
  /-- All letters become small. -/
  | lower
  /-- The next letter becomes large. -/
  | upperOne
  /-- The next letter becomes small. -/
  | lowerOne
  /-- Letters stay as they are. -/
  | stop
  deriving DecidableEq, Repr

/-- A part of what is put in place of a match. -/
inductive Substitute where
  /-- That character. -/
  | char (c : Char)
  /-- A part of the match that is remembered, or all of it. -/
  | part (number : Nat)
  /-- A change of case. -/
  | change (change : CaseChange)
  deriving DecidableEq, Repr

/-- A replacement of matches. -/
structure Replacement where
  /-- What is looked for. -/
  what : Finding
  /-- What is put in its place. -/
  substitutes : List Substitute
  /-- Whether all matches are replaced from the first one on. -/
  isGlobal : Bool
  /-- The first match that is replaced. -/
  first : Nat
  /-- Whether the result is written. -/
  prints : Bool
  /-- The file to which the result is written. -/
  file : Option String

/-- What a command does. -/
inductive Action where
  /-- Begins a block that ends at some command. -/
  | block (stop : Nat)
  /-- Ends a block, or marks a place. -/
  | nothing
  /-- Writes a text behind the line. -/
  | append (text : List Char)
  /-- Writes a text before the line. -/
  | insert (text : List Char)
  /-- Writes a text instead of the lines. -/
  | change (text : List Char)
  /-- Goes on at a label, or at the end: always, or if something was replaced, or if not. -/
  | jump (onlyIf : Option Bool) (label : String)
  /-- Ends, perhaps without writing the line. -/
  | quit (silently : Bool) (status : Nat)
  /-- Writes a file behind the line. -/
  | readFile (name : String)
  /-- Writes the next line of a file behind the line. -/
  | readLine (name : String)
  /-- Writes the text, or its first line, to a file. -/
  | write (onlyFirst : Bool) (name : String)
  /-- Replaces matches. -/
  | replace (r : Replacement)
  /-- Replaces characters. -/
  | translate (table : List (Char × Char))
  /-- Shows the text so that everything can be seen. -/
  | list (width : Option Nat)
  /-- A command that is told by its letter. -/
  | plain (letter : Char)

/-- A command. -/
structure Command where
  /-- The lines that it applies to, or the start of a range. -/
  first : Option Address := none
  /-- The end of the range. -/
  second : Option RangeEnd := none
  /-- Whether it applies to the other lines. -/
  isNegated : Bool := false
  /-- What it does. -/
  action : Action

/-- A script. -/
structure Script where
  /-- The commands. -/
  commands : Array Command
  /-- Where labels stand. -/
  labels : List (String × Nat)
  /-- Whether the script itself says that lines are not written unless it writes them. -/
  isSilent : Bool

end ContestJudge.Shell.Editing
