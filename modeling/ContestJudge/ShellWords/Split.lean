/-!
# Splitting a line into words

A line is split as a shell splits it: at blanks, tabs and line ends outside quotes, with single
quotes, double quotes and backslashes. A `#` at the start of a word begins a comment that runs to
the end of its line. A line with an open quote, or with a backslash at its end, has no words at all.
-/

namespace ContestJudge.ShellWords

/-- Where the walk stands. -/
inductive State where
  /-- Between words. -/
  | between
  /-- In a comment. -/
  | comment
  /-- In a word, outside quotes. -/
  | bare
  /-- In a word, just after a backslash outside quotes. -/
  | escape
  /-- In single quotes. -/
  | single
  /-- In double quotes. -/
  | double
  /-- In double quotes, just after a backslash. -/
  | doubleEscape
  deriving DecidableEq, Repr

/-- Whether a character separates words. -/
def isSeparator (c : Char) : Bool := c = ' ' || c = '\t' || c = '\n'

/-- The characters that lose a backslash before them inside double quotes. -/
def isDoubleEscaped (c : Char) : Bool := c = '$' || c = '\x60' || c = '"' || c = '\\'

/-- The words of the rest of a line, where `word` holds the word begun so far in reverse. -/
def splitFrom : State → (word : List Char) → List Char → Option (List (List Char))
  | .between, _, [] => some []
  | .comment, _, [] => some []
  | .bare, word, [] => some [word.reverse]
  | .escape, _, [] => none
  | .single, _, [] => none
  | .double, _, [] => none
  | .doubleEscape, _, [] => none
  | .between, word, c :: rest =>
    if isSeparator c then splitFrom .between word rest
    else if c = '#' then splitFrom .comment word rest
    else if c = '"' then splitFrom .double [] rest
    else if c = '\x27' then splitFrom .single [] rest
    else if c = '\\' then splitFrom .escape [] rest
    else splitFrom .bare [c] rest
  | .comment, word, c :: rest =>
    if c = '\n' then splitFrom .between word rest else splitFrom .comment word rest
  | .bare, word, c :: rest =>
    if isSeparator c then (splitFrom .between [] rest).map (word.reverse :: ·)
    else if c = '"' then splitFrom .double word rest
    else if c = '\x27' then splitFrom .single word rest
    else if c = '\\' then splitFrom .escape word rest
    else splitFrom .bare (c :: word) rest
  | .escape, word, c :: rest =>
    if c = '\n' then splitFrom .bare word rest else splitFrom .bare (c :: word) rest
  | .single, word, c :: rest =>
    if c = '\x27' then splitFrom .bare word rest else splitFrom .single (c :: word) rest
  | .double, word, c :: rest =>
    if c = '"' then splitFrom .bare word rest
    else if c = '\\' then splitFrom .doubleEscape word rest
    else splitFrom .double (c :: word) rest
  | .doubleEscape, word, c :: rest =>
    if c = '\n' then splitFrom .double word rest
    else if isDoubleEscaped c then splitFrom .double (c :: word) rest
    else splitFrom .double (c :: '\\' :: word) rest

/-- The words of a line. -/
def split? (line : String) : Option (List String) :=
  (splitFrom .between [] line.toList).map (·.map String.ofList)

end ContestJudge.ShellWords
