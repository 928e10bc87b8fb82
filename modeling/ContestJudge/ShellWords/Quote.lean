/-!
# Quoting a text as one shell word

A text is cut into chunks, and each chunk is written bare, in single quotes or in double quotes,
whichever comes first of those that every character of the chunk allows. A chunk is as long as
possible. A caret is written only right after an opening single quote, which every shell takes
literally.
-/

namespace ContestJudge.ShellWords

/-- The ways of writing that are open to a character, or to all characters of a chunk. -/
structure Ways where
  /-- Without quotes. -/
  bare : Bool
  /-- In single quotes. -/
  single : Bool
  /-- In double quotes. -/
  double : Bool
  deriving DecidableEq, Repr

namespace Ways

/-- The ways open to both. -/
def inter (a b : Ways) : Ways :=
  ⟨a.bare && b.bare, a.single && b.single, a.double && b.double⟩

/-- Whether any way is open. -/
def any (w : Ways) : Bool := w.bare || w.single || w.double

/-- The ways of one character inside a chunk. -/
def ofChar (c : Char) : Ways where
  bare := c.isAlphanum || "+-./:@]_".toList.contains c
  single := !(c = '\x27' || c = '^' || c = '\\')
  double := !(c = '\x60' || c = '$' || c = '!' || c = '^')

/-- The ways of the first character of a chunk. -/
def ofFirst (c : Char) : Ways := if c = '^' then ⟨false, true, false⟩ else ofChar c

end Ways

/-- A chunk in double quotes, with backslashes before the characters that need one there. -/
def doubleQuoted (chunk : List Char) : List Char :=
  '"' :: chunk.flatMap (fun c => if c = '"' ∨ c = '\\' then ['\\', c] else [c]) ++ ['"']

/-- Writes a chunk in the first way open to it. -/
def writeChunk (ways : Ways) (chunk : List Char) : List Char :=
  if ways.bare then chunk
  else if ways.single then '\x27' :: chunk ++ ['\x27']
  else doubleQuoted chunk

/-- Writes the rest of a text, where `chunk` holds the chunk begun so far in reverse and `ways` what
is open to it. -/
def quoteFrom (ways : Ways) (chunk : List Char) : List Char → List Char
  | [] => writeChunk ways chunk.reverse
  | c :: rest =>
    let both := ways.inter (Ways.ofChar c)
    if both.any then quoteFrom both (c :: chunk) rest
    else writeChunk ways chunk.reverse ++ quoteFrom (Ways.ofFirst c) [c] rest

/-- A text as one word. A NUL cannot be part of a word; the empty text is a pair of quotes. -/
def quote? (text : String) : Option String :=
  match text.toList with
  | [] => some "\x27\x27"
  | c :: rest =>
    if (c :: rest).contains '\x00' then none
    else some (String.ofList (quoteFrom (Ways.ofFirst c) [c] rest))

end ContestJudge.ShellWords
