import ContestJudge.Json.Reader

/-!
# Quoted texts of a document

A text stands between double quotes, where a backslash starts an escape, or between single quotes,
where every character stands for itself. Between tripled quotes it may have several lines; a line
break right after the opening belongs to the quotes, and each line break counts as a line feed.
-/

namespace ContestJudge.Document

/-- A character that may stand in a text or a comment: no control character except a tab. -/
def isPlain (c : Char) : Bool := c = '\t' || (' ' ≤ c && c ≠ '\x7f')

/-- Drops spaces and tabs. -/
def skipBlanks : List Char → List Char := List.dropWhile fun c => c = ' ' || c = '\t'

/-- What follows a line break, if there is one. -/
def afterLineBreak? : List Char → Option (List Char)
  | '\n' :: rest => some rest
  | '\r' :: '\n' :: rest => some rest
  | _ => none

/-- Drops blanks and line breaks. -/
def skipBlankLines : List Char → List Char
  | '\r' :: '\n' :: rest => skipBlankLines rest
  | c :: rest => if c = ' ' ∨ c = '\t' ∨ c = '\n' then skipBlankLines rest else c :: rest
  | [] => []

/-- What one letter after a backslash stands for. -/
def shortEscape? : Char → Option Char
  | 'b' => some '\x08'
  | 't' => some '\t'
  | 'n' => some '\n'
  | 'f' => some '\x0c'
  | 'r' => some '\r'
  | '"' => some '"'
  | '\\' => some '\\'
  | _ => none

/-- The character of a number in hexadecimal digits. -/
def ofCodePoint? (digits : List Char) : Option Char := do
  let values ← digits.mapM Json.hexValue?
  let n := values.foldl (fun n d => n * 16 + d) 0
  if n.isValidChar then some (Char.ofNat n) else none

/-- An escape after its backslash. -/
def readEscape : List Char → Option (Char × List Char)
  | 'u' :: rest =>
    if rest.length < 4 then none else (ofCodePoint? (rest.take 4)).map (·, rest.drop 4)
  | 'U' :: rest =>
    if rest.length < 8 then none else (ofCodePoint? (rest.take 8)).map (·, rest.drop 8)
  | c :: rest => (shortEscape? c).map (·, rest)
  | [] => none

/-- The rest of a text in double quotes, onto the characters `seen` in reverse. -/
def readEscaped : Nat → List Char → List Char → Option (String × List Char)
  | 0, _, _ => none
  | fuel + 1, seen, cs =>
    match cs with
    | '"' :: rest => some (String.ofList seen.reverse, rest)
    | '\\' :: rest => do
      let (c, rest) ← readEscape rest
      readEscaped fuel (c :: seen) rest
    | c :: rest => if isPlain c then readEscaped fuel (c :: seen) rest else none
    | [] => none

/-- The rest of a text in single quotes. -/
def readVerbatim (cs : List Char) : Option (String × List Char) :=
  match cs.dropWhile fun c => isPlain c && c ≠ '\x27' with
  | '\x27' :: rest => some (String.ofList (cs.takeWhile fun c => isPlain c && c ≠ '\x27'), rest)
  | _ => none

/-- The rest of a text in tripled quotes, onto the characters `seen` in reverse. Up to two more
quotes may stand before the closing ones. With double quotes a backslash at the end of a line joins
it to the next text, whatever blanks lie between. -/
def readLines (quote : Char) : Nat → List Char → List Char → Option (String × List Char)
  | 0, _, _ => none
  | fuel + 1, seen, cs =>
    let quotes := (cs.takeWhile (· = quote)).length
    if 3 ≤ quotes then
      let extra := min (quotes - 3) 2
      some (String.ofList (List.replicate extra quote ++ seen).reverse, cs.drop (extra + 3))
    else
      match afterLineBreak? cs, cs with
      | some rest, _ => readLines quote fuel ('\n' :: seen) rest
      | none, '\\' :: rest =>
        if quote = '"' then
          match afterLineBreak? (skipBlanks rest) with
          | some rest => readLines quote fuel seen (skipBlankLines rest)
          | none => do
            let (c, rest) ← readEscape rest
            readLines quote fuel (c :: seen) rest
        else readLines quote fuel ('\\' :: seen) rest
      | none, c :: rest => if isPlain c then readLines quote fuel (c :: seen) rest else none
      | none, [] => none

/-- A text in quotes of one line. -/
def readLineText : List Char → Option (String × List Char)
  | '"' :: rest => readEscaped (rest.length + 1) [] rest
  | '\x27' :: rest => readVerbatim rest
  | _ => none

/-- A text in quotes of any kind. -/
def readText (cs : List Char) : Option (String × List Char) :=
  match cs with
  | a :: b :: c :: rest =>
    if a = b ∧ b = c ∧ (a = '"' ∨ a = '\x27') then
      readLines a (rest.length + 1) [] ((afterLineBreak? rest).getD rest)
    else readLineText cs
  | _ => readLineText cs

end ContestJudge.Document
