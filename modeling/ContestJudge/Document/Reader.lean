import ContestJudge.Document.Number
import ContestJudge.Document.Outline
import ContestJudge.Document.Quotation

/-!
# Reading a document

A document is a sequence of lines, each with a header, an entry or nothing, and each with an
optional comment. What is not well formed is refused as a whole. Each step is given as many steps as
there are characters left, so reading ends.
-/

namespace ContestJudge.Document

/-- How deep sequences, tables and dotted names may be nested. -/
def nestingLimit : Nat := 128

/-- A character of a bare name. -/
def isBare (c : Char) : Bool := c.isAlphanum || c = '_' || c = '-'

/-- One part of a name. -/
def readNamePart (cs : List Char) : Option (String × List Char) :=
  match cs with
  | [] => none
  | c :: _ =>
    if c = '"' ∨ c = '\x27' then readLineText cs
    else if isBare c then some (String.ofList (cs.takeWhile isBare), cs.dropWhile isBare)
    else none

/-- The parts of a dotted name after those `seen` in reverse, with the blanks around them. -/
def readParts : Nat → List String → List Char → Option (List String × List Char)
  | 0, _, _ => none
  | fuel + 1, seen, cs => do
    let (part, cs) ← readNamePart (skipBlanks cs)
    match skipBlanks cs with
    | '.' :: rest => readParts fuel (part :: seen) rest
    | cs => return (part :: seen, cs)

/-- A dotted name: the path to it, the name itself, and what follows. -/
def readName (cs : List Char) : Option (List String × String × List Char) :=
  match readParts nestingLimit [] cs with
  | some (name :: path, rest) =>
    if path.length + 1 < nestingLimit then some (path.reverse, name, rest) else none
  | _ => none

/-- Drops blanks, line breaks and comments. -/
def skipTrivia (inComment : Bool) : List Char → List Char
  | '\n' :: rest => skipTrivia false rest
  | '\r' :: '\n' :: rest => skipTrivia false rest
  | c :: rest =>
    if (inComment ∧ isPlain c) ∨ c = ' ' ∨ c = '\t' then skipTrivia inComment rest
    else if c = '#' then skipTrivia true rest
    else c :: rest
  | [] => []

mutual

/-- A value inside `depth` others. -/
def readValue : Nat → Nat → List Char → Option (Value × List Char)
  | 0, _, _ => none
  | fuel + 1, depth, cs =>
    match cs with
    | 't' :: 'r' :: 'u' :: 'e' :: rest => some (.boolean true, rest)
    | 'f' :: 'a' :: 'l' :: 's' :: 'e' :: rest => some (.boolean false, rest)
    | '[' :: rest =>
      if depth + 1 < nestingLimit then readElements fuel (depth + 1) [] rest else none
    | '\x7b' :: rest =>
      if depth + 1 < nestingLimit then
        match skipBlanks rest with
        | '\x7d' :: rest => some (.table [], rest)
        | rest => readMembers fuel (depth + 1) [] rest
      else none
    | '"' :: _ => (readText cs).map fun (s, rest) => (.string s, rest)
    | '\x27' :: _ => (readText cs).map fun (s, rest) => (.string s, rest)
    | cs => ((Moment.read cs).map fun (m, rest) => (.moment m, rest)).or (readNumber cs)

/-- The elements of a sequence up to its end, onto those `seen` in reverse. The last one may have a
comma after it. -/
def readElements : Nat → Nat → List Value → List Char → Option (Value × List Char)
  | 0, _, _, _ => none
  | fuel + 1, depth, seen, cs =>
    match skipTrivia false cs with
    | ']' :: rest => some (.sequence seen.reverse, rest)
    | cs => do
      let (value, cs) ← readValue fuel depth cs
      match skipTrivia false cs with
      | ',' :: rest => readElements fuel depth (value :: seen) rest
      | ']' :: rest => return (.sequence (value :: seen).reverse, rest)
      | _ => none

/-- The entries of a table in braces up to its end, onto those before. All stand on one line, and a
dotted name may lead into any table among them. -/
def readMembers : Nat → Nat → List (String × Value) → List Char → Option (Value × List Char)
  | 0, _, _, _ => none
  | fuel + 1, depth, entries, cs => do
    let (path, name, cs) ← readName cs
    match cs with
    | '=' :: cs =>
      let (value, cs) ← readValue fuel depth (skipBlanks cs)
      let entries ← Value.insertAt name value path entries
      match skipBlanks cs with
      | ',' :: rest => readMembers fuel depth entries rest
      | '\x7d' :: rest => return (.table entries, rest)
      | _ => none
    | _ => none

end

/-- The rest of a line, which may be blanks and a comment. -/
def finishLine (cs : List Char) : Option (List Char) :=
  let cs := skipBlanks cs
  let cs := if cs.head? = some '#' then cs.dropWhile isPlain else cs
  if cs.isEmpty then some [] else afterLineBreak? cs

/-- One line of a document. -/
def readLine (d : Draft) (cs : List Char) : Option (Draft × List Char) :=
  match cs with
  | '[' :: '[' :: rest => do
    let (path, name, cs) ← readName rest
    match cs with
    | ']' :: ']' :: rest => return (← d.openElement path name, ← finishLine rest)
    | _ => none
  | '[' :: rest => do
    let (path, name, cs) ← readName rest
    match cs with
    | ']' :: rest => return (← d.openTable path name, ← finishLine rest)
    | _ => none
  | c :: _ =>
    if c = '#' ∨ c = '\n' ∨ c = '\r' then (finishLine cs).map (d, ·)
    else do
      let (path, name, cs) ← readName cs
      match cs with
      | '=' :: rest =>
        let (value, cs) ← readValue (rest.length + 1) 0 (skipBlanks rest)
        return (← d.put path name value, ← finishLine cs)
      | _ => none
  | [] => none

/-- The lines of a document. -/
def readDocument : Nat → Draft → List Char → Option Draft
  | 0, _, _ => none
  | fuel + 1, d, cs =>
    match skipBlanks cs with
    | [] => some d
    | cs => do
      let (d, cs) ← readLine d cs
      readDocument fuel d cs

/-- The entries of a document, or nothing if it is not well formed. A byte order mark may come
first. -/
def parse? (text : String) : Option (List (String × Value)) :=
  let cs := match text.toList with
    | '\ufeff' :: rest => rest
    | cs => cs
  (readDocument (cs.length + 1) .start cs).bind Draft.finish

end ContestJudge.Document
