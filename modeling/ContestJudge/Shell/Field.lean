import ContestJudge.FileTree.Resolve
import ContestJudge.Shell.Pattern
import ContestJudge.Text.Utf8

/-!
# Fields

Expanding a word gives fragments. Those that come from values outside quotes are split at
separators; the fields that result are compared with the names of files if they hold wildcards
outside quotes. A blank separator ends a field once, however often it comes; any other separator
ends a field each time, together with the blanks around it.
-/

namespace ContestJudge.Shell

open Text

/-- What expanding a part of a word gives. -/
inductive Fragment where
  /-- A text that is not split. -/
  | fixed (quoted : Bool) (text : String)
  /-- Values that are split at separators, with what counts as a blank between them. -/
  | loose (values : List String)
  /-- Values each of which is a field of its own. -/
  | list (values : List String)
  deriving DecidableEq, Repr

/-- The separators that count as blanks. -/
def isBlankSeparator (c : Char) : Bool := c = ' ' || c = '\t' || c = '\n'

/-- Fields that were split off, newest first, and the field that has begun, in reverse. -/
structure Split where
  /-- The fields that have ended. -/
  ended : List (List Glyph) := []
  /-- The field that has begun. -/
  begun : Option (List Glyph) := none
  /-- Whether the last field was ended by a blank. -/
  afterBlank : Bool := false
  /-- Whether the last values were fields of their own. -/
  afterList : Bool := false

namespace Split

/-- Ends the field that has begun, or an empty one. -/
def finish (s : Split) : Split :=
  { s with ended := (s.begun.getD []).reverse :: s.ended, begun := none }

/-- Adds characters to the field that has begun, or begins one. -/
def add (s : Split) (new : List Glyph) : Split :=
  { s with begun := some (new.reverse ++ s.begun.getD []), afterBlank := false }

/-- Adds a blank separator. -/
def addBlank (s : Split) : Split :=
  if s.afterBlank ∨ s.begun.isNone then s else { s.finish with afterBlank := true }

/-- Adds one character of a value. -/
def addLoose (separators : List Char) (s : Split) (c : Char) : Split :=
  if !separators.contains c then s.add [⟨c, false⟩]
  else if isBlankSeparator c then s.addBlank
  else if s.afterBlank then { s with afterBlank := false }
  else s.finish

/-- Adds values that are fields of their own. -/
def addList (s : Split) : List String → Split
  | [] => s
  | [value] => { (if value = "" then s else s.add (glyphs true value)) with afterList := true }
  | value :: values =>
    addList { (if value = "" then s else s.add (glyphs true value)).finish with
      afterBlank := false } values

/-- Adds a fragment. -/
def addFragment (separators : List Char) (s : Split) (fragment : Fragment) : Split :=
  let s := { s with afterBlank := false }
  match fragment with
  | .fixed quoted text =>
    if text = "" ∧ !quoted then s else { s.add (glyphs quoted text) with afterList := false }
  | .loose values =>
    let s := { s with afterList := false }
    match values with
    | [] => s
    | value :: values =>
      values.foldl (fun s value => value.toList.foldl (addLoose separators) s.addBlank)
        (value.toList.foldl (addLoose separators) s)
  | .list values => s.addList values

end Split

/-- The fields of some fragments. -/
def fieldsOf (separators : List Char) (fragments : List Fragment) : List (List Glyph) :=
  let s := fragments.foldl (Split.addFragment separators) {}
  (if s.begun.isSome ∨ s.afterList then s.finish else s).ended.reverse

/-- The characters of fragments that are not split. -/
def glyphsOf (fragments : List Fragment) : List Glyph :=
  fragments.flatMap fun
    | .fixed quoted text => glyphs quoted text
    | .loose values => glyphs false (" ".intercalate values)
    | .list values => glyphs true (" ".intercalate values)

/-- Whether some character is a wildcard. -/
def hasWildcard (field : List Glyph) : Bool :=
  field.any fun g => !g.quoted && ['*', '?', '['].contains g.char

/-- Splits characters at slashes. -/
def splitSlashes : List Glyph → List (List Glyph)
  | [] => [[]]
  | g :: rest =>
    if g.char = '/' then [] :: splitSlashes rest
    else match splitSlashes rest with
      | [] => [[g]]
      | part :: parts => (g :: part) :: parts

/-- The names in a directory, as octets. -/
def namesIn (tree : FileTree) (directory : String) : List String :=
  match tree.find ⟨Octets.toText (if directory = "" then "." else directory)⟩ with
  | .ok (place, .directory) => (tree.childNames place).map Octets.ofText
  | _ => []

/-- The paths behind a start that match some parts. A name that starts with a dot is matched only by
a dot. -/
def pathsMatching (tree : FileTree) (start : String) : List (List Glyph) → List String
  | [] => [start]
  | part :: rest =>
    let names :=
      if hasWildcard part then
        let dotted := part.head?.any (·.char = '.')
        let names := if dotted then "." :: ".." :: namesIn tree start else namesIn tree start
        names.filter fun name => name.startsWith "." == dotted && matchesText part name
      else [textOf part]
    if rest = [] then
      (names.map (start ++ ·)).filter fun path =>
        hasWildcard part || (tree.findLink ⟨Octets.toText path⟩).toBool
    else names.flatMap fun name => pathsMatching tree (start ++ name ++ "/") rest

/-- The texts that a field stands for: the paths that match it in their order, or else itself. -/
def expandField (tree : FileTree) (field : List Glyph) : List String :=
  if !hasWildcard field then [textOf field]
  else match pathsMatching tree "" (splitSlashes field) with
    | [] => [textOf field]
    | paths => paths.mergeSort (· ≤ ·)

/-- The fields of a line that go to a number of names. The last name gets all the rest, without the
blanks at its end, or without a separator that ends its only field. -/
def distribute (separators : List Char) : (names : Nat) → List Glyph → List String
  | 0, _ => []
  | 1, line =>
    let line := line.dropWhile isBlank
    let (field, after) := line.span (!isSeparator ·)
    let behind := (after.dropWhile isBlank)
    let behind := match behind with
      | g :: rest => if isSeparator g then rest.dropWhile isBlank else behind
      | [] => []
    [textOf (if behind = [] then field else (line.reverse.dropWhile isBlank).reverse)]
  | names + 1, line =>
    let (field, after) := (line.dropWhile isBlank).span (!isSeparator ·)
    let behind := after.dropWhile isBlank
    let behind := match behind with
      | g :: rest => if isSeparator g then rest else behind
      | [] => []
    textOf field :: distribute separators names behind
where
  /-- Whether a character separates fields. -/
  isSeparator (g : Glyph) : Bool := !g.quoted && separators.contains g.char
  /-- Whether a character is a blank that separates fields. -/
  isBlank (g : Glyph) : Bool := isSeparator g && isBlankSeparator g.char

end ContestJudge.Shell
