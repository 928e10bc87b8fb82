/-!
# Patterns of a shell

In a pattern `?` stands for any character, `*` for any text, and `[…]` for one of some characters,
which may be ranges or classes such as `[:digit:]`; `[!…]` stands for any other one. What is quoted
stands for itself. A pattern is compared place by place: what counts is which places of a text it
can reach, so no text is looked at twice for the same reason.
-/

namespace ContestJudge.Shell

/-- A character of an expanded word. -/
structure Glyph where
  /-- The character. -/
  char : Char
  /-- Whether it was quoted. -/
  quoted : Bool
  deriving DecidableEq, Repr

/-- The characters of a text, quoted or not. -/
def glyphs (quoted : Bool) (text : String) : List Glyph := text.toList.map (⟨·, quoted⟩)

/-- The text of some characters. -/
def textOf (field : List Glyph) : String := String.ofList (field.map (·.char))

/-- Some characters of a bracket. -/
inductive Member where
  /-- Those from one to another. -/
  | range (first last : Char)
  /-- Those of a class. -/
  | named (name : String)
  deriving DecidableEq, Repr

/-- A part of a pattern. -/
inductive Wildcard where
  /-- That character. -/
  | just (c : Char)
  /-- Any character. -/
  | anyChar
  /-- Any text. -/
  | anyText
  /-- A character of a bracket, or any other one. -/
  | bracket (negated : Bool) (members : List Member)
  deriving DecidableEq, Repr

/-- The classes of characters. -/
def characterClasses : List String :=
  ["alnum", "alpha", "blank", "cntrl", "digit", "graph", "lower", "print", "punct", "space",
    "upper", "xdigit"]

/-- Whether a character is in a class. -/
def isInClass (name : String) (c : Char) : Bool :=
  let isGraph := '!' ≤ c && c ≤ '~'
  match name with
  | "alnum" => c.isAlphanum
  | "alpha" => c.isAlpha
  | "blank" => c = ' ' || c = '\t'
  | "cntrl" => c < ' ' || c = '\x7f'
  | "digit" => c.isDigit
  | "graph" => isGraph
  | "lower" => c.isLower
  | "print" => isGraph || c = ' '
  | "punct" => isGraph && !c.isAlphanum
  | "space" => c = ' ' || ('\t' ≤ c && c ≤ '\r')
  | "upper" => c.isUpper
  | "xdigit" => c.isDigit || ('a' ≤ c.toLower && c.toLower ≤ 'f')
  | _ => false

/-- Whether a character is among some. -/
def Member.holds (c : Char) : Member → Bool
  | range first last => first ≤ c && c ≤ last
  | named name => isInClass name c

/-- Whether a character matches a part that stands for one. -/
def Wildcard.holds (c : Char) : Wildcard → Bool
  | just d => c = d
  | anyChar => true
  | anyText => false
  | bracket negated members => members.any (·.holds c) != negated

/-- Splits off the name of a class, given what follows its opening. -/
def splitClass? (cs : List Glyph) : Option (String × List Glyph) :=
  characterClasses.findSome? fun name =>
    let whole := "[:".toList ++ name.toList ++ ":]".toList
    if whole.isPrefixOf (cs.map (·.char)) then some (name, cs.drop whole.length) else none

/-- Splits off the members of a bracket, given what follows its opening, behind those that were
read, which are in reverse. A closing bracket that comes first is a member. -/
def splitBracket : (fuel : Nat) → List Member → List Glyph → Option (List Member × List Glyph)
  | 0, _, _ => none
  | _ + 1, _, [] => none
  | fuel + 1, seen, g :: rest =>
    if g.char = ']' ∧ !g.quoted ∧ !seen.isEmpty then some (seen.reverse, rest)
    else match (if g.quoted then none else splitClass? (g :: rest)) with
      | some (name, rest) => splitBracket fuel (.named name :: seen) rest
      | none =>
        match rest with
        | ⟨'-', false⟩ :: last :: after =>
          if last.char = ']' ∧ !last.quoted then
            splitBracket fuel (.range g.char g.char :: seen) rest
          else splitBracket fuel (.range g.char last.char :: seen) after
        | rest => splitBracket fuel (.range g.char g.char :: seen) rest

/-- The pattern that some characters make. A bracket that is not closed stands for itself. -/
def wildcards : (fuel : Nat) → List Glyph → List Wildcard
  | 0, _ => []
  | _ + 1, [] => []
  | fuel + 1, g :: rest =>
    if g.quoted then .just g.char :: wildcards fuel rest
    else match g.char with
      | '*' => .anyText :: wildcards fuel rest
      | '?' => .anyChar :: wildcards fuel rest
      | '[' =>
        let negated := rest.head?.any fun g => !g.quoted && (g.char = '!' || g.char = '^')
        match splitBracket (rest.length + 1) [] (if negated then rest.drop 1 else rest) with
        | some (members, after) => .bracket negated members :: wildcards fuel after
        | none => .just '[' :: wildcards fuel rest
      | c => .just c :: wildcards fuel rest

/-- The pattern that some characters make. -/
def patternOf (field : List Glyph) : List Wildcard := wildcards (field.length + 1) field

/-- Where any text may end that begins at one of the given places: there and further on. -/
def spreadOn : Bool → List Bool → List Bool
  | _, [] => []
  | begun, here :: later => (begun || here) :: spreadOn (begun || here) later

/-- The places of a text that a part of a pattern leads to from given ones. There is a place before
each character and one at the end. -/
def Wildcard.advance (text : List Char) (reached : List Bool) (part : Wildcard) : List Bool :=
  match part with
  | anyText => spreadOn false reached
  | part => false :: (reached.zip text).map fun (here, c) => here && part.holds c

/-- The places of a text that a pattern leads to from its start. -/
def reachedPlaces (pattern : List Wildcard) (text : List Char) : List Bool :=
  pattern.foldl (Wildcard.advance text) (true :: text.map fun _ => false)

/-- Whether a text matches a pattern as a whole. -/
def matchesWhole (pattern : List Wildcard) (text : List Char) : Bool :=
  (reachedPlaces pattern text).getLast?.getD false

/-- Whether a text matches the pattern that some characters make. -/
def matchesText (pattern : List Glyph) (text : String) : Bool :=
  matchesWhole (patternOf pattern) text.toList

/-- The length of the shortest, or longest, start of a text that matches a pattern. -/
def startLength? (longest : Bool) (pattern : List Wildcard) (text : List Char) : Option Nat :=
  let places := reachedPlaces pattern text
  if longest then (places.reverse.findIdx? (· = true)).map (text.length - ·)
  else places.findIdx? (· = true)

/-- A text without the shortest, or longest, start or end that matches a pattern. -/
def trimMatch (atStart longest : Bool) (pattern : List Glyph) (text : String) : String :=
  let pattern := patternOf pattern
  let cs := text.toList
  if atStart then String.ofList (cs.drop ((startLength? longest pattern cs).getD 0))
  else
    let length := (startLength? longest pattern.reverse cs.reverse).getD 0
    String.ofList (cs.take (cs.length - length))

end ContestJudge.Shell
