import ContestJudge.Shell.Pattern

/-!
# Regular expressions

An expression describes texts. It is looked for place by place: from some places of a text, what
counts is which places can be reached, each only in the way that is preferred. So the effort stays
small, however much is repeated. Among the matches that start first the longest one is found.
-/

namespace ContestJudge.Shell

/-- A regular expression. -/
inductive Regex where
  /-- That text of no characters. -/
  | nothing
  /-- That character. -/
  | just (c : Char)
  /-- Any character. -/
  | anyChar
  /-- A character of a bracket, or any other one. -/
  | bracket (negated : Bool) (members : List Member)
  /-- The start of a line. -/
  | lineStart
  /-- The end of a line. -/
  | lineEnd
  /-- The start of the text. -/
  | textStart
  /-- The end of the text. -/
  | textEnd
  /-- The start of a word. -/
  | wordStart
  /-- The end of a word. -/
  | wordEnd
  /-- The start or the end of a word, or neither. -/
  | wordEdge (negated : Bool)
  /-- A part that is remembered. -/
  | group (number : Nat) (body : Regex)
  /-- The text of a part that was remembered. -/
  | same (number : Nat)
  /-- One after the other. -/
  | both (first second : Regex)
  /-- Either of them. -/
  | either (first second : Regex)
  /-- As often as is allowed. -/
  | repeated (least : Nat) (most : Option Nat) (body : Regex)
  deriving Repr, Inhabited

namespace Regex

/-- How expressions are looked for. -/
structure Search where
  /-- The text. -/
  text : Array Char
  /-- Whether the case of letters does not count. -/
  ignoresCase : Bool := false
  /-- Whether each line is on its own. -/
  byLines : Bool := false
  /-- Whether parts that were remembered are asked for. -/
  remembers : Bool := false

/-- A place of a text and the parts that are remembered there: where each starts and ends. -/
structure Place where
  /-- The number of characters before it. -/
  index : Nat
  /-- The parts by their numbers, latest first. -/
  groups : List (Nat × Nat × Nat) := []
  deriving DecidableEq, Repr

namespace Search

/-- Whether a word character stands at some index. -/
def hasWord (s : Search) (index : Nat) : Bool :=
  s.text[index]?.any fun c => c.isAlphanum || c = '_'

/-- Whether a word character stands before some index. -/
def hasWordBefore (s : Search) (index : Nat) : Bool := 0 < index && s.hasWord (index - 1)

/-- Whether a line ends at some index, and not the text. -/
def hasBreak (s : Search) (index : Nat) : Bool := s.byLines && s.text[index]? = some '\n'

/-- Whether two characters are the same here. -/
def same (s : Search) (c d : Char) : Bool :=
  c = d || (s.ignoresCase && c.toLower = d.toLower)

/-- Whether a character is among some here. -/
def isMember (s : Search) (c : Char) (members : List Member) : Bool :=
  members.any fun m => m.holds c || (s.ignoresCase && (m.holds c.toLower || m.holds c.toUpper))

/-- The place behind a character that has some property. -/
def behind (s : Search) (holds : Char → Bool) (p : Place) : List Place :=
  if s.text[p.index]?.any holds then [{ p with index := p.index + 1 }] else []

/-- Whether two places count as one. -/
def isAlike (s : Search) (p q : Place) : Bool :=
  p.index = q.index && (!s.remembers || p.groups = q.groups)

/-- Places without those that count as one of those before them. -/
def distinct (s : Search) (places : List Place) : List Place :=
  (places.foldl (fun seen p => if seen.any (s.isAlike p) then seen else p :: seen) []).reverse

/-- All places that can be reached from some by repeating a step. Those that take more steps come
first. A place that has been left is marked; it comes behind those that were reached from it. -/
def spread (s : Search) (next : Place → List Place) :
    (fuel : Nat) → (pending : List (Place × Bool)) → (seen found : List Place) → List Place
  | 0, _, _, found => found.reverse
  | _ + 1, [], _, found => found.reverse
  | fuel + 1, (p, true) :: pending, seen, found => spread s next fuel pending seen (p :: found)
  | fuel + 1, (p, false) :: pending, seen, found =>
    if seen.any (s.isAlike p) then spread s next fuel pending seen found
    else spread s next fuel ((next p).map (·, false) ++ (p, true) :: pending) (p :: seen) found

/-- The steps that spreading takes at most. -/
def spreadLimit (s : Search) : Nat := (s.text.size + 2) * (s.text.size + 4)

end Search

/-- Repeats a step on places some number of times. -/
def iterate (step : List Place → List Place) : Nat → List Place → List Place
  | 0, places => places
  | n + 1, places => if places.isEmpty then [] else iterate step n (step places)

/-- Repeats a step on places up to some number of times; more often is preferred. -/
def iterateUpTo (s : Search) (step : List Place → List Place) : Nat → List Place → List Place
  | 0, places => places
  | n + 1, places =>
    let later := (step places).filter fun p => !places.any (s.isAlike p)
    if later.isEmpty then places else iterateUpTo s step n later ++ places

/-- The places that can be reached from some through an expression, in order of preference. -/
def reached (s : Search) : Regex → List Place → List Place
  | nothing, places => places
  | just c, places => places.flatMap (s.behind (s.same c))
  | anyChar, places => places.flatMap (s.behind fun c => !s.byLines || c ≠ '\n')
  | bracket negated members, places =>
    places.flatMap (s.behind fun c =>
      s.isMember c members != negated && !(negated && s.byLines && c = '\n'))
  | lineStart, places =>
    places.filter fun p => p.index = 0 || s.hasBreak (p.index - 1)
  | lineEnd, places => places.filter fun p => p.index = s.text.size || s.hasBreak p.index
  | textStart, places => places.filter (·.index = 0)
  | textEnd, places => places.filter (·.index = s.text.size)
  | wordStart, places =>
    places.filter fun p => !s.hasWordBefore p.index && s.hasWord p.index
  | wordEnd, places => places.filter fun p => s.hasWordBefore p.index && !s.hasWord p.index
  | wordEdge negated, places =>
    places.filter fun p => (s.hasWordBefore p.index != s.hasWord p.index) != negated
  | group number body, places =>
    s.distinct (places.flatMap fun p => (reached s body [p]).map fun q =>
      { q with groups := (number, p.index, q.index) :: q.groups.filter (·.1 ≠ number) })
  | same number, places =>
    s.distinct (places.flatMap fun p =>
      match p.groups.lookup number with
      | none => []
      | some (first, last) =>
        let size := last - first
        let isSame := (List.range size).all fun i =>
          match s.text[first + i]?, s.text[p.index + i]? with
          | some c, some d => s.same c d
          | _, _ => false
        if isSame then [{ p with index := p.index + size }] else [])
  | both first second, places => reached s second (reached s first places)
  | either first second, places =>
    s.distinct (places.flatMap fun p => reached s first [p] ++ reached s second [p])
  | repeated least most body, places =>
    let step := fun places => s.distinct (reached s body places)
    let start := iterate step least places
    match most with
    | some most => s.distinct (iterateUpTo s step (most - least) start)
    | none => s.spread (fun p => reached s body [p]) s.spreadLimit (start.map (·, false)) [] []

/-- What was found: where it ends, and the parts that are remembered. -/
structure Match where
  /-- Where it starts. -/
  first : Nat
  /-- Where it ends. -/
  last : Nat
  /-- The parts by their numbers: where each starts and ends. -/
  groups : List (Nat × Nat × Nat)
  deriving Repr

/-- The longest match that starts at some index and that is wanted. -/
def matchAt? (r : Regex) (s : Search) (isWanted : Nat → Nat → Bool) (index : Nat) :
    Option Match :=
  let ends := (reached s r [{ index }]).filter fun p => isWanted index p.index
  let longest := ends.foldl (fun best p =>
    match best with
    | some (q : Place) => if q.index < p.index then some p else some q
    | none => some p) none
  longest.map fun p => ⟨index, p.index, p.groups⟩

/-- The first match that starts at some index or further on and that is wanted, and the longest one
of those. -/
def find? (r : Regex) (s : Search) (start : Nat) (isWanted : Nat → Nat → Bool := fun _ _ => true) :
    Option Match :=
  (List.range (s.text.size + 1 - start)).findSome? fun i => r.matchAt? s isWanted (start + i)

/-- The text of a part that was remembered; a part that had no share in the match is empty. -/
def Match.part (m : Match) (s : Search) (number : Nat) : List Char :=
  let (first, last) := if number = 0 then (m.first, m.last) else (m.groups.lookup number).getD (0, 0)
  (s.text.extract first last).toList

end Regex

end ContestJudge.Shell
