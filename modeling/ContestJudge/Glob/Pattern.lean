/-!
# Glob patterns

In a pattern `?` stands for any character, `*` for any text, `[…]` for one of some characters,
`[!…]` for any other one, and `**` as a whole component for any number of components. A pattern is
compared with a whole text; `*` and `?` match slashes too, because a walk compares name by name.
-/

namespace ContestJudge.Glob

/-- The characters from `first` to `last`. -/
structure CharRange where
  first : Char
  last : Char
  deriving DecidableEq, Repr

/-- Whether a character is in one of some ranges. -/
def inRanges (ranges : List CharRange) (c : Char) : Bool :=
  ranges.any fun r => r.first ≤ c && c ≤ r.last

/-- A part of a pattern. -/
inductive Token where
  /-- That character. -/
  | literal (c : Char)
  /-- Any character. -/
  | anyChar
  /-- Any text. -/
  | anyText
  /-- Any number of components, each with its slash. -/
  | anyComponents
  /-- A character of a class. -/
  | within (ranges : List CharRange)
  /-- A character outside a class. -/
  | outside (ranges : List CharRange)
  deriving DecidableEq, Repr

/-- A pattern with the text it was written as. -/
structure Pattern where
  /-- The text. -/
  text : String
  /-- What it means. -/
  tokens : List Token
  deriving DecidableEq, Repr, Inhabited

/-- What is wrong with a pattern; positions count characters from zero. -/
inductive PatternFault where
  /-- Three stars or more. -/
  | tooManyStars (position : Nat)
  /-- Two stars that are not a whole component. -/
  | partialComponent (position : Nat)
  /-- A class that does not end, or has no characters. -/
  | openClass (position : Nat)
  deriving DecidableEq, Repr

/-- The wording of a pattern fault. -/
def PatternFault.message : PatternFault → String
  | tooManyStars position =>
    s!"Pattern syntax error near position {position}: "
      ++ "wildcards are either regular \x60*\x60 or recursive \x60**\x60"
  | partialComponent position =>
    s!"Pattern syntax error near position {position}: "
      ++ "recursive wildcards must form a single path component"
  | openClass position => s!"Pattern syntax error near position {position}: invalid range pattern"

/-- The ranges that a class lists. A hyphen between two characters makes a range. -/
def classRanges : List Char → List CharRange
  | first :: '-' :: last :: rest => ⟨first, last⟩ :: classRanges rest
  | c :: rest => ⟨c, c⟩ :: classRanges rest
  | [] => []

/-- Splits off the characters of a class, given what follows its opening. The first character always
belongs to the class, even if it is a closing bracket. -/
def splitClass : List Char → Option (List Char × List Char)
  | [] => none
  | first :: rest =>
    match rest.dropWhile (· ≠ ']') with
    | [] => none
    | _ :: after => some (first :: rest.takeWhile (· ≠ ']'), after)

theorem length_of_splitClass {cs inner after : List Char}
    (h : splitClass cs = some (inner, after)) :
    after.length < cs.length := by
  cases cs with
  | nil => simp [splitClass] at h
  | cons first rest =>
    rw [splitClass] at h
    split at h
    · simp at h
    · next c tail heq =>
      simp only [Option.some.injEq, Prod.mk.injEq] at h
      have := (List.dropWhile_sublist (l := rest) (· ≠ ']')).length_le
      rw [heq] at this
      simp only [List.length_cons] at this ⊢
      rw [← h.2]
      omega

/-- Two starred components in a row mean the same as one. -/
def pushComponents (seen : List Token) : List Token :=
  match seen with
  | .anyComponents :: _ :: _ => seen
  | _ => .anyComponents :: seen

/-- Reads the rest of a pattern, given its position, the character before it, and the tokens so far
in reverse. -/
def readTokens (position : Nat) (before : Option Char) (seen : List Token) (cs : List Char) :
    Except PatternFault (List Token) :=
  match cs with
  | [] => .ok seen.reverse
  | '?' :: rest => readTokens (position + 1) (some '?') (.anyChar :: seen) rest
  | '*' :: '*' :: '*' :: _ => .error (.tooManyStars (position + 2))
  | '*' :: '*' :: rest =>
    if before = none ∨ before = some '/' then
      match rest with
      | [] => .ok (pushComponents seen).reverse
      | '/' :: rest => readTokens (position + 3) (some '/') (pushComponents seen) rest
      | _ => .error (.partialComponent (position + 2))
    else .error (.partialComponent (position - 1))
  | '*' :: rest => readTokens (position + 1) (some '*') (.anyText :: seen) rest
  | '[' :: '!' :: rest =>
    match h : splitClass rest with
    | some (inner, after) =>
      have := length_of_splitClass h
      readTokens (position + inner.length + 3) (some ']')
        (.outside (classRanges inner) :: seen) after
    | none => .error (.openClass position)
  | '[' :: rest =>
    match h : splitClass rest with
    | some (inner, after) =>
      have := length_of_splitClass h
      readTokens (position + inner.length + 2) (some ']')
        (.within (classRanges inner) :: seen) after
    | none => .error (.openClass position)
  | c :: rest => readTokens (position + 1) (some c) (.literal c :: seen) rest
termination_by cs.length
decreasing_by all_goals simp_wf; try omega

/-- The character of a literal token. -/
def Token.literal? : Token → Option Char
  | literal c => some c
  | _ => none

namespace Pattern

/-- Reads a pattern. -/
def parse (text : String) : Except PatternFault Pattern :=
  (readTokens 0 none [] text.toList).map (⟨text, ·⟩)

/-- Whether the pattern stands for any number of components. -/
def isRecursive (p : Pattern) : Bool := p.tokens.contains .anyComponents

/-- The one text that a pattern without wildcards matches. -/
def literal? (p : Pattern) : Option String :=
  (p.tokens.mapM Token.literal?).map String.ofList

end Pattern

/-- Whether one character matches a token that stands for one. -/
def Token.matchesChar (token : Token) (c : Char) : Bool :=
  match token with
  | .literal d => c = d
  | .anyChar => true
  | .within ranges => inRanges ranges c
  | .outside ranges => !inRanges ranges c
  | .anyText => false
  | .anyComponents => false

/-- Where any text may end that begins at one of the given places of a text: there and further on.
-/
def spreadText : Bool → List Bool → List Bool
  | _, [] => []
  | begun, here :: later => (begun || here) :: spreadText (begun || here) later

/-- Where any number of components may end that begin at one of the given places: there, after each
later slash, and at the end of the text, since the name there needs no slash. `begun` tells of a
beginning before, and `slash` of a slash right before. -/
def spreadComponents (begun slash : Bool) : List Char → List Bool → List Bool
  | [], [here] => [here || begun]
  | c :: cs, here :: later =>
    (here || begun && slash) :: spreadComponents (begun || here) (c = '/') cs later
  | _, _ => []

/-- The places of a text that a pattern can reach by one more token, given those that it can reach
so far. There is a place before each character and one at the end. -/
def Token.advance (text : List Char) (reached : List Bool) (token : Token) : List Bool :=
  match token with
  | .anyText => spreadText false reached
  | .anyComponents => spreadComponents false false text reached
  | token => false :: (reached.zip text).map fun (here, c) => here && token.matchesChar c

/-- Whether a text matches tokens: whether they lead from its beginning to its end. -/
def matchTokens (tokens : List Token) (text : List Char) : Bool :=
  (tokens.foldl (Token.advance text) (true :: text.map fun _ => false)).getLast?.getD false

/-- Whether a text matches a pattern. -/
def Pattern.matchesText (p : Pattern) (text : String) : Bool := matchTokens p.tokens text.toList

end ContestJudge.Glob
