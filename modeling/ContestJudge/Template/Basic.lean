/-!
# Templates

What the two template languages share: the values a template may name, and the ways one can be
wrong. Positions count characters from zero; messages count from one.
-/

namespace ContestJudge.Template

/-- The text of each defined name. -/
abbrev Variables := String → Option String

/-- The variables of a list of names with their texts; the first entry of a name counts. -/
def Variables.ofList (entries : List (String × String)) : Variables :=
  fun name => entries.lookup name

/-- What is wrong with a template. -/
inductive Fault where
  /-- A name without a value; the position is that of its first character. -/
  | undefinedVariable (name : String) (position : Nat)
  /-- An opening brace that is never closed. -/
  | unclosedBrace (position : Nat)
  /-- A closing brace that closes nothing. -/
  | unmatchedBrace (position : Nat)
  deriving DecidableEq, Repr

/-- The wording of a fault. -/
def Fault.message : Fault → String
  | .undefinedVariable name position => s!"Undefined variable '{name}' at {position + 1}"
  | .unclosedBrace position => s!"Unclosed brace (found open brace at {position + 1})"
  | .unmatchedBrace position => s!"Single '\x7d' encountered at {position + 1}"

/-!
### Braced templates

Argument templates write a variable as `{name}`. Doubled braces stand for one literal brace; a name
runs to the next closing brace, so it may hold an opening brace but not start with one.
-/

/-- Where the walk stands. -/
inductive BracedState where
  /-- In literal text. -/
  | literal
  /-- Inside the brace that opened at `opened`, with the name so far in reverse. -/
  | name (opened : Nat) (reversed : List Char)

/-- Expands the characters from position `pos` on. -/
def expandBracedFrom (vars : Variables) (pos : Nat) :
    BracedState → List Char → Except Fault (List Char)
  | .literal, [] => .ok []
  | .name opened _, [] => .error (.unclosedBrace opened)
  | .literal, '\x7b' :: '\x7b' :: rest => do
    return '\x7b' :: (← expandBracedFrom vars (pos + 2) .literal rest)
  | .literal, '\x7b' :: rest => expandBracedFrom vars (pos + 1) (.name pos []) rest
  | .literal, '\x7d' :: '\x7d' :: rest => do
    return '\x7d' :: (← expandBracedFrom vars (pos + 2) .literal rest)
  | .literal, c :: rest =>
    if c = '\x7d' then .error (.unmatchedBrace pos)
    else do return c :: (← expandBracedFrom vars (pos + 1) .literal rest)
  | .name opened reversed, c :: rest =>
    if c = '\x7d' then
      let name := String.ofList reversed.reverse
      match vars name with
      | none => .error (.undefinedVariable name (opened + 1))
      | some value => do
        return value.toList ++ (← expandBracedFrom vars (pos + 1) .literal rest)
    else expandBracedFrom vars (pos + 1) (.name opened (c :: reversed)) rest

/-- Expands a template whose variables are written `{name}`. -/
def expandBraced (template : String) (vars : Variables) : Except Fault String :=
  (expandBracedFrom vars 0 .literal template.toList).map String.ofList

/-!
### Marked templates

Command lines mark a variable as `#{name}`, so that bare braces stay literal for the shell. `##` is
a literal `#`, and a `#` before anything else stands for itself. Expansion walks the template once,
character by character; values are inserted as they are and never read again.
-/

/-- Where the walk stands. -/
inductive MarkedState where
  /-- In literal text. -/
  | literal
  /-- Just after a `#` whose meaning the next character decides. -/
  | mark
  /-- Inside the braces that opened at `opened`, with the name so far in reverse. -/
  | name (opened : Nat) (reversed : List Char)

/-- Expands the characters from position `pos` on. -/
def expandMarkedFrom (vars : Variables) (pos : Nat) :
    MarkedState → List Char → Except Fault (List Char)
  | .literal, [] => .ok []
  | .mark, [] => .ok ['#']
  | .name opened _, [] => .error (.unclosedBrace opened)
  | .literal, c :: rest =>
    if c = '#' then expandMarkedFrom vars (pos + 1) .mark rest
    else do return c :: (← expandMarkedFrom vars (pos + 1) .literal rest)
  | .mark, c :: rest =>
    if c = '#' then do return '#' :: (← expandMarkedFrom vars (pos + 1) .literal rest)
    else if c = '\x7b' then expandMarkedFrom vars (pos + 1) (.name pos []) rest
    else do return '#' :: c :: (← expandMarkedFrom vars (pos + 1) .literal rest)
  | .name opened reversed, c :: rest =>
    if c = '\x7d' then
      let name := String.ofList reversed.reverse
      match vars name with
      | none => .error (.undefinedVariable name (opened + 1))
      | some value => do
        return value.toList ++ (← expandMarkedFrom vars (pos + 1) .literal rest)
    else expandMarkedFrom vars (pos + 1) (.name opened (c :: reversed)) rest

/-- Expands a template whose variables are written `#{name}`. -/
def expandMarked (template : String) (vars : Variables) : Except Fault String :=
  (expandMarkedFrom vars 0 .literal template.toList).map String.ofList

end ContestJudge.Template
