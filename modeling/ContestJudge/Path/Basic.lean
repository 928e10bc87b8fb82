/-!
# Paths

A path keeps the text it was written with, because messages repeat it. Its `components` are what the
text names: the root, the names, and the steps `.` and `..`. Empty parts mean nothing, and neither
does a `.` that is not the very first part of a relative path.
-/

namespace ContestJudge

/-- A path as it was written. -/
structure Path where
  /-- Its text. -/
  text : String
  deriving DecidableEq, Repr, Inhabited

namespace Path

/-- One step of a path. -/
inductive Component where
  /-- The root directory, at the start of an absolute path. -/
  | root
  /-- The directory itself, at the start of a relative path. -/
  | current
  /-- The directory above. -/
  | parent
  /-- An entry. -/
  | name (name : String)
  deriving DecidableEq, Repr

/-- Splits characters at slashes; there is always at least one part. -/
def splitParts : List Char → List (List Char)
  | [] => [[]]
  | c :: rest =>
    if c = '/' then [] :: splitParts rest
    else match splitParts rest with
      | [] => [[c]]
      | part :: parts => (c :: part) :: parts

/-- What a part after the first one names, if anything. -/
def componentOfPart (part : List Char) : Option Component :=
  if part = [] ∨ part = ['.'] then none
  else if part = ['.', '.'] then some .parent
  else some (.name (String.ofList part))

/-- Whether a path starts at the root. -/
def isAbsolute (p : Path) : Bool := p.text.toList.head? = some '/'

/-- What a path names, step by step. -/
def components (p : Path) : List Component :=
  match splitParts p.text.toList with
  | [] => []
  | first :: rest =>
    let start :=
      if p.isAbsolute then [.root]
      else if first = ['.'] then [.current]
      else (componentOfPart first).toList
    start ++ rest.filterMap componentOfPart

/-- How a step is written. -/
def Component.text : Component → String
  | .root => "/"
  | .current => "."
  | .parent => ".."
  | .name entry => entry

/-- `child` seen from `base`: an absolute child stands for itself, and joining nothing leaves a
slash at the end. -/
def join (base child : Path) : Path :=
  if child.isAbsolute then child
  else if base.text = "" ∨ base.text.toList.getLast? = some '/' then ⟨base.text ++ child.text⟩
  else ⟨base.text ++ "/" ++ child.text⟩

/-- The path of some steps, one joined to the other. -/
def ofComponents (steps : List Component) : Path :=
  steps.foldl (fun p step => p.join ⟨step.text⟩) ⟨""⟩

/-- The last name, when the path ends in one. -/
def fileName? (p : Path) : Option String :=
  match p.components.getLast? with
  | some (.name entry) => some entry
  | _ => none

/-- Whether a part other than the first carries no meaning. -/
def isIdle (part : List Char) : Bool := part = [] || part = ['.']

/-- Removes the parts at the end that carry no meaning, given the parts after the first in reverse.
-/
def dropIdle (reversed : List (List Char)) : List (List Char) := reversed.dropWhile isIdle

/-- Writes parts with slashes between them. -/
def writeParts (parts : List (List Char)) : String :=
  "/".intercalate (parts.map String.ofList)

/-- The path without its last step. The root and the empty path have none. -/
def parent? (p : Path) : Option Path :=
  match splitParts p.text.toList with
  | [] => none
  | first :: rest =>
    match dropIdle rest.reverse with
    | [] => if p.isAbsolute ∨ first = [] then none else some ⟨""⟩
    | _ :: reversed =>
      match dropIdle reversed with
      | [] => some (if p.isAbsolute then ⟨"/"⟩ else ⟨String.ofList first⟩)
      | kept => some ⟨writeParts (first :: kept.reverse)⟩

/-- The path and everything above it, nearest first. Each step removes at least one character. -/
def ancestorsWithin (fuel : Nat) (p : Path) : List Path :=
  match fuel with
  | 0 => []
  | fuel + 1 => p :: ((p.parent?.map (ancestorsWithin fuel)).getD [])

/-- The path and everything above it, nearest first. -/
def ancestors (p : Path) : List Path := ancestorsWithin (p.text.length + 1) p

/-- Removes parts up to and with the `count`-th that carries meaning. -/
def dropSteps : (count : Nat) → List (List Char) → List (List Char)
  | 0, parts => parts
  | _ + 1, [] => []
  | count + 1, part :: parts =>
    if isIdle part then dropSteps (count + 1) parts else dropSteps count parts

/-- The part of a path below `base`, as it was written, when it lies there. -/
def below? (p base : Path) : Option Path :=
  let start := base.components
  if !start.isPrefixOf p.components then none
  else
    let parts := splitParts p.text.toList
    let parts := match start.length with
      | 0 => parts
      | count + 1 => dropSteps count (parts.drop 1)
    some ⟨writeParts (dropIdle (dropIdle parts).reverse).reverse⟩

end Path

end ContestJudge

namespace ContestJudge.Path

/-!
### Normal forms of paths

`normal` removes `.` steps and lets each `..` cancel the name before it. A `..` that finds no name
stays. `within?` uses the normal form to keep a path inside a base directory.
-/

/-- Adds a step to the steps so far, which are in reverse. -/
def pushStep (reversed : List Component) (step : Component) : List Component :=
  match step, reversed with
  | .current, _ => reversed
  | .parent, .name _ :: rest => rest
  | step, _ => step :: reversed

/-- The steps that remain after cancelling; `.` when none do. -/
def normalSteps (p : Path) : List Component :=
  match (p.components.foldl pushStep []).reverse with
  | [] => [.current]
  | steps => steps

/-- The normal form of a path. -/
def normal (p : Path) : Path := ofComponents p.normalSteps

/-- Whether a step is a name. -/
def Component.isName : Component → Bool
  | .name _ => true
  | _ => false

/-- The normal form of `child` below `base`. Only a path that consists of names alone once it is
normal stays below; `none` stands for a path that does not. -/
def within? (base child : Path) : Option Path :=
  if child.normal.components.all Component.isName then some (base.join child.normal) else none

end ContestJudge.Path
