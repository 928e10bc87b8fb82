import ContestJudge.Shell.Builtin.Table

/-!
# Expanding words

What the parts of a word give, as far as nothing has to be run for it: texts, home directories and
the values of parameters.
-/

namespace ContestJudge.Shell

open Text

/-- How a part of a word is expanded. -/
structure Expanding where
  /-- Whether values become fields. -/
  splits : Bool
  /-- Whether the part is in double quotes. -/
  quoted : Bool := false
  /-- Whether the part is the word of a parameter, where texts are split as well. -/
  isSubstitute : Bool := false

/-- Where a tilde stands for a home directory. -/
inductive Tildes where
  | never
  /-- At the start. -/
  | atStart
  /-- At the start and behind colons. -/
  | inPaths
  deriving DecidableEq, Repr

namespace Expanding

/-- What a value gives. -/
def value (e : Expanding) (text : String) : List Fragment :=
  [if e.quoted then .fixed true text else if e.splits then .loose [text] else .fixed false text]

/-- What a text of the word itself gives. -/
def literal (e : Expanding) (text : String) : List Fragment :=
  [if e.quoted then .fixed true text
    else if e.splits ∧ e.isSubstitute then .loose [text]
    else .fixed false text]

/-- Whether arguments stay apart as a parameter stands for all of them. -/
def keepsApart (e : Expanding) (name : String) : Bool :=
  e.splits && (!e.quoted || name = eachName)

/-- What all arguments give. -/
def arguments (e : Expanding) (s : State) (name : String) : List Fragment :=
  if !e.keepsApart name then [.fixed e.quoted s.joinedArguments]
  else if e.quoted then [.list s.arguments]
  else [.loose s.arguments]

end Expanding

/-- The home directory of a user, or of whoever runs the shell. -/
def homeOf (s : State) (user : String) : Option String :=
  if user = "" then s.valueOf "HOME"
  else
    let table := (s.files.readRaw ⟨"/etc/passwd"⟩).toOption.getD []
    ((Octets.ofBytes table).splitOn "\n").findSome? fun line =>
      match line.splitOn ":" with
      | name :: _ :: _ :: _ :: _ :: home :: _ => if name = user then some home else none
      | _ => none

/-- What a text gives where tildes may stand for home directories; the flags tell whether it is at a
start, and whether it is the end of its word. -/
def tildeFragments (s : State) (e : Expanding) (inPaths isLast : Bool) :
    (fuel : Nat) → (atStart : Bool) → List Char → List Fragment
  | 0, _, cs => e.literal (String.ofList cs)
  | _ + 1, _, [] => []
  | fuel + 1, true, '~' :: rest =>
    let (user, after) := rest.span fun c => c ≠ '/' && !(inPaths && c = ':')
    let home? := if after = [] ∧ !isLast then none else homeOf s (String.ofList user)
    (match home? with
      | some home => [.fixed true home]
      | none => e.literal (String.ofList ('~' :: user)))
      ++ tildeFragments s e inPaths isLast fuel false after
  | fuel + 1, _, cs =>
    let (plain, rest) := if inPaths then cs.span (· ≠ ':') else (cs, [])
    match rest with
    | ':' :: after =>
      e.literal (String.ofList (plain ++ [':'])) ++ tildeFragments s e inPaths isLast fuel true after
    | _ => e.literal (String.ofList plain)

/-- What a text of a word gives, given its place among the parts of the word. -/
def literalFragments (s : State) (e : Expanding) (tildes : Tildes) (index count : Nat)
    (text : String) : List Fragment :=
  if e.quoted ∨ tildes = .never ∨ (tildes = .atStart ∧ index ≠ 0) then e.literal text
  else
    tildeFragments s e (tildes = .inPaths) (index + 1 = count) (text.length + 1) (index = 0)
      text.toList

namespace State

/-- Whether a parameter has a value that counts. -/
def isGiven (s : State) (e : Expanding) (name : String) (emptyToo : Bool) : Bool :=
  if isAll name then
    !emptyToo || 0 < s.argumentsLength (e.keepsApart name || s.joiner ≠ "")
  else
    let value := s.parameter? name
    value.isSome && !(emptyToo && value = some "")

/-- The value of a parameter as one text. -/
def textOf? (s : State) (name : String) : Option String :=
  if isAll name then some s.joinedArguments else s.parameter? name

/-- The number of octets of the value of a parameter. -/
def lengthOf (s : State) (e : Expanding) (name : String) : Nat :=
  if isAll name then s.argumentsLength (e.keepsApart name || s.joiner ≠ "")
  else ((s.parameter? name).getD "").length

end State

/-- The output of a script as a value: without line ends at its end. -/
def outputValue (text : String) : String :=
  let cs := text.toList.filter (· ≠ '\x00')
  String.ofList (cs.reverse.dropWhile (· = '\n')).reverse

end ContestJudge.Shell
