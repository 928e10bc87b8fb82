import ContestJudge.Shell.Builtin.Variables
import ContestJudge.Shell.Reader

/-!
# Commands for names

The commands of a shell that tell what a name means, and that give names to texts.
-/

namespace ContestJudge.Shell

/-- What the name of a command means. -/
inductive Meaning where
  /-- A word of the language. -/
  | reserved
  /-- A text that stands for it. -/
  | alias (text : String)
  /-- A command that was defined. -/
  | function
  /-- A command of the shell. -/
  | builtin (isSpecial : Bool)
  /-- A program; one that was looked for before is tracked. -/
  | program (path : String) (isTracked : Bool)
  deriving DecidableEq, Repr

/-- What the name of a command means, given the commands of the shell, which may be special. -/
def Meaning.of? (builtin? : String → Option Bool) (s : State) (directories? : Option String)
    (name : String) : Option Meaning :=
  if reservedWords.contains name then some .reserved
  else match s.aliases.get? name with
    | some text => some (.alias text)
    | none =>
      let usual := directories?.isNone
      if usual ∧ (s.functions.get? name).isSome then some .function
      else match builtin? name with
        | some isSpecial => some (.builtin isSpecial)
        | none =>
          match s.locateIn (directories?.getD s.searchPath) name with
          | .ok path =>
            if name.contains '/' ∧ !(s.entry? path).toBool then none
            else some (.program path (usual && s.found.contains name))
          | .error _ => none

namespace Step

/-- An order of names that has nothing to do with their letters; names that it does not tell apart
keep theirs. -/
def bucketOf (size : Nat) (name : String) : Nat :=
  let first := ((name.toList.head?).map Char.toNat).getD 0
  name.toList.foldl (fun n c => n + c.toNat) (first * 16) % size

/-- Sorts names into buckets. -/
def inBuckets {α : Type} (size : Nat) (name : α → String) (values : List α) : List α :=
  values.mergeSort fun a b => bucketOf size (name a) ≤ bucketOf size (name b)

/-- An alias as a command that sets it. -/
def aliasText (name text : String) : String := s!"{name}={singleQuote text}\n"

/-- Remembers that a program was found. -/
def remember (name : String) : Step Unit := modify fun s =>
  if name.contains '/' ∨ s.found.contains name then s else { s with found := s.found ++ [name] }

/-- Tells what a name means, in words or just so that it can be used, and says whether it means
anything. -/
def describe (builtin? : String → Option Bool) (inWords : Bool) (directories? : Option String)
    (name : String) : Step Bool := do
  let meaning? := Meaning.of? builtin? (← get) directories? name
  let said := match meaning?, inWords with
    | none, true => s!"{name}: not found\n"
    | none, false => ""
    | some .reserved, true => s!"{name} is a shell keyword\n"
    | some (.alias text), true => s!"{name} is an alias for {text}\n"
    | some (.alias text), false => "alias " ++ aliasText name text
    | some .function, true => s!"{name} is a shell function\n"
    | some (.builtin true), true => s!"{name} is a special shell builtin\n"
    | some (.builtin false), true => s!"{name} is a shell builtin\n"
    | some (.program path true), true => s!"{name} is a tracked alias for {path}\n"
    | some (.program path false), true => s!"{name} is {path}\n"
    | some (.program path _), false => path ++ "\n"
    | some _, false => name ++ "\n"
  write 1 said
  if let some (.program _ _) := meaning? then
    if directories?.isNone then remember name
  return meaning?.isSome

/-- Tells what names mean. -/
def describeAll (builtin? : String → Option Bool) (names : List String) : Step Unit := do
  setStatus 0
  names.forM fun name => do
    if !(← describe builtin? true none name) then setStatus 127

/-- Gives texts names, or tells which text has a name. -/
def setAliases (arguments : List String) : Step Unit := do
  setStatus 0
  if arguments = [] then
    let aliases := inBuckets 39 (fun (entry : String × String) => entry.1) (← get).aliases.toList
    write 1 (String.join (aliases.map fun (name, text) => aliasText name text))
  else
    arguments.forM fun argument => do
      match argument.toList with
      | [] => complainOf argument
      | first :: rest =>
        match rest.span (· ≠ '='), (← get).aliases.get? argument with
        | (name, _ :: text), _ =>
          let name := String.ofList (first :: name)
          modify fun s => { s with aliases := s.aliases.insert name (String.ofList text) }
        | (_, []), some text => write 1 (aliasText argument text)
        | (_, []), none => complainOf argument
where
  /-- Says that a name has no text. -/
  complainOf (name : String) : Step Unit := do
    write 2 s!"alias: {name} not found\n"
    setStatus 1

/-- Takes names away from texts. -/
def unsetAliases (arguments : List String) : Step Unit := do
  let (flags, names) ← takeOptions [('a', false)] arguments
  setStatus 0
  if flags ≠ [] then modify fun s => { s with aliases := .empty }
  else
    names.forM fun name => do
      let s ← get
      if (s.aliases.get? name).isSome then
        set { s with aliases := .ofList (s.aliases.toList.filter (·.1 ≠ name)) }
      else
        write 2 s!"unalias: {name} not found\n"
        setStatus 1

/-- Remembers where programs are, forgets it, or shows it. -/
def rehash (builtin? : String → Option Bool) (arguments : List String) : Step Unit := do
  let (flags, names) ← takeOptions [('r', false)] arguments
  setStatus 0
  let s ← get
  if flags ≠ [] then set { s with found := [] }
  else if names = [] then
    write 1 (String.join ((inBuckets 31 id s.found).filterMap fun name =>
      (s.locate name).toOption.map (· ++ "\n")))
  else
    names.forM fun name => do
      let s ← get
      if (s.functions.get? name).isNone ∧ (builtin? name).isNone then
        match s.locate name with
        | .ok _ => remember name
        | .error fault =>
          complain (name ++ ": " ++ faultTextOr "not found" fault)
          setStatus 1

end Step

end ContestJudge.Shell
