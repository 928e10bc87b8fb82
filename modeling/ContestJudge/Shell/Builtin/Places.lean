import ContestJudge.Shell.Parameter

/-!
# Commands for places

The commands of a shell that go to a directory and tell where it is. A shell knows the path by which
it came; the directory above is the one of that path, whatever links are on it.
-/

namespace ContestJudge.Shell.Step

open Text

/-- A path without empty parts, dots, and parts that the next one leaves again. -/
def shortenRoute (path : String) : String :=
  let start := if path.startsWith "//" ∧ !path.startsWith "///" then "//" else "/"
  let parts := (path.splitOn "/").foldl (fun seen part =>
    if part = "" ∨ part = "." then seen else if part = ".." then seen.tail else part :: seen) []
  start ++ "/".intercalate parts.reverse

/-- The path of the directory where a shell is, without links. -/
def physicalRoute (s : State) : String := Octets.ofText (FileTree.pathOf s.directory).text

/-- Whether links are to be followed first, by the last of the options that say so. -/
def wantsPhysical (flags : List (Char × String)) : Bool := flags.getLast?.any (·.1 = 'P')

/-- The options that say how links count. -/
def linkOptions : List (Char × Bool) := [('L', false), ('P', false)]

/-- Goes to the directory that a path means, and says whether there is one. -/
def goTo (physical : Bool) (path : String) : Step Bool := do
  let s ← get
  let route := if path.startsWith "/" then path else s.route ++ "/" ++ path
  let route? := if physical then none else some (shortenRoute route)
  match s.tree.find ⟨Octets.toText (route?.getD path)⟩ with
  | .ok (place, .directory) =>
    let arrived := { s with directory := place }
    declareExported "OLDPWD" s.route
    modify fun s => { s with
      directory := place
      route := route?.getD (physicalRoute arrived) }
    declareExported State.routeName (← get).route
    return true
  | _ => return false
where
  /-- Gives a variable that programs see a value. -/
  declareExported (name value : String) : Step Unit := do
    assign name value
    modify fun s =>
      s.bind name (some { (s.bindings.get? name).getD {} with isExported := true })

/-- Goes to a directory: the one that is named, also below some others, the home directory, or the
one before. -/
def changeDirectory (arguments : List String) : Step Unit := do
  let (flags, operands) ← takeOptions linkOptions arguments
  let s ← get
  setStatus 0
  let back := operands.head? = some "-"
  let target := match operands with
    | [] => (s.valueOf "HOME").getD ""
    | "-" :: _ => (s.valueOf "OLDPWD").getD ""
    | path :: _ => path
  let isRelative := !(target.startsWith "/"
    || [".", ".."].any fun dots => target = dots || target.startsWith (dots ++ "/"))
  let target := if target = "" then "." else target
  let isDirectory := fun path => (s.entry? path).toOption = some .directory
  let found? := if isRelative then (State.candidates ((s.valueOf "CDPATH").getD "") target).find?
    isDirectory else none
  let path := found?.getD target
  if !(← goTo (wantsPhysical flags) path) then fail s!"can't cd to {target}"
  if back ∨ path ≠ target then write 1 ((← get).route ++ "\n")

/-- Tells where the shell is. -/
def tellDirectory (arguments : List String) : Step Unit := do
  let (flags, _) ← takeOptions linkOptions arguments
  setStatus 0
  let s ← get
  write 1 ((if wantsPhysical flags then physicalRoute s else s.route) ++ "\n")

end ContestJudge.Shell.Step
