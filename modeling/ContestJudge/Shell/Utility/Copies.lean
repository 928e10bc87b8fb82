import ContestJudge.Shell.Utility.Files

/-!
# Copies

The utilities that copy files and move them, and that give them other names.
-/

namespace ContestJudge.Shell.Utility

open Text

/-- The place where a path leads, or would. -/
def placeFor (files : FileTree) (path : String) : Except IoFault Place := do
  match ← files.resolve true (pathOf path) with
  | .existing place _ => return place
  | .missing directory name slash =>
    if slash then throw .notDirectory else return directory ++ [name]

/-- The place of what a path names, or would name. -/
def placeOfName (files : FileTree) (path : String) : Except IoFault Place := do
  match ← files.resolve false (pathOf path) with
  | .existing place _ => return place
  | .missing directory name _ => return directory ++ [name]

/-- Tells sources from the target of a utility, and what each source is to become. -/
def destinations (o : Found) (operands : List String) (s : Setting) :
    Except Effect (List (String × String)) :=
  let inside := fun target (sources : List String) =>
    match s.files.find (pathOf target) with
    | .ok (_, .directory) =>
      .ok (sources.map fun source => (source, joined target (baseName source)))
    | .ok _ => .error (s.refuse s.files s!"target {shellQuoted target}: Not a directory")
    | .error fault => .error (s.refuse s.files s!"target {shellQuoted target}: {reason fault}")
  match o.value? 't', operands.dropLast, operands.getLast? with
  | _, _, none => .error (s.misuse "missing file operand")
  | some target, _, _ => inside target operands
  | none, [], some only =>
    .error (s.misuse s!"missing destination file operand after {shellQuoted only}")
  | none, [source], some target =>
    if s.files.isDirectory (pathOf target) ∧ !o.has 'T' then inside target [source]
    else .ok [(source, target)]
  | none, sources, some target =>
    if o.has 'T' then
      let extra := operands[2]?.getD ""
      .error (s.misuse s!"extra operand {quoted extra}")
    else inside target sources

/-- Writes a file with a content; one that is there keeps its permission to run, unless that is to be
set. -/
def putFile (files : FileTree) (path : String) (content : Bytes) (executable sets : Bool) :
    Except IoFault FileTree := do
  let isNew := !files.pathExists (pathOf path)
  let files ← files.writeRaw (pathOf path) content
  if isNew ∨ sets then files.setExecutable (pathOf path) executable else return files

/-- Copies an entry to a path, with all below it. -/
def copyEntry (s : Setting) (omission : String) (sets keepsLinks recursive isVerbose : Bool) :
    (fuel : Nat) → (isTop : Bool) → String → String → FileTree → Effect
  | 0, _, _, _, files => { files }
  | fuel + 1, isTop, source, target, files =>
    let said := if isVerbose then s!"{shellQuoted source} -> {shellQuoted target}\n" else ""
    let found := if keepsLinks then files.findLink (pathOf source) else files.find (pathOf source)
    match found, files.find (pathOf target) with
    | .error fault, _ => s.refuse files s!"cannot stat {shellQuoted source}: {reason fault}"
    | .ok (place, .directory), goal =>
      if !recursive then
        s.refuse files s!"{omission}omitting directory {shellQuoted source}"
      else
        let isInside := match placeFor files target with
          | .ok goal => isTop && place.isPrefixOf goal
          | .error _ => false
        if isInside then
          s.refuse files s!"cannot copy a directory, {shellQuoted source}, into itself, {shellQuoted target}"
        else
          let below := fun files => Effect.forEach files (files.childNames place) fun child files =>
            let child := Octets.ofText child
            copyEntry s omission sets keepsLinks recursive isVerbose fuel false (joined source child)
              (joined target child) files
          match goal with
          | .ok (_, .directory) => below files
          | .ok _ => s.refuse files
            s!"cannot overwrite non-directory {shellQuoted target} with directory {shellQuoted source}"
          | .error _ =>
            match files.makeDirectory (pathOf target) with
            | .ok files => (Effect.say files said).andThen below
            | .error fault =>
              s.refuse files s!"cannot create directory {shellQuoted target}: {reason fault}"
    | .ok _, .ok (_, .directory) =>
      s.refuse files s!"cannot overwrite directory {shellQuoted target} with non-directory"
    | .ok (place, entry), goal =>
      if goal.toOption.map (·.1) = some place then
        s.refuse files s!"{shellQuoted source} and {shellQuoted target} are the same file"
      else
        let done := match entry with
          | .link held => do
            let goal ← placeOfName files target
            (files.remove goal).createLink ⟨held⟩ (pathOf target)
          | entry => do
            let content ← FileTree.Entry.contents entry
            let executable := match entry with
              | .file _ executable => executable
              | .utility _ => true
              | _ => false
            putFile files target content executable sets
        match done with
        | .ok files => .say files said
        | .error fault =>
          let fault := if fault = .isDirectory then .notDirectory else fault
          s.refuse files s!"cannot create regular file {shellQuoted target}: {reason fault}"

/-- Copies files, and directories if that is asked for. -/
def cp : Utility :=
  let u : Usage := {
    letters := "rRapfnuvt:TLPdlsixHbS:"
    names := [("recursive", 'r'), ("archive", 'a'), ("force", 'f'), ("no-clobber", 'n'),
      ("verbose", 'v'), ("target-directory", 't'), ("no-target-directory", 'T'),
      ("dereference", 'L'), ("no-dereference", 'P')] }
  u.run fun o operands s =>
    match destinations o operands s with
    | .error effect => effect
    | .ok pairs =>
      let recursive := o.has 'r' || o.has 'R' || o.has 'a'
      let keepsLinks := (o.has 'P' || o.has 'd' || recursive) && !o.has 'L'
      .forEach s.files pairs fun (source, target) files =>
        if o.has 'n' ∧ files.pathExists (pathOf target) then { files }
        else copyEntry s "-r not specified; " (o.has 'p' || o.has 'a') keepsLinks recursive (o.has 'v')
          (files.entries.length + 2) true source target files

/-- Writes what lies at and below one place to another. -/
def copyTree (files : FileTree) (source target : Place) : FileTree :=
  files.entries.foldl (fun files (place, entry) =>
    if source.isPrefixOf place then files.set (target ++ place.drop source.length) entry
    else files) files

/-- Moves files and directories. -/
def mv : Utility :=
  let u : Usage := {
    letters := "fnivut:TbS:"
    names := [("force", 'f'), ("no-clobber", 'n'), ("verbose", 'v'), ("target-directory", 't'),
      ("no-target-directory", 'T')] }
  u.run fun o operands s =>
    match destinations o operands s with
    | .error effect => effect
    | .ok pairs => .forEach s.files pairs fun (source, target) files =>
      if o.has 'n' ∧ files.pathExists (pathOf target) then { files }
      else match files.findLink (pathOf source), placeOfName files target with
        | .error fault, _ => s.refuse files s!"cannot stat {shellQuoted source}: {reason fault}"
        | .ok _, .error fault =>
          s.refuse files s!"cannot move {shellQuoted source} to {shellQuoted target}: {reason fault}"
        | .ok (place, entry), .ok goal =>
          let there := files.get? goal
          if goal = place then
            s.refuse files s!"{shellQuoted source} and {shellQuoted target} are the same file"
          else if place.isPrefixOf goal then
            s.refuse files s!"cannot move {shellQuoted source} to a subdirectory of itself, {shellQuoted target}"
          else if entry ≠ .directory ∧ target.endsWith "/" then
            s.refuse files
              s!"cannot move {shellQuoted source} to {shellQuoted target}: Not a directory"
          else if entry = .directory ∧ there.any (· ≠ .directory) then
            s.refuse files
              s!"cannot overwrite non-directory {shellQuoted target} with directory {shellQuoted source}"
          else if entry ≠ .directory ∧ there = some .directory then
            s.refuse files s!"cannot overwrite directory {shellQuoted target} with non-directory"
          else if there = some .directory ∧ files.childNames goal ≠ [] then
            s.refuse files s!"cannot move {shellQuoted source} to {shellQuoted target}: Directory not empty"
          else
            .say ((copyTree (files.remove goal) place goal).remove place)
              (if o.has 'v' then s!"renamed {shellQuoted source} -> {shellQuoted target}\n" else "")

/-- Makes links, or second names of files, which are copies here. -/
def ln : Utility :=
  let u : Usage := {
    letters := "sfnvt:TrLPib"
    names := [("symbolic", 's'), ("force", 'f'), ("no-dereference", 'n'), ("verbose", 'v'),
      ("target-directory", 't'), ("no-target-directory", 'T')] }
  u.run fun o operands s =>
    let isKept := o.has 'n' && (operands.getLast?.any fun target => s.files.isLink (pathOf target))
    let isPlain := !(o.has 't' || o.has 'T' || isKept)
    let pairs : Except Effect (List (String × String)) := match operands, isPlain with
      | [target], true => .ok [(target, joined "." (baseName target))]
      | [target, link], false =>
        if o.has 't' then destinations o operands s else .ok [(target, link)]
      | _, _ => destinations o operands s
    match pairs with
    | .error effect => effect
    | .ok pairs => .forEach s.files pairs fun (target, link) files =>
      let cleared := if o.has 'f' then (files.removeFile (pathOf link)).toOption.getD files
        else files
      let kind := if o.has 's' then "symbolic" else "hard"
      let arrow := if o.has 's' then "->" else "=>"
      let said := if o.has 'v' then s!"{shellQuoted link} {arrow} {shellQuoted target}\n" else ""
      if o.has 's' then
        match cleared.createLink (pathOf target) (pathOf link) with
        | .ok files => .say files said
        | .error fault =>
          let what := if target = "" then s!"{shellQuoted link} -> {shellQuoted target}"
            else shellQuoted link
          s.refuse files s!"failed to create {kind} link {what}: {reason fault}"
      else match files.findLink (pathOf target) with
        | .error fault => s.refuse files s!"failed to access {shellQuoted target}: {reason fault}"
        | .ok (_, .directory) =>
          s.refuse files s!"{target}: hard link not allowed for directory"
        | .ok (_, entry) =>
          match cleared.resolve false (pathOf link) with
          | .ok (.missing directory name _) => .say (cleared.set (directory ++ [name]) entry) said
          | .ok _ => s.refuse files s!"failed to create {kind} link {shellQuoted link}: File exists"
          | .error fault =>
            s.refuse files
              s!"failed to create {kind} link {shellQuoted link} => {shellQuoted target}: {reason fault}"

/-- Copies files to where they are to be used. -/
def install : Utility :=
  let u : Usage := {
    letters := "m:dDt:Tvcsbpo:g:C"
    names := [("mode", 'm'), ("directory", 'd'), ("target-directory", 't'),
      ("no-target-directory", 'T'), ("verbose", 'v')] }
  u.run fun o operands s =>
    let mode := (o.value? 'm').getD "755"
    match Mode.change? mode 0 false 0 with
    | none => s.refuse s.files s!"invalid mode {quoted mode}"
    | some mode =>
      let unmade (files : FileTree) (fault : String × IoFault) : Effect :=
        s.refuse files s!"cannot create directory {shellQuoted fault.1}: {reason fault.2}"
      if o.has 'd' then
        if operands = [] then s.misuse "missing file operand"
        else .forEach s.files operands fun operand files =>
          match makeAll files operand with
          | .ok (_, files) => { files }
          | .error fault => unmade files fault
      else
        let parents : Except (String × IoFault) (List String × FileTree) :=
          if !o.has 'D' then .ok ([], s.files)
          else match o.value? 't', operands with
            | some target, _ => .ok ((makeAll s.files target).toOption.getD ([], s.files))
            | none, [_, target] => makeAll s.files (directoryName target)
            | none, _ => .ok ([], s.files)
        match parents with
        | .error fault => unmade s.files fault
        | .ok (_, files) =>
        match destinations o operands { s with files } with
        | .error effect => effect
        | .ok pairs => .forEach files pairs fun (source, target) files =>
          let isSame : Bool := match files.find (pathOf source), files.find (pathOf target) with
            | .ok (a, _), .ok (b, _) => a = b
            | _, _ => false
          let effect := copyEntry s "" true false false (o.has 'v') 2 true source target files
          if effect.status ≠ 0 ∨ isSame then effect
          else { effect with
            files := (effect.files.setExecutable (pathOf target)
              (mode &&& Mode.running ≠ 0)).toOption.getD effect.files }

end ContestJudge.Shell.Utility
