import ContestJudge.Shell.Mode
import ContestJudge.Shell.Utility.Basic

/-!
# Files

The utilities that look at files, make them and remove them.
-/

namespace ContestJudge.Shell.Utility

open Text

/-- The last name in a path. -/
def baseName (path : String) : String :=
  let kept := (path.toList.reverse.dropWhile (· = '/')).takeWhile (· ≠ '/')
  if kept = [] then (if path = "" then "" else "/") else String.ofList kept.reverse

/-- A path without its last name. -/
def directoryName (path : String) : String :=
  let above := (path.toList.reverse.dropWhile (· = '/')).dropWhile (· ≠ '/')
  match above.dropWhile (· = '/') with
  | [] => if above = [] ∧ !path.startsWith "/" then "." else "/"
  | kept => String.ofList kept.reverse

/-- A name inside a directory. -/
def joined (directory name : String) : String :=
  if directory.endsWith "/" then directory ++ name else directory ++ "/" ++ name

/-- A text without an end, unless that is all of it. -/
def withoutEnding (ending text : String) : String :=
  if text ≠ ending ∧ text.endsWith ending then
    String.ofList (text.toList.take (text.length - ending.length))
  else text

/-- Writes the last names of paths, without a given end. -/
def basename : Utility :=
  Usage.run { letters := "as:z", isFree := false
              names := [("multiple", 'a'), ("suffix", 's'), ("zero", 'z')] } fun o operands s =>
    let ending := if o.has 'z' then "\x00" else "\n"
    let row := fun suffix path => withoutEnding suffix (baseName path) ++ ending
    if o.has 'a' ∨ o.has 's' then
      if operands = [] then s.misuse "missing operand"
      else .say s.files (String.join (operands.map (row ((o.value? 's').getD ""))))
    else match operands with
      | [] => s.misuse "missing operand"
      | [path] => .say s.files (row "" path)
      | [path, suffix] => .say s.files (row suffix path)
      | _ :: _ :: extra :: _ => s.misuse s!"extra operand {quoted extra}"

/-- Writes paths without their last names. -/
def dirname : Utility :=
  Usage.run { letters := "z", names := [("zero", 'z')] } fun o operands s =>
    let ending := if o.has 'z' then "\x00" else "\n"
    if operands = [] then s.misuse "missing operand"
    else .say s.files (String.join (operands.map (directoryName · ++ ending)))

/-- What is shown behind the name of an entry. -/
def entryMark (onlyDirectories : Bool) : Entry → String
  | .directory => "/"
  | .link _ => if onlyDirectories then "" else "@"
  | .file _ true => if onlyDirectories then "" else "*"
  | .utility _ => if onlyDirectories then "" else "*"
  | _ => ""

/-- The size of an entry. -/
def entrySize : Entry → Nat
  | .file content _ => content.length
  | .link target => target.utf8ByteSize
  | .directory => 4096
  | _ => 0

/-- Lists directories, one name a line. -/
def ls : Utility :=
  Usage.run { letters := "aAd1lhFprRStUnoigsckxCmNqQuvXBGLHDTwI", status := 2
              names := [("all", 'a'), ("almost-all", 'A'), ("directory", 'd'), ("classify", 'F'),
                ("reverse", 'r'), ("recursive", 'R')] } fun o operands s =>
    let operands := (if operands = [] then ["."] else operands).mergeSort (· ≤ ·)
    let operands := if o.has 'r' then operands.reverse else operands
    let found := operands.map fun operand => (operand, s.files.find (pathOf operand),
      s.files.findLink (pathOf operand))
    let faults := found.filterMap fun (operand, _, link) => match link with
      | .error fault => some s!"cannot access {shellQuoted operand}: {reason fault}"
      | .ok _ => none
    let directories := found.filterMap fun (operand, entry, link) => match entry, link with
      | .ok (place, .directory), .ok (_, link) =>
        if isOpened o link then some (operand, place) else none
      | _, _ => none
    let others := found.filterMap fun (operand, entry, link) => match entry, link with
      | .ok (_, .directory), .ok (_, link) =>
        if isOpened o link then none else some (operand ++ mark o link)
      | _, .ok (_, link) => some (operand ++ mark o link)
      | _, _ => none
    let isNamed := 1 < operands.length ∨ o.has 'R'
    let blocks := directories.flatMap fun (operand, place) =>
      tree o s.files isNamed (s.files.entries.length + 1) operand place
    let blocks := (if others = [] then [] else [joinLines others]) ++ blocks
    let effect := Effect.forEach s.files faults fun fault files => s.refuse files fault 2
    effect.andThen fun files => .say files ("\n".intercalate blocks)
where
  /-- Whether the names in a directory are shown, and not its own; the path to it may be a link. -/
  isOpened (o : Found) (link : Entry) : Bool := !o.has 'd' && (link = .directory || !o.has 'F')
  /-- What is shown behind the name of an entry, if anything is. -/
  mark (o : Found) (entry : Entry) : String :=
    if o.has 'F' then entryMark false entry else if o.has 'p' then entryMark true entry else ""
  /-- The names of a directory in the wanted order. -/
  listing (o : Found) (files : FileTree) (place : Place) : List (String × Place × Entry) :=
    let rows := (files.childNames place).filterMap fun name =>
      (files.get? (place ++ [name])).map fun entry =>
        (Octets.ofText name, place ++ [name], entry)
    let above := [(".", place, Entry.directory), ("..", place.dropLast, Entry.directory)]
    let rows := if o.has 'a' then above ++ rows
      else if o.has 'A' then rows
      else rows.filter (!·.1.startsWith ".")
    let rows := if o.has 'S' then rows.mergeSort fun a b => entrySize b.2.2 ≤ entrySize a.2.2
      else rows
    if o.has 'r' then rows.reverse else rows
  /-- What is shown of a directory, and of those below it if that is wanted. -/
  tree (o : Found) (files : FileTree) (isNamed : Bool) :
      (fuel : Nat) → String → Place → List String
    | 0, _, _ => []
    | fuel + 1, path, place =>
      let rows := listing o files place
      let block := (if isNamed then path ++ ":\n" else "")
        ++ joinLines (rows.map fun (name, _, entry) => name ++ mark o entry)
      let below := if !o.has 'R' then [] else rows.flatMap fun (name, place, entry) =>
        if entry = .directory ∧ name ≠ "." ∧ name ≠ ".." then
          tree o files isNamed fuel (joined path name) place
        else []
      block :: below

/-- The path where a path leads when its links are followed, up to a name that is missing. -/
def followed (files : FileTree) (path : String) : Except IoFault (Bool × String) := do
  match ← files.resolve true (pathOf path) with
  | .existing place _ => return (true, Octets.ofText (FileTree.pathOf place).text)
  | .missing place name _ => return (false, Octets.ofText (FileTree.pathOf (place ++ [name])).text)

/-- The path where a path leads if nothing of it is looked at. -/
def plainly (files : FileTree) (path : String) : String :=
  let here := if path.startsWith "/" then path
    else joined (Octets.ofText (FileTree.pathOf files.current).text) path
  Octets.ofText (FileTree.pathOf (FileTree.placeOf (Octets.toText here))).text

/-- Writes what links hold, or where paths lead. -/
def readlink : Utility :=
  Usage.run { letters := "femnqsvz"
              names := [("canonicalize", 'f'), ("canonicalize-existing", 'e'),
                ("canonicalize-missing", 'm'), ("no-newline", 'n')] } fun o operands s =>
    if operands = [] then s.misuse "missing operand"
    else
      let ending := if o.has 'n' ∧ operands.length = 1 then "" else "\n"
      .forEach s.files operands fun operand files =>
        match o.lastOf? ['f', 'e', 'm'], followed files operand with
        | some 'e', .ok (true, path) => .say files (path ++ ending)
        | some 'e', _ => { files, status := 1 }
        | some 'f', .ok (_, path) => .say files (path ++ ending)
        | some 'f', _ => { files, status := 1 }
        | some _, .ok (_, path) => .say files (path ++ ending)
        | some _, _ => .say files (plainly files operand ++ ending)
        | none, _ => match files.findLink (pathOf operand) with
          | .ok (_, .link target) => .say files (Octets.ofText target ++ ending)
          | .ok _ => missing o s files operand .invalidArgument
          | .error fault => missing o s files operand fault
where
  /-- Says why a path holds no link, if that is asked for. -/
  missing (o : Found) (s : Setting) (files : FileTree) (operand : String) (fault : IoFault) :
      Effect :=
    if o.has 'v' then s.refuse files (plainComplaint operand fault) else { files, status := 1 }

/-- Writes where paths lead. -/
def realpath : Utility :=
  Usage.run { letters := "emqsLPz" } fun o operands s =>
    if operands = [] then s.misuse "missing operand"
    else .forEach s.files operands fun operand files =>
      match followed files operand with
      | .ok (isThere, path) =>
        if isThere ∨ !o.has 'e' then .say files (path ++ "\n")
        else s.refuse files (plainComplaint operand .notFound)
      | .error fault =>
        if o.has 'm' then .say files (plainly files operand ++ "\n")
        else s.refuse files (plainComplaint operand fault)

/-- Makes a directory and those above it, and tells the paths of new ones, or at which path it
failed. -/
def makeAll (files : FileTree) (path : String) :
    Except (String × IoFault) (List String × FileTree) := do
  let above := (pathOf path).ancestors.reverse.map fun p => Octets.ofText p.text
  above.foldlM (fun (new, files) here => do
    if here = "" ∨ files.isDirectory (pathOf here) then return (new, files)
    else match files.makeDirectory (pathOf here) with
      | .ok files => return (new ++ [here], files)
      | .error fault =>
        throw (here, if fault = .alreadyExists ∧ here ≠ path then .notDirectory else fault)) ([], files)

/-- Makes directories. -/
def mkdir : Utility :=
  Usage.run { letters := "pm:vZ"
              names := [("parents", 'p'), ("mode", 'm'), ("verbose", 'v')] } fun o operands s =>
    let isBad := fun mode => (Mode.change? mode 0 true Mode.all).isNone
    if operands = [] then s.misuse "missing operand"
    else match (o.value? 'm').filter isBad with
      | some mode => s.refuse s.files s!"invalid mode {quoted mode}"
      | none => .forEach s.files operands fun operand files =>
        let made := if o.has 'p' then makeAll files operand
          else match files.makeDirectory (pathOf operand) with
            | .ok files => .ok ([operand], files)
            | .error fault => .error (operand, fault)
        match made with
        | .error (path, fault) =>
          s.refuse files s!"cannot create directory {shellQuoted path}: {reason fault}"
        | .ok (new, files) =>
          let row := fun path => s!"mkdir: created directory {shellQuoted path}"
          .say files (if o.has 'v' then joinLines (new.map row) else "")

/-- Removes empty directories. -/
def rmdir : Utility :=
  Usage.run { letters := "pv"
              names := [("parents", 'p'), ("verbose", 'v'),
                ("ignore-fail-on-non-empty", ' ')] } fun o operands s =>
    if operands = [] then s.misuse "missing operand"
    else .forEach s.files operands fun operand files =>
      let above := if o.has 'p' then (pathOf operand).ancestors.map fun p => Octets.ofText p.text
        else [operand]
      go o s true files (above.filter fun path => path ≠ "" || operand = "")
where
  /-- Removes paths up to the first that is not empty. -/
  go (o : Found) (s : Setting) (isFirst : Bool) (files : FileTree) : List String → Effect
    | [] => { files }
    | path :: rest =>
      let what := if isFirst then "" else "directory "
      let removed : Except IoFault FileTree := do
        if path.endsWith "/." ∨ path = "." then throw .invalidArgument
        match ← files.findLink (pathOf path) with
        | (place, .directory) =>
          if files.childNames place = [] then return files.remove place else throw .notEmpty
        | _ => throw .notDirectory
      match removed with
      | .ok files =>
        let said := if o.has 'v' then s!"rmdir: removing directory, {shellQuoted path}\n" else ""
        (Effect.say files said).andThen fun files => go o s false files rest
      | .error fault =>
        if fault = .notEmpty ∧ o.has ' ' then { files }
        else s.refuse files s!"failed to remove {what}{shellQuoted path}: {reason fault}"

/-- The places at and below a place, those below first. -/
def placesBelow (files : FileTree) : (fuel : Nat) → String → Place → List (String × Place)
  | 0, _, _ => []
  | fuel + 1, path, place =>
    (if files.hasDirectory place then
      (files.childNames place).flatMap fun name =>
        placesBelow files fuel (joined path (Octets.ofText name)) (place ++ [name])
      else []) ++ [(path, place)]

/-- Removes files, and directories if that is asked for. -/
def rm : Utility :=
  Usage.run { letters := "frRdivI"
              names := [("force", 'f'), ("recursive", 'r'), ("dir", 'd'), ("verbose", 'v')] }
    fun o operands s =>
      let recursive := o.has 'r' || o.has 'R'
      if operands = [] ∧ !o.has 'f' then s.misuse "missing operand"
      else .forEach s.files operands fun operand files =>
        let said := fun isDirectory path =>
          if !o.has 'v' then ""
          else if isDirectory then s!"removed directory {shellQuoted path}\n" else s!"removed {shellQuoted path}\n"
        match files.findLink (pathOf operand) with
        | .ok (place, .directory) =>
          if recursive then
            if [".", "..", "/"].contains (baseName operand) then
              s.refuse files (if baseName operand = "/" then
                  "it is dangerous to operate recursively on '/'\n"
                    ++ s!"{s.name}: use --no-preserve-root to override this failsafe"
                else s!"refusing to remove '.' or '..' directory: skipping {shellQuoted operand}")
            else
              let gone := placesBelow files (files.entries.length + 1) operand place
              .say (files.remove place) (String.join (gone.map fun (path, place) =>
                said (files.hasDirectory place) path))
          else if o.has 'd' then
            if files.childNames place = [] then .say (files.remove place) (said true operand)
            else s.refuse files s!"cannot remove {shellQuoted operand}: Directory not empty"
          else s.refuse files s!"cannot remove {shellQuoted operand}: Is a directory"
        | .ok (place, _) => .say (files.remove place) (said false operand)
        | .error fault =>
          if o.has 'f' ∧ (fault = .notFound ∨ fault = .notDirectory) then { files }
          else s.refuse files s!"cannot remove {shellQuoted operand}: {reason fault}"

/-- Makes files that are not there. -/
def touch : Utility :=
  Usage.run { letters := "camfht:d:r:"
              names := [("no-create", 'c'), ("date", 'd'), ("reference", 'r')] }
    fun o operands s =>
      if operands = [] then s.misuse "missing file operand"
      else .forEach s.files operands fun operand files =>
        if o.has 'c' ∨ files.pathExists (pathOf operand) then { files }
        else match files.writeRaw (pathOf operand) [] with
          | .ok files => { files }
          | .error fault =>
            if operand.endsWith "/" then
              let fault := if fault = .isDirectory then .notFound else fault
              s.refuse files s!"setting times of {shellQuoted operand}: {reason fault}"
            else s.refuse files s!"cannot touch {shellQuoted operand}: {reason fault}"

/-- The mode of an entry. -/
def modeOf : Entry → Nat
  | .file _ false => 0o644
  | .link _ => Mode.all
  | _ => 0o755

/-- Whether an argument is a mode that looks like options. -/
def isMinusMode (argument : String) : Bool :=
  match argument.toList with
  | '-' :: c :: rest => (c :: rest).all "rwxXstugo,=+-01234567".toList.contains
  | _ => false

/-- Changes whether files can be run. -/
def chmod : Utility := fun arguments s =>
  let u : Usage := {
    letters := "Rvcf"
    names := [("recursive", 'R'), ("verbose", 'v'), ("changes", 'c'), ("quiet", 'f')] }
  let minus := arguments.find? isMinusMode
  u.run (fun o operands s =>
    let operands := minus.toList ++ operands
    match operands with
    | [] => s.misuse "missing operand"
    | [mode] => s.misuse s!"missing operand after {shellQuoted mode}"
    | mode :: operands =>
      if (Mode.change? mode s.mask false 0).isNone then
        s.misuse s!"invalid mode: {quoted mode}"
      else .forEach s.files operands fun operand files =>
        match files.find (pathOf operand) with
        | .error fault =>
          if o.has 'f' then { files, status := 1 }
          else s.refuse files s!"cannot access {shellQuoted operand}: {reason fault}"
        | .ok (place, _) =>
          let places := if o.has 'R' then
            (placesBelow files (files.entries.length + 1) operand place).map (·.2) else [place]
          { files := places.foldl (fun files place => match files.get? place with
              | some (.file content executable) =>
                let old := modeOf (.file content executable)
                let new := (Mode.change? mode s.mask false old).getD old
                files.set place (.file content (new &&& Mode.running ≠ 0))
              | _ => files) files })
    (arguments.erase (minus.getD "--")) s

/-- Writes its input to files as well. -/
def tee : Utility :=
  Usage.run { letters := "aip", names := [("append", 'a')] } fun o operands s =>
    let done := Effect.forEach s.files operands fun operand files =>
      let before := if o.has 'a' then (files.readRaw (pathOf operand)).toOption.getD [] else []
      let content := before ++ Octets.toBytes (String.ofList s.input)
      s.change files (namedWord operand) (files.writeRaw (pathOf operand) content)
    { done.andThen fun files => .say files (String.ofList s.input) with taken := some s.input.length }

/-- Writes the directory where relative paths start. -/
def pwd : Utility :=
  Usage.run { letters := "LP" } fun o operands s =>
    let path := if o.lastOf? ['L', 'P'] = some 'L' then s.route
      else Octets.ofText (FileTree.pathOf s.files.current).text
    let warned : Effect := if operands = [] then { files := s.files }
      else s.refuse s.files "ignoring non-option arguments" 0
    warned.andThen fun files => .say files (path ++ "\n")

end ContestJudge.Shell.Utility
