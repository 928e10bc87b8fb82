import ContestJudge.Shell.Expansion
import ContestJudge.Shell.Gathering
import ContestJudge.Shell.Program
import ContestJudge.Shell.Utility.Table

/-!
# Running scripts

Words are expanded and commands run, with a bound on how deeply they may be nested. A loop that
takes too many turns, or a process that writes too much, counts as going on forever, so everything
here is total. A command whose end is the end of its process may take its place; that is what `tail`
tells.
-/

namespace ContestJudge.Shell

open Text

/-- How deeply commands and substitutions may be nested. -/
def depthLimit : Nat := 1000

/-- A redirection whose file or descriptor is known; a text is not yet. -/
structure Target where
  /-- The redirection. -/
  source : Redirection Word
  /-- The file or the descriptor. -/
  text : String

/-- What the first words of a command mean. -/
structure Call where
  /-- All words, also those in front of the name. -/
  shown : List String := []
  /-- The name and the arguments. -/
  words : List String := []
  /-- Whether the first name is a command of the shell, and whether that is special. -/
  first : Option Bool := none
  /-- Whether no function counts. -/
  skipsFunctions : Bool := false
  /-- Whether programs are looked for where those of the system are. -/
  usesUsualPath : Bool := false

namespace Call

/-- Whether a command of the shell is called. -/
def isBuiltin (c : Call) (s : State) : Bool :=
  let name := c.words.headD ""
  (Step.builtinKind? name).isSome && (c.skipsFunctions || (s.functions.get? name).isNone)

/-- Whether a fault in the command ends the shell. -/
def isSpecial (c : Call) : Bool := c.first = some true

/-- Whether assignments in front of the command end with it. -/
def isFramed (c : Call) : Bool := c.words ≠ [] && !c.isSpecial

/-- Whether the command changes the shell itself. -/
def isReplacing (c : Call) (s : State) : Bool := c.words.head? = some "exec" && c.isBuiltin s

end Call

/-- The bindings of the variables that programs get to see. -/
def State.exported (s : State) : List (String × Variable) :=
  s.bindings.toList.filter fun (_, v) => v.isExported && v.value.isSome

/-- The variables of a shell that has just started, by those that it was given. Their names have to
be ones that a script can use. -/
def State.startingVariables (s : State) : NameMap Variable :=
  let given := (s.exported.filter fun (name, _) => isName name).map fun (name, v) =>
    (name, { v with isReadOnly := false })
  let withUsual := usualVariables.foldl (fun m (name, value) =>
    m.insertIfNew name { value := some value }) (NameMap.ofList given)
  (initialVariables s.ancestors).foldl (fun m (name, value) =>
    m.insert name { (m.get? name).getD {} with value := some value }) withUsual

/-- The path by which a shell that has just started believes to have come to its directory. -/
def State.startingRoute (s : State) : String :=
  let told := (s.valueOf State.routeName).filter fun path =>
    path.startsWith "/" && ((s.tree.find (pathOf path)).toOption.map (·.1)) = some s.directory
  told.getD (Step.physicalRoute s)

/-- The process as a shell that has just started. -/
def State.fresh (s : State) (name : String) : State :=
  let s := s.asProcess s.process
  let route := s.startingRoute
  { s with
    name
    route
    number := s.process
    bindings := s.startingVariables.insert State.routeName { value := some route, isExported := true }
    frames := [], functions := .empty, aliases := .empty, found := []
    arguments := [], optionIndex := 1, optionOffset := none
    commandName := none, line := 0
    status := 0, outputStatus := 0, savedStatus := none
    lastJob := none, options := [], loops := 0, isTested := false }

namespace Step

/-- Lets a descriptor lead to a file that is read. -/
def openForReading (descriptor : Nat) (text : String) : Step Unit := do
  let s ← get
  match s.tree.find (pathOf text) with
  | .ok (place, .file ..) => modify (·.opened descriptor (.file place (some 0)))
  | .ok (_, .sink) => modify (·.opened descriptor .nowhere)
  | .ok (_, entry) =>
    let content := (FileTree.Entry.contents entry).toOption.getD []
    modify (·.opened descriptor (.source (Octets.ofBytes content).toList 0))
  | .error fault => fail ("cannot open " ++ text ++ ": " ++ faultTextOr "No such file" fault)

/-- Lets a descriptor lead to a file that is written, and made if need be. -/
def openForWriting (descriptor : Nat) (opening : Opening) (text : String) : Step Unit := do
  let s ← get
  let path := pathOf text
  if opening = .write false ∧ s.has 'C' ∧ s.tree.isFile path then
    fail s!"cannot create {text}: File exists"
  let keeps := opening = .append ∨ opening = .readWrite
  let before := if keeps then (s.tree.readRaw path).toOption.getD [] else []
  match s.tree.writeRaw path before with
  | .ok files =>
    setFiles files
    match files.find path with
    | .ok (place, .file ..) =>
      let offset := if opening = .append then none else some 0
      modify (·.opened descriptor (.file place offset))
    | _ => modify (·.opened descriptor .nowhere)
  | .error fault => fail ("cannot create " ++ text ++ ": " ++ faultTextOr "Directory nonexistent" fault)

/-- The descriptor that a path stands for. -/
def descriptorOf? (path : String) : Option Nat :=
  match path with
  | "/dev/stdin" => some 0
  | "/dev/stdout" => some 1
  | "/dev/stderr" => some 2
  | path => if path.startsWith "/dev/fd/" then count? (String.ofList (path.toList.drop 8)) else none

/-- Lets a descriptor mean the same as another one. -/
def duplicate (descriptor other : Nat) (complaint : String) : Step Unit := do
  let s ← get
  match s.descriptors.lookup other with
  | some index => set (s.connect descriptor index)
  | none => fail complaint

/-- Opens a file for a redirection. -/
def openFile (r : Redirection Word) (text : String) : Step Unit := do
  match descriptorOf? text with
  | some other => duplicate r.descriptor other s!"cannot open {text}: No such file"
  | none =>
    if r.opening = .read then openForReading r.descriptor text
    else openForWriting r.descriptor r.opening text

/-- What a utility is given. -/
def settingOf (name : String) (s : State) : Setting where
  name
  files := s.tree
  input := match s.channel? 0 with
    | some (_, .source rest _) => rest
    | some (_, .file place (some offset)) =>
      match s.files.get? place with
      | some (.file content _) => (Octets.ofBytes (content.drop offset)).toList
      | _ => []
    | _ => []
  isFile := match s.channel? 0 with
    | some (_, .file ..) => true
    | _ => false
  mask := s.mask
  route := s.route

/-- Lets a utility of some name have its effect. -/
def perform (name : String) (effect : Effect) : Step Unit := do
  if let some n := effect.taken then takeFrom () fun rest => ((), rest.drop n)
  setFiles effect.files
  pass effect.duration
  setStatus effect.status
  modify fun s => { s with lostOutput := false }
  let say : Step Unit :=
    effect.inOrder.forM fun (stream, text) => write (if stream = .stdout then 1 else 2) text
  say
  if (← get).lostOutput then
    write 2 s!"{name}: write error: Bad file descriptor\n"
    setStatus 1
  if effect.isEndless then
    let size := max 1 ((effect.inOrder.map (·.2.length)).foldl (· + ·) 0)
    (List.range (writeLimit / size + 2)).forM fun _ => say
    throw .busy

/-- Writes to a channel. -/
def writeTo (index : Nat) (text : String) : Step Unit :=
  restoring [2] do
    modify (·.connect 2 index)
    write 2 text

/-- Goes back in time, so that something happens at the same time as what has happened since, and
goes on when both have ended. -/
def meanwhile (start : Nat) (body : Step Unit) : Step Unit := ExceptT.mk fun s =>
  let (result, after) := body { s with clock := start }
  (result, { after with clock := max s.clock after.clock })

/-- The options of the program that sets variables for another one. -/
def environmentUsage : Usage where
  letters := "+i0u:C:v"
  names := [("ignore-environment", 'i'), ("null", '0'), ("unset", 'u'), ("chdir", 'C')]
  isFree := false
  status := 125

/-- The program that a process finds by its name, as programs look for others. -/
def programFor (name : String) (arguments : List String) (s : State) : Except IoFault Program := do
  if name = "" then throw .notFound
  let directories := (s.valueOf State.pathName).getD usualPaths.2
  Program.find s.tree interpreterLimit (← s.locateIn directories name) name arguments

mutual

/-- Expands a part of a word. -/
def expandPiece (fuel : Nat) (e : Expanding) (piece : Piece) : Step (List Fragment) :=
  match fuel with
  | 0 => throw .busy
  | fuel + 1 => do
    match piece with
    | .literal text => return e.literal text
    | .quoted text => return [.fixed true text]
    | .group [.parameter "@" .plain []] =>
      return { e with quoted := true }.arguments (← get) eachName
    | .group pieces =>
      let inner : Expanding := { e with quoted := true, isSubstitute := false }
      return .fixed true "" :: (← expandPieces fuel inner .never pieces)
    | .parameter name use word => expandParameter fuel e name use word
    | .output script =>
      let text ← capturing do
        modify fun s => { s with isTested := false }
        asShell fuel (run fuel true script)
      modify fun s => { s with outputStatus := s.status }
      return e.value (outputValue text)
    | .value expression =>
      let text ← expandText fuel .never expression
      match Arithmetic.evaluate (← get).known text with
      | .ok (value, assigned) =>
        assigned.forM fun (name, value) => assign name (toString value)
        return e.value (toString value)
      | .error fault => fail fault.message

/-- Expands a parameter. -/
def expandParameter (fuel : Nat) (e : Expanding) (name : String) (use : Use) (word : Word) :
    Step (List Fragment) :=
  match fuel with
  | 0 => throw .busy
  | fuel + 1 => do
    let s ← get
    let here (s : State) : List Fragment :=
      if isAll name then e.arguments s name else e.value ((s.parameter? name).getD "")
    let isMissing := !isAll name && (s.parameter? name).isNone
    let checkValue : Step Unit := do
      if isMissing ∧ s.has 'u' then fail s!"{name}: parameter not set"
    let instead : Step (List Fragment) :=
      expandPieces fuel { e with isSubstitute := true } .atStart word
    let trimmed (atStart longest : Bool) : Step (List Fragment) := do
      checkValue
      if isMissing then return []
      let pattern ← expandPattern fuel word
      return e.value (trimMatch atStart longest pattern ((s.textOf? name).getD ""))
    match use with
    | .malformed => fail "Bad substitution"
    | .plain =>
      checkValue
      return if isMissing ∧ !e.quoted then [] else here s
    | .length =>
      checkValue
      return e.value (toString (s.lengthOf e name))
    | .orElse emptyToo => if s.isGiven e name emptyToo then return here s else instead
    | .andThen emptyToo => if s.isGiven e name emptyToo then instead else return []
    | .orAssign emptyToo =>
      if s.isGiven e name emptyToo then return here s
      else
        assign name (← expandText fuel .atStart word)
        return here (← get)
    | .orFail emptyToo =>
      if s.isGiven e name emptyToo then return here s
      else
        let text ← expandText fuel .atStart word
        let usual := if emptyToo then "parameter not set or null" else "parameter not set"
        let reason := if word.isEmpty then usual else text
        fail s!"{name}: {reason}"
    | .withoutStart longest => trimmed true longest
    | .withoutEnd longest => trimmed false longest

/-- Expands the parts of a word. -/
def expandPieces (fuel : Nat) (e : Expanding) (tildes : Tildes) (word : Word) :
    Step (List Fragment) :=
  match fuel with
  | 0 => throw .busy
  | fuel + 1 => do
    let fragments ← word.zipIdx.mapM fun (piece, index) => do
      match piece with
      | .literal text => return literalFragments (← get) e tildes index word.length text
      | piece => expandPiece fuel e piece
    return fragments.flatten

/-- Expands a word into one text. -/
def expandText (fuel : Nat) (tildes : Tildes) (word : Word) : Step String :=
  match fuel with
  | 0 => throw .busy
  | fuel + 1 => do
    return textOf (glyphsOf (← expandPieces fuel { splits := false } tildes word))

/-- Expands a word into a pattern. -/
def expandPattern (fuel : Nat) (word : Word) : Step (List Glyph) :=
  match fuel with
  | 0 => throw .busy
  | fuel + 1 => do return glyphsOf (← expandPieces fuel { splits := false } .atStart word)

/-- Expands a word into fields. -/
def expandFields (fuel : Nat) (word : Word) : Step (List String) :=
  match fuel with
  | 0 => throw .busy
  | fuel + 1 => do
    let fragments ← expandPieces fuel { splits := true } .atStart word
    let s ← get
    let fields := fieldsOf s.separators fragments
    if s.has 'f' then return fields.map textOf else return fields.flatMap (expandField s.tree)

/-- Expands an argument, which may be an assignment that is not split. -/
def expandArgument (fuel : Nat) (mayAssign : Bool) (word : Word) : Step (List String) :=
  match fuel with
  | 0 => throw .busy
  | fuel + 1 => do
    match word.assignment?.filter fun _ => mayAssign with
    | some (name, value) => return [name ++ "=" ++ (← expandText fuel .inPaths value)]
    | none => expandFields fuel word

/-- Expands words until there is a field, and gives the words that are left. -/
def firstFields (fuel : Nat) (words : List Word) : Step (List String × List Word) :=
  match fuel with
  | 0 => throw .busy
  | fuel + 1 => do
    match words with
    | [] => return ([], [])
    | word :: rest =>
      match ← expandFields fuel word with
      | [] => firstFields fuel rest
      | fields => return (fields, rest)

/-- Expands words so that a field follows the first one, if there is any. -/
def secondField (fuel : Nat) (fields : List String) (words : List Word) :
    Step (List String × List Word) :=
  match fuel with
  | 0 => throw .busy
  | fuel + 1 => do
    match fields with
    | [first] =>
      let (more, rest) ← firstFields fuel words
      return (first :: more, rest)
    | fields => return (fields, words)

/-- Passes the options in front of the name that is to be run as a command; nothing if they ask for
something else. The first field comes before the options. -/
def passOptions (fuel : Nat) (usual : Bool) (passed fields : List String) (words : List Word) :
    Step (Option (Bool × List String × List String × List Word)) :=
  match fuel with
  | 0 => throw .busy
  | fuel + 1 => do
    let (fields, words) ← secondField fuel fields words
    match fields with
    | first :: next :: rest =>
      let passed := passed ++ [first]
      match next.toList with
      | ['-', '-'] =>
        let (fields, words) ← secondField fuel (next :: rest) words
        return if fields.length < 2 then none
          else some (usual, passed ++ [next], fields.tail, words)
      | '-' :: c :: letters =>
        if (c :: letters).all (· = 'p') then passOptions fuel true passed (next :: rest) words
        else return none
      | _ => return some (usual, passed, next :: rest, words)
    | _ => return none

/-- Finds out what the words of a command mean, and expands them. -/
def expandCall (fuel : Nat) (call : Call) (passed fields : List String) (words : List Word) :
    Step Call :=
  match fuel with
  | 0 => throw .busy
  | fuel + 1 => do
    let here : Call := { call with words := fields }
    let kind? := if here.isBuiltin (← get) then builtinKind? (fields.headD "") else none
    let first := call.first.or kind?
    let whole (mayAssign : Bool) (fields : List String) (words : List Word) : Step Call := do
      let arguments ← words.mapM (expandArgument fuel mayAssign)
      let all := fields ++ arguments.flatten
      return { call with first, words := all, shown := passed ++ all }
    if kind?.isSome ∧ fields.head? = some "command" then
      match ← passOptions fuel call.usesUsualPath [] fields words with
      | some (usesUsualPath, more, fields, words) =>
        expandCall fuel { call with first, usesUsualPath, skipsFunctions := true }
          (passed ++ more) fields words
      | none => do
        let (fields, words) ← secondField fuel fields words
        whole false fields words
    else
      whole (kind?.isSome && ((builtin? (fields.headD "")).any (·.takesAssignments))) fields words

/-- Finds out what a redirection leads to. -/
def findTarget (fuel : Nat) (r : Redirection Word) : Step Target :=
  match fuel with
  | 0 => throw .busy
  | fuel + 1 => do
    match r.opening with
    | .text => return ⟨r, ""⟩
    | .same =>
      let text ← expandText fuel .atStart r.word
      if text ≠ "-" ∧ !(text.length = 1 && text.toList.all Char.isDigit) then
        fail "Syntax error: Bad fd number"
      return ⟨r, text⟩
    | _ => return ⟨r, ← expandText fuel .atStart r.word⟩

/-- Redirects a descriptor. -/
def redirect (fuel : Nat) (target : Target) : Step Unit :=
  match fuel with
  | 0 => throw .busy
  | fuel + 1 => do
    let r := target.source
    match r.opening with
    | .text =>
      let e : Expanding := { splits := false, quoted := true }
      let text := textOf (glyphsOf (← expandPieces fuel e .never r.word))
      modify (·.opened r.descriptor (.source text.toList 0))
    | .same =>
      match count? target.text with
      | none => modify (·.disconnect r.descriptor)
      | some other =>
        if other ≠ r.descriptor then
          duplicate r.descriptor other s!"{other}: Bad file descriptor"
    | _ => openFile r target.text

/-- Runs the lines of a script, and says whether there was a command. -/
def runText (fuel : Nat) (tail isFile : Bool) (text : String) : Step Bool :=
  match fuel with
  | 0 => throw .busy
  | fuel + 1 =>
    let next (now : Cursor × Bool) : Step ((Cursor × Bool) × Bool) := do
      let (cursor, ran) := now
      let s ← get
      match { cursor with aliases := s.aliases.toList }.readLine with
      | .error fault =>
        set { s with line := fault.line }
        fail fault.reason
      | .ok (none, cursor) => return ((cursor, ran), false)
      | .ok (some commands, after) =>
        if isFile ∧ s.has 'v' then
          let size := cursor.rest.length - after.rest.length
          write 2 (String.ofList (cursor.rest.take size))
        if !commands.isEmpty then run fuel (tail && after.isAtEnd) (.block commands)
        return ((after, ran || !commands.isEmpty), true)
    return (← follow (text.length + 2) next ({ rest := text.toList }, false)).2

/-- Runs the scripts of the signals that came, each signal once and lower ones first. How the last
command ended is the same afterwards. -/
def runArrived (fuel : Nat) : Step Unit :=
  match fuel with
  | 0 => return
  | fuel + 1 => do
    let s ← get
    let mine := ((s.arrived.filter (·.1 = s.process)).map (·.2)).eraseDups
    if mine ≠ [] then
      let saved := s.savedStatus.getD s.status
      set { s with
        arrived := s.arrived.filter (·.1 ≠ s.process), savedStatus := some saved
        isTested := false }
      let restore : Step Unit := modify fun after => { after with
        status := saved, savedStatus := s.savedStatus, isTested := s.isTested }
      (mine.mergeSort fun a b => a ≤ b).forM fun signal => do
        let s ← get
        try
          let _ ← runText fuel false false ((s.trap? s.process signal).getD "")
          setStatus saved
        catch leave =>
          match leave with
          | .returned given =>
            let status := (← get).status
            restore
            if given then setStatus status
            throw leave
          | .left _ =>
            restore
            throw leave
          | .resumed _ =>
            restore
            throw leave
          | leave => throw leave
      restore

/-- Runs something to the end of a shell, and then what the shell does at its end. -/
def asShell (fuel : Nat) (body : Step Unit) : Step Unit :=
  match fuel with
  | 0 => throw .busy
  | fuel + 1 => do
    try body
    catch leave => if !isOwn leave then throw leave
    let s ← get
    match s.trap? s.process 0 with
    | some script =>
      set { s.setTrap s.process 0 none with savedStatus := some s.status, isTested := false }
      try
        let _ ← runText fuel false false script
        setStatus s.status
      catch
        | .ended => return
        | .failed => return
        | leave => if isOwn leave then setStatus s.status else throw leave
    | none => return
where
  /-- Whether only the shell ends that runs. -/
  isOwn : Leave → Bool
    | .ended => true
    | .failed => true
    | .returned _ => true
    | .left _ => true
    | .resumed _ => true
    | _ => false

/-- Runs a program in the place of the process that runs. -/
def runProgram (fuel : Nat) (program : Program) : Step Unit :=
  match fuel with
  | 0 => throw .busy
  | fuel + 1 => do
    modify fun s => s.asProcess s.process
    match program.utility with
    | "sh" => runShell fuel program.name program.arguments
    | "env" => runWithVariables fuel program.name program.arguments
    | "xargs" => runWithInput fuel program.name program.arguments
    | utility =>
      match Utility.system.lookup utility with
      | some act => perform program.name (act program.arguments (settingOf program.name (← get)))
      | none => setStatus 127

/-- Runs a shell with options and a script: in the next argument, in a file, or in its input. -/
def runShell (fuel : Nat) (name : String) (arguments : List String) : Step Unit :=
  match fuel with
  | 0 => throw .busy
  | fuel + 1 => do
    modify (·.fresh name)
    asShell fuel do
      let (hasScript, operands) ← setOptions true arguments
      let begin (name : String) (arguments : List String) : Step Unit :=
        modify fun s => { s with name, arguments, line := 1 }
      let runInput : Step Unit := do
        modify (·.withOption 's' true)
        let _ ← runText fuel false true (← takeInput)
      let readsInput := (← get).has 's'
      match hasScript, operands with
      | true, [] => fail "-c requires an argument"
      | true, [text] =>
        begin name []
        let _ ← runText fuel (!readsInput) false text
      | true, text :: name :: arguments =>
        begin name arguments
        let _ ← runText fuel (!readsInput) false text
      | false, [] =>
        begin name []
        runInput
      | false, file :: arguments =>
        if readsInput then
          begin name (file :: arguments)
          runInput
        else
          match (← get).tree.readRaw (pathOf file) with
          | .ok content =>
            begin file arguments
            let _ ← runText fuel false true (Octets.ofBytes content)
          | .error fault => fail ("cannot open " ++ file ++ ": " ++ faultTextOr "No such file" fault)

/-- Runs a program with variables that are given before its name. -/
def runWithVariables (fuel : Nat) (caller : String) (arguments : List String) : Step Unit :=
  match fuel with
  | 0 => throw .busy
  | fuel + 1 => do
    let s ← get
    match environmentUsage.parse arguments with
    | .error complaint => perform caller ((settingOf caller s).misuse complaint environmentUsage.status)
    | .ok (found, operands) =>
      let isFresh := found.has 'i' || operands.head? = some "-"
      let operands := if operands.head? = some "-" then operands.drop 1 else operands
      let removed := found.values 'u'
      let kept := if isFresh then []
        else inBuckets 39 (·.1) (s.exported.filter (!removed.contains ·.1))
      let isAssignment := fun (operand : String) => operand.contains '='
      let given := (operands.takeWhile isAssignment).map fun operand =>
        let (name, value) := operand.toList.span (· ≠ '=')
        (String.ofList name,
          ({ value := some (String.ofList value.tail), isExported := true } : Variable))
      let all := (NameMap.ofList kept).insertMany given
      let goal? := (found.value? 'C').map fun path => (path, s.tree.find (pathOf path))
      match goal?, operands.dropWhile isAssignment with
      | some (path, .error fault), _ =>
        perform caller ((settingOf caller s).refuse s.tree
          s!"cannot change directory to {shellQuoted path}: {reason fault}" 125)
      | goal?, name :: arguments =>
        let directory := ((goal?.bind (·.2.toOption)).map (·.1)).getD s.directory
        set { s with bindings := all, directory }
        match programFor name arguments (← get) with
        | .ok program => runProgram fuel program
        | .error fault =>
          write 2 s!"{caller}: {shellQuoted name}: {faultText fault}\n"
          if name.contains ' ' then
            write 2 s!"{caller}: use -[v]S to pass options in shebang lines\n"
          setStatus (Program.faultStatus fault)
      | _, [] =>
        let names := ((kept ++ given).map (·.1)).eraseDups
        let rows := names.map fun name => name ++ "=" ++ ((all.get? name).bind (·.value)).getD ""
        let ending := if found.has '0' then "\x00" else "\n"
        perform caller (.say s.tree (String.join (rows.map (· ++ ending))))

/-- Runs a program with what the input holds as more arguments. -/
def runWithInput (fuel : Nat) (caller : String) (arguments : List String) : Step Unit :=
  match fuel with
  | 0 => throw .busy
  | fuel + 1 => do
    let setting := settingOf caller (← get)
    let say (complaint : String) : Step Unit := write 2 s!"{caller}: {complaint}\n"
    match gatheringUsage.parse arguments with
    | .error complaint => perform caller (setting.misuse complaint)
    | .ok (found, operands) =>
      match Gathering.ofOptions found.options with
      | .error complaint =>
        if complaint.endsWith "." then
          say complaint
          setStatus 1
        else perform caller (setting.misuse complaint)
      | .ok gathering =>
        gathering.warnings.forM say
        let command := if operands = [] then ["echo"] else operands
        let (commands, complaint) := gathering.commands command (← takeInput)
        setStatus 0
        let refused ← commands.findM? fun words => do
          let before := (← get).status
          if found.has 't' then write 2 (" ".intercalate (words.map shellWord) ++ "\n")
          let name := words.headD ""
          match programFor name words.tail (← get) with
          | .error fault =>
            say s!"{name}: {faultText fault}"
            setStatus (Program.faultStatus fault)
            return true
          | .ok program =>
            let signal? ← contained do
              modify (·.opened 0 .nowhere)
              runProgram fuel program
            let status := (← get).status
            match signal? with
            | some signal =>
              say s!"{name}: terminated by signal {signal}"
              setStatus 125
              return true
            | none =>
              if status = 255 then
                say s!"{name}: exited with status 255; aborting"
                setStatus 124
                return true
              setStatus (if status = 0 then before else 123)
              return false
        if refused.isNone then
          complaint.forM fun complaint => do
            say complaint
            setStatus 1

/-- Calls a function. -/
def callFunction (fuel : Nat) (body : Command) (arguments : List String) : Step Unit :=
  match fuel with
  | 0 => throw .busy
  | fuel + 1 =>
    let restore (s after : State) : State := { after with
      arguments := s.arguments, optionIndex := s.optionIndex, optionOffset := s.optionOffset
      loops := s.loops }
    keeping restore do
      modify fun s => { s with
        arguments, optionIndex := 1, optionOffset := none, loops := 0 }
      try run fuel false body
      catch
        | .returned _ => return
        | leave => throw leave

/-- Does what a command of the shell does. -/
def runBuiltin (fuel : Nat) (name : String) (arguments : List String) : Step Unit :=
  match fuel with
  | 0 => throw .busy
  | fuel + 1 => do
    match name with
    | "eval" =>
      let ran ← runText fuel false false (" ".intercalate arguments)
      if !ran then setStatus 0
    | "." =>
      match ← operandsOf arguments with
      | [] => setStatus 0
      | file :: _ =>
        let s ← get
        let path? := if file.contains '/' then some file
          else (State.candidates s.searchPath file).find? fun path => s.tree.isFile (pathOf path)
        match path? with
        | none => fail s!"{file}: not found"
        | some path =>
          match s.tree.readRaw (pathOf path) with
          | .error fault =>
            if fault = .isDirectory then setStatus 0
            else fail ("cannot open " ++ path ++ ": " ++ faultTextOr "No such file" fault)
          | .ok content =>
            keeping (fun s after => { after with isTested := s.isTested }) do
              set { s with commandName := some path, isTested := false }
              try
                let ran ← runText fuel false true (Octets.ofBytes content)
                if !ran then setStatus 0
              catch
                | .returned _ => return
                | leave => throw leave
    | "exec" =>
      match ← operandsOf arguments with
      | [] => setStatus 0
      | name :: arguments =>
        let s ← get
        let found := do
          Program.find s.tree interpreterLimit (← s.locate name) name arguments
        match found with
        | .ok program => runProgram fuel program
        | .error fault =>
          complain (name ++ ": " ++ faultTextOr "not found" fault)
          setStatus (Program.faultStatus fault)
        throw .ended
    | name =>
      match builtin? name with
      | some builtin => builtin.act arguments
      | none => setStatus 127

/-- Calls what the words of a command mean. -/
def execute (fuel : Nat) (tail : Bool) (call : Call) : Step Unit :=
  match fuel with
  | 0 => throw .busy
  | fuel + 1 => do
    let s ← get
    match call.words with
    | [] => setStatus s.outputStatus
    | name :: arguments =>
      if call.isBuiltin s then
        let body : Step Unit := do
          modify fun s => { s with commandName := some name, lostOutput := false }
          runBuiltin fuel name arguments
          if (← get).lostOutput then
            complain s!"{name}: I/O error"
            modify fun s => { s with status := s.status ||| 1 }
        keeping (fun s after => { after with commandName := s.commandName }) do
          try body
          catch leave => if leave ≠ .failed ∨ call.isSpecial then throw leave
      else match (s.functions.get? name).filter fun _ => !call.skipsFunctions with
        | some (.define _ _ body) => callFunction fuel body arguments
        | _ =>
          let directories := if call.usesUsualPath then usualPaths.1 else s.searchPath
          match s.locateIn directories name with
          | .error fault =>
            complain (name ++ ": " ++ faultTextOr "not found" fault)
            setStatus 127
          | .ok path =>
            remember name
            let body : Step Unit := do
              match Program.find (← get).tree interpreterLimit path name arguments with
              | .ok program => runProgram fuel program
              | .error fault =>
                complain (name ++ ": " ++ faultTextOr "not found" fault)
                setStatus (Program.faultStatus fault)
            if tail ∧ !s.hasTraps then
              body
              throw .ended
            else inside body

/-- Runs a simple command. -/
def runSimple (fuel line : Nat) (tail : Bool) (assignments : List (String × Word))
    (words : List Word) (redirections : List (Redirection Word)) : Step Unit :=
  match fuel with
  | 0 => throw .busy
  | fuel + 1 => do
    modify fun s => { s with line, outputStatus := 0 }
    let (fields, rest) ← firstFields fuel words
    let call ← if fields = [] then pure {} else expandCall fuel {} [] fields rest
    let s ← get
    let complaints := s.descriptors.lookup 2
    let isReplacing := call.isReplacing s
    let body : Step Unit := do
      let targets ← redirections.mapM (findTarget fuel)
      restoring (if isReplacing then [] else redirections.map (·.descriptor)) do
        if !(← attempt (targets.forM (redirect fuel))) then
          setStatus 2
          if call.isSpecial then throw .failed
        else
          let given ← assignments.mapM fun (name, word) => do
            let value ← expandText fuel .inPaths word
            if call.isFramed then makeLocal name
            assign name value
            if call.isFramed ∨ (isReplacing ∧ 1 < call.words.length) then
              modify fun s =>
                s.bind name (some { (s.bindings.get? name).getD {} with isExported := true })
            return name ++ "=" ++ value
          if (← get).has 'x' then
            let start ← traceStart fuel
            let text := start ++ " ".intercalate (given ++ call.shown) ++ "\n"
            complaints.forM fun index => writeTo index text
          execute fuel tail call
    if call.isFramed then framed body else body

/-- What a command starts with that is shown before it runs. -/
def traceStart (fuel : Nat) : Step String :=
  match fuel with
  | 0 => throw .busy
  | fuel + 1 => do
    let s ← get
    match Word.ofDocument? ((s.valueOf "PS4").getD "") with
    | none => return ""
    | some word =>
      set (s.withOption 'x' false)
      let e : Expanding := { splits := false, quoted := true }
      let fragments ← expandPieces fuel e .never word
      modify (·.withOption 'x' true)
      return textOf (glyphsOf fragments)

/-- Runs commands each of which reads what the one before it writes. They start at the same time. -/
def runPipe (fuel start : Nat) : (commands : List Command) → Step Unit :=
  match fuel with
  | 0 => fun _ => throw .busy
  | fuel + 1 => fun commands => do
    match commands with
    | [] => return
    | [last] => meanwhile start (inside (asShell fuel (run fuel true last)))
    | first :: rest =>
      let text ← captured fuel start first
      let ready := (← get).clock
      restoring [0] do
        modify (·.opened 0 (.source text.toList ready))
        runPipe fuel start rest

/-- What a command writes as a part of a pipe that started some time ago. -/
def captured (fuel start : Nat) (command : Command) : Step String :=
  match fuel with
  | 0 => throw .busy
  | fuel + 1 => do
    let s ← get
    set { s with clock := start }
    let text ← capturing (asShell fuel (run fuel true command))
    modify fun after => { after with clock := max s.clock after.clock }
    return text

/-- Runs a command. -/
def run (fuel : Nat) (tail : Bool) (command : Command) : Step Unit :=
  match fuel with
  | 0 => throw .busy
  | fuel + 1 => do
    if (← get).has 'n' then return
    runArrived fuel
    runBare fuel tail command
    receiveSent
    runArrived fuel
    if isChecked command then checkFailure
    if tail then throw .ended
where
  /-- Whether the failure of a command may end the shell. -/
  isChecked : Command → Bool
    | .simple .. => true
    | .enclosed .. => true
    | .pipe _ => true
    | _ => false

/-- Runs a command, whatever signals come. -/
def runBare (fuel : Nat) (tail : Bool) (command : Command) : Step Unit :=
  match fuel with
  | 0 => throw .busy
  | fuel + 1 => do
    match command with
    | .simple line assignments words redirections =>
      runSimple fuel line tail assignments words redirections
    | .block commands =>
      commands.dropLast.forM (run fuel false)
      commands.getLast?.forM (run fuel tail)
    | .background body => unattended (asShell fuel (run fuel true body))
    | .both first second =>
      if ← succeeds (run fuel false first) then run fuel tail second
    | .either first second =>
      if !(← succeeds (run fuel false first)) then run fuel tail second
    | .negation body =>
      let holds ← succeeds (run fuel false body)
      setStatus (if holds then 1 else 0)
    | .pipe commands => runPipe fuel (← get).clock commands
    | .enclosed line body redirections =>
      modify fun s => { s with line }
      let targets ← redirections.mapM (findTarget fuel)
      let inner : Step Unit := do
        targets.forM (redirect fuel)
        run fuel true body
      if tail ∧ !(← get).hasTraps then
        modify (·.withoutJobs)
        inner
      else inside (asShell fuel inner)
    | .branch condition yes no =>
      if ← succeeds (run fuel false condition) then run fuel tail yes
      else match no with
        | some no => run fuel tail no
        | none => setStatus 0
    | .loop wanted condition body =>
      let next (last : Nat) : Step (Nat × Bool) := do
        match ← turn (succeeds (run fuel false condition)) with
        | .inr goesOn => return (last, goesOn)
        | .inl holds =>
          if holds ≠ wanted then return (last, false)
          else
            let goesOn ← turn (run fuel false body)
            return ((← get).status, goesOn ≠ .inr false)
      looped do setStatus (← follow turnLimit next 0)
    | .each line name words body =>
      modify fun s => { s with line }
      let fields ← words.mapM (expandFields fuel)
      let next (now : List String × Nat) : Step ((List String × Nat) × Bool) := do
        match now.1 with
        | [] => return (now, false)
        | value :: rest =>
          assign name value
          let goesOn ← turn (run fuel false body)
          return ((rest, (← get).status), goesOn ≠ .inr false)
      let fields := fields.flatten
      looped do setStatus (← follow (fields.length + 2) next (fields, 0)).2
    | .select line word arms =>
      modify fun s => { s with line }
      let text ← expandText fuel .atStart word
      let chosen ← arms.findM? fun (patterns, _) => patterns.anyM fun pattern => do
        return matchesText (← expandPattern fuel pattern) text
      match chosen with
      | some (_, some body) => run fuel tail body
      | _ => setStatus 0
    | .redirected line body redirections =>
      modify fun s => { s with line }
      let targets ← redirections.mapM (findTarget fuel)
      restoring (redirections.map (·.descriptor)) do
        if ← attempt (targets.forM (redirect fuel)) then run fuel false body
        else setStatus 2
    | .define line name body =>
      modify fun s => { s with
        functions := s.functions.insert name (.define line name body), status := 0 }

end

end Step

end ContestJudge.Shell
