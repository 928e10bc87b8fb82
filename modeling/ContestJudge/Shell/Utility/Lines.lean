import ContestJudge.Shell.Number
import ContestJudge.Shell.Utility.Basic

/-!
# Texts and their lines

The utilities that write texts as they are, or parts of them, or count what is in them.
-/

namespace ContestJudge.Shell.Utility

/-- What is needed to show lines one after another. -/
structure Showing where
  /-- The number of the next line. -/
  next : Nat := 1
  /-- The empty lines just before. -/
  blanks : Nat := 0
  /-- Whether a line is to begin. -/
  atStart : Bool := true

/-- A text with spaces in front, up to a width. -/
def padLeft (width : Nat) (text : String) : String :=
  String.ofList (List.replicate (width - text.length) ' ') ++ text

/-- An octet so that it can be seen. -/
def visible (c : Char) : String :=
  let n := c.toNat
  if n < 128 then low n else "M-" ++ low (n - 128)
where
  /-- An octet of the lower half. -/
  low (n : Nat) : String :=
    if n < 32 then "^" ++ (Char.ofNat (n + 64)).toString
    else if n = 127 then "^?" else (Char.ofNat n).toString

/-- A line as it is to be shown. -/
def shownLine (o : Found) (line : List Char) : String :=
  let shows := fun letters => letters.toList.any o.has
  let body := bareLine line
  let hasEnd := line.getLast? = some '\n'
  let hasReturn := shows "AEe" && !shows "Aevt" && hasEnd && body.getLast? = some '\r'
  let text := (if hasReturn then body.dropLast else body).map fun c =>
    if c = '\t' then if shows "AtT" then "^I" else "\t"
    else if shows "Aevt" then visible c else c.toString
  String.join text ++ (if hasReturn then "^M" else "") ++
    if hasEnd then if shows "AEe" then "$\n" else "\n" else ""

/-- Shows a line, or a part of one. -/
def Showing.step (o : Found) : Showing × String → List Char → Showing × String
  | (now, text), line =>
    let ends := line.getLast? = some '\n'
    let number := padLeft 6 (toString now.next) ++ "\t"
    if now.atStart ∧ line = ['\n'] then
      if o.has 's' ∧ 0 < now.blanks then (now, text)
      else if o.has 'n' ∧ !o.has 'b' then
        ({ now with next := now.next + 1, blanks := now.blanks + 1 },
          text ++ number ++ shownLine o line)
      else ({ now with blanks := now.blanks + 1 }, text ++ shownLine o line)
    else if now.atStart ∧ (o.has 'n' ∨ o.has 'b') then
      ({ next := now.next + 1, blanks := 0, atStart := ends }, text ++ number ++ shownLine o line)
    else ({ now with blanks := 0, atStart := ends }, text ++ shownLine o line)

/-- Writes what it is given, perhaps with the numbers of lines, or so that everything can be seen. -/
def cat : Utility :=
  Usage.run {
    letters := "AbeEnstTuv"
    names := [("number-nonblank", 'b'), ("number", 'n'), ("squeeze-blank", 's'),
      ("show-nonprinting", 'v'), ("show-ends", 'E'), ("show-tabs", 'T'), ("show-all", 'A')] }
    fun o operands s =>
      let operands := if operands = [] then ["-"] else operands
      let isPlain := !"AbeEnstTv".toList.any o.has
      let step : Effect × Showing → String × Except IoFault String → Effect × Showing
        | (effect, now), (operand, part) =>
          match part with
          | .error fault =>
            (effect.andThen fun files => s.refuse files (plainComplaint operand fault), now)
          | .ok text =>
            let (now, shown) := if isPlain then (now, text)
              else (linesOf text.toList).foldl (Showing.step o) (now, "")
            (effect.andThen fun files => .say files shown, now)
      let (effect, _) := (contentsOf s operands).foldl step ({ files := s.files }, {})
      { effect with taken := takenBy s operands }

/-- What the letters behind a number multiply it by: powers of 1024, or of 1000 with one more letter.
-/
def multiplier? (suffix : String) : Option Nat :=
  let powers := "KMGTPEZYRQ".toList
  match suffix.toList with
  | [] => some 1
  | ['b'] => some 512
  | c :: rest =>
    let c := if c = 'k' ∨ c = 'm' then c.toUpper else c
    let power := powers.idxOf c + 1
    if !powers.contains c then none
    else if rest = [] ∨ rest = ['i', 'B'] then some (Nat.pow 1024 power)
    else if rest = ['B'] then some (Nat.pow 1000 power)
    else none

/-- Reads a number of units; a complaint tells what is wrong with it. -/
def amountOf (text : String) (cs : List Char) : Except String Nat :=
  let cs := cs.dropWhile isSpace
  let cs := if cs.head? = some '+' then cs.drop 1 else cs
  let (digits, suffix) := cs.span Char.isDigit
  match digits, multiplier? (String.ofList suffix) with
  | [], _ => .error s!"{quoted text}"
  | _, none => .error s!"{quoted text}"
  | digits, some factor =>
    let n := (splitDigits 10 digits).1 * factor
    if n < Nat.pow 2 64 then .ok n
    else .error s!"{quoted text}: Value too large for defined data type"

/-- Which part of a text is meant. -/
structure Portion where
  /-- Whether octets are counted, and not lines. -/
  countsOctets : Bool := false
  /-- How many there are. -/
  count : Nat := 10
  /-- Whether they are counted from the other end. -/
  isOpposite : Bool := false

/-- Reads a part of a text, where a sign says that units are counted from the other end. -/
def Portion.parse (countsOctets : Bool) (signs : List Char) (opposite : Char) (text : String) :
    Except String Portion :=
  let unit := if countsOctets then "bytes" else "lines"
  let read := fun cs (isOpposite : Bool) =>
    match amountOf text cs with
    | .ok count => .ok ({ countsOctets, count, isOpposite } : Portion)
    | .error fault => .error s!"invalid number of {unit}: {fault}"
  match text.toList with
  | c :: rest => if signs.contains c then read rest (c = opposite) else read (c :: rest) false
  | [] => read [] false

/-- The units of a text: its octets, its lines, or what ends with NUL. -/
def unitsOf (countsOctets endsWithNul : Bool) (text : String) : List (List Char) :=
  if countsOctets then text.toList.map fun c => [c]
  else if endsWithNul then
    let swap := fun c => if c = '\x00' then '\n' else if c = '\n' then '\x00' else c
    (linesOf (text.toList.map swap)).map (·.map swap)
  else linesOf text.toList

/-- The start of some units, or all but the last ones. -/
def Portion.first {α : Type} (p : Portion) (units : List α) : List α :=
  if p.isOpposite then units.take (units.length - p.count) else units.take p.count

/-- The end of some units, or all from some unit on. -/
def Portion.last {α : Type} (p : Portion) (units : List α) : List α :=
  if p.isOpposite then units.drop (p.count - 1) else units.drop (units.length - p.count)

/-- Writes a part of each text, with names between several of them. -/
def writePortions (pick : List (List Char) → List (List Char)) (countsOctets : Bool) (o : Found)
    (operands : List String) (s : Setting) : Effect :=
  let operands := if operands = [] then ["-"] else operands
  let header := match o.lastOf? ['q', 'v'] with
    | some c => c = 'v'
    | none => decide (1 < operands.length)
  let step : Effect × Bool → String × Except IoFault String → Effect × Bool
    | (effect, isFirst), (operand, part) =>
      let name := if operand = "-" then "standard input" else operand
      let title := if !header then ""
        else (if isFirst then "" else "\n") ++ s!"==> {name} <==\n"
      match part with
      | .ok text =>
        let shown := String.ofList (pick (unitsOf countsOctets (o.has 'z') text)).flatten
        (effect.andThen fun files => .say files (title ++ shown), false)
      | .error .isDirectory =>
        ((effect.andThen fun files => .say files title).andThen fun files =>
          s.refuse files s!"error reading {shellQuoted name}: Is a directory", false)
      | .error fault =>
        (effect.andThen fun files =>
          s.refuse files s!"cannot open {shellQuoted name} for reading: {reason fault}", isFirst)
  ((contentsOf s operands).foldl step ({ files := s.files }, true)).1

/-- Reads the options that say which part of a text is meant. -/
def portionOf (o : Found) (usual : Portion) (signs : List Char) (opposite : Char) :
    Except String Portion :=
  o.options.foldlM (fun usual (c, text) =>
    if c = 'n' ∨ c = 'c' then Portion.parse (c = 'c') signs opposite text else .ok usual) usual

/-- Reads a number of lines that is an option of its own, with letters behind it. -/
def leadingPortion? (cs : List Char) : Option (Except Char (Portion × List (Char × String))) :=
  let (digits, letters) := cs.span Char.isDigit
  if digits = [] then none
  else
    let count := (splitDigits 10 digits).1
    some <| letters.foldlM (fun (p, more) c =>
      if c = 'c' then .ok ({ countsOctets := true, count }, more)
      else if c = 'l' then .ok ({ count }, more)
      else if ['b', 'k', 'm'].contains c then
        let factor := (multiplier? c.toString).getD 1
        .ok ({ countsOctets := true, count := count * factor }, more)
      else if ['q', 'v', 'z'].contains c then .ok (p, more ++ [(c, "")])
      else .error c) ({ count }, [])

/-- Writes the start of a text. -/
def head : Utility := fun arguments s =>
  let u : Usage := {
    letters := "n:c:qvz0123456789"
    names := [("lines", 'n'), ("bytes", 'c'), ("quiet", 'q'), ("silent", 'q'), ("verbose", 'v'),
      ("zero-terminated", 'z')] }
  let leading := match arguments with
    | first :: rest =>
      match first.toList with
      | '-' :: cs => (leadingPortion? cs).map fun p => (p, rest)
      | _ => none
    | [] => none
  match leading with
  | some (.error c, _) => s.misuse s!"invalid trailing option -- {c}"
  | some (.ok (p, more), rest) => go u p more rest s
  | none => go u {} [] arguments s
where
  /-- Reads the other arguments. -/
  go (u : Usage) (usual : Portion) (more : List (Char × String)) (arguments : List String)
      (s : Setting) : Effect :=
    match u.parse arguments with
    | .error complaint => s.misuse complaint
    | .ok (o, operands) =>
      match o.options.find? (·.1.isDigit), portionOf o usual ['-'] '-' with
      | some (c, _), _ => s.misuse s!"invalid trailing option -- {c}"
      | none, .error complaint => s.refuse s.files complaint
      | none, .ok p =>
        let effect := writePortions p.first p.countsOctets ⟨more ++ o.options⟩ operands s
        let isDirect := operands = [] || operands.any isInput
        let units := unitsOf p.countsOctets (o.has 'z') (String.ofList s.input)
        let taken := if p.isOpposite ∨ !(p.countsOctets ∨ s.isFile) then s.input.length
          else (p.first units).flatten.length
        { effect with taken := if isDirect then some taken else none }

/-- Whether an argument names a device that has no end. -/
def isEndless (files : FileTree) (argument : String) : Bool :=
  match files.find (pathOf argument) with
  | .ok (_, .zeros) => true
  | _ => false

/-- Reads a number of lines that is the first argument, if there is at most one more. -/
def shortPortion? (arguments : List String) : Option (Portion × List String) :=
  match arguments with
  | first :: rest =>
    let isAlone : Bool := match rest with
      | [] => true
      | [next] => !next.startsWith "-" || next == "-"
      | next :: _ => next == "--" && rest.length ≤ 2
    match first.toList with
    | '+' :: cs => if isAlone then (parse cs true).map (·, rest) else none
    | '-' :: cs => if isAlone ∧ cs ≠ [] ∧ cs ≠ ['c'] then (parse cs false).map (·, rest) else none
    | _ => none
  | [] => none
where
  /-- Reads a number and the letters behind it. -/
  parse (cs : List Char) (isOpposite : Bool) : Option Portion :=
    let (digits, letters) := cs.span Char.isDigit
    let count := if digits = [] then 10 else (splitDigits 10 digits).1
    match letters with
    | [] => some { count, isOpposite }
    | ['l'] => some { count, isOpposite }
    | ['c'] => some { countsOctets := true, count, isOpposite }
    | ['b'] => some { countsOctets := true, count := count * 512, isOpposite }
    | _ => none

/-- Writes the end of a text; a text without an end does not fit. -/
def tail : Utility := fun arguments s =>
  let u : Usage := {
    letters := "n:c:qvzfFs:0123456789"
    names := [("lines", 'n'), ("bytes", 'c'), ("quiet", 'q'), ("silent", 'q'), ("verbose", 'v'),
      ("zero-terminated", 'z'), ("follow", 'f'), ("sleep-interval", 's')] }
  let short := shortPortion? arguments
  match u.parse ((short.map (·.2)).getD arguments) with
  | .error complaint => s.misuse complaint
  | .ok (o, operands) =>
    match o.options.find? (·.1.isDigit),
        portionOf o ((short.map (·.1)).getD {}) ['-', '+'] '+' with
    | some (c, _), _ => s.refuse s.files s!"option used in invalid context -- {c}"
    | none, .error complaint => s.refuse s.files complaint
    | none, .ok p =>
      if operands.any (isEndless s.files) then s.refuse s.files "memory exhausted"
      else
        { writePortions p.last p.countsOctets o operands s with
          taken := takenBy s (if operands = [] then ["-"] else operands) }

/-- Writes lines in reverse order. -/
def tac : Utility :=
  Usage.run { letters := "brs:", names := [("separator", 's'), ("before", 'b')] }
    fun o operands s =>
      let complaint := fun operand fault =>
        if fault = IoFault.isDirectory then s!"{operand}: read error: Invalid argument"
        else s!"failed to open {shellQuoted operand} for reading: {reason fault}"
      let (parts, effect) := gather complaint operands s
      let reversed := fun (text : String) => match o.value? 's' with
        | none => String.ofList (linesOf text.toList).reverse.flatten
        | some separator =>
          let pieces := text.splitOn separator
          if o.has 'b' then
            String.join ((pieces.drop 1).reverse.map (separator ++ ·) ++ pieces.take 1)
          else
            String.join ((pieces.getLast?.getD "") ::
              pieces.dropLast.reverse.map (· ++ separator))
      effect.andThen fun files => .say files (String.join (parts.map fun (_, text) => reversed text))

/-- Writes each line from its end to its start. -/
def rev : Utility :=
  Usage.run {} fun _ operands s =>
    let complaint := fun operand fault => s!"cannot open {operand}: {reason fault}"
    let reversed := fun (line : List Char) =>
      (bareLine line).reverse ++ if line.getLast? = some '\n' then ['\n'] else []
    let make := fun (text : String) => String.ofList ((linesOf text.toList).flatMap reversed)
    { filter complaint make operands s with complainsFirst := true }

/-- The number of words. -/
def countWords (text : List Char) : Nat :=
  (text.foldl (fun (count, inside) c =>
    if isSpace c then (count, false)
    else if c.toNat < 33 ∨ 126 < c.toNat then (count, inside)
    else (if inside then count else count + 1, true)) (0, false)).1

/-- The columns of the longest line. -/
def longestLine (text : List Char) : Nat :=
  let (longest, last) := text.foldl (fun (longest, column) c =>
    if c = '\n' ∨ c = '\r' ∨ c = '\x0c' then (max longest column, 0)
    else if c = '\t' then (longest, column + 8 - column % 8)
    else if c.toNat < 32 ∨ 126 < c.toNat then (longest, column)
    else (longest, column + 1)) (0, 0)
  max longest last

/-- What can be counted, in the order in which it is shown. -/
def counters : List (Char × (List Char → Nat)) :=
  [('l', fun text => text.count '\n'), ('w', countWords), ('m', List.length), ('c', List.length),
    ('L', longestLine)]

/-- Counts lines, words and octets. -/
def wc : Utility :=
  Usage.run {
    letters := "clmwL"
    names := [("bytes", 'c'), ("chars", 'm'), ("lines", 'l'), ("words", 'w'),
      ("max-line-length", 'L')] } fun o operands s =>
    let letters := if o.options = [] then ['l', 'w', 'c'] else o.options.map (·.1)
    let counters := counters.filter fun (c, _) => letters.contains c
    let parts := contentsOf s (if operands = [] then ["-"] else operands)
    let counts := parts.map fun (operand, part) => match part with
      | .ok text => (operand, some (counters.map fun (_, count) => count text.toList), none)
      | .error .isDirectory => (operand, some (counters.map fun _ => 0), some IoFault.isDirectory)
      | .error fault => (operand, none, some fault)
    let isPlain := fun (operand : String) => if isInput operand then s.isFile
      else s.files.isFile (pathOf operand)
    let sizes := parts.map fun (operand, part) =>
      if isPlain operand then (part.toOption.getD "").length else 0
    let isOdd := parts.any fun (operand, part) => !isPlain operand &&
      match part with
      | .error .notFound => false
      | _ => true
    let digits := (toString (sizes.foldl (· + ·) 0)).length
    let width := if parts.length = 1 ∧ counters.length = 1 then 1
      else if isOdd then max 7 digits else digits
    let row := fun (cells : List Nat) (name : String) =>
      " ".intercalate (cells.map (fun n => padLeft width (toString n))
        ++ if name = "" then [] else [name]) ++ "\n"
    let effect := Effect.forEach s.files counts fun (operand, cells, fault) files =>
      let complained : Effect := match fault with
        | some fault => s.refuse files (plainComplaint operand fault)
        | none => { files }
      complained.andThen fun files => match cells with
        | some cells => .say files (row cells (if operands = [] then "" else operand))
        | none => { files }
    let cells := counts.filterMap fun (_, cells, _) => cells
    let total := counters.zipIdx.map fun ((c, _), i) =>
      let column := cells.map fun cells => cells[i]?.getD 0
      if c = 'L' then column.foldl max 0 else column.foldl (· + ·) 0
    let effect := if parts.length ≤ 1 then effect
      else effect.andThen fun files => .say files (row total "total")
    { effect with taken := takenBy s (parts.map (·.1)) }

end ContestJudge.Shell.Utility
