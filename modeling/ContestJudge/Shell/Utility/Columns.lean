import ContestJudge.Shell.Utility.Lines

/-!
# Columns

The utilities that look at each line: they take fields out of it, put lines side by side, number
them, and break them.
-/

namespace ContestJudge.Shell.Utility

/-- Positions from one to another one; without an end they go on to the last one. -/
structure Span where
  /-- The first position. -/
  first : Nat
  /-- The last position. -/
  last : Option Nat
  deriving DecidableEq, Repr

/-- Whether a position is meant. -/
def Span.holds (span : Span) (n : Nat) : Bool :=
  span.first ≤ n && span.last.all (n ≤ ·)

/-- Reads a list of positions, where a dash stands between the ends of a span and a comma or a blank
between spans. -/
def readSpans (ofFields : Bool) (text : String) : Except String (List Span) :=
  let text := text.map fun c => if c = ' ' ∨ c = '\t' then ',' else c
  (text.splitOn ",").mapM readSpan
where
  /-- The complaint about a position that is none. -/
  zero : String := if ofFields then "fields are numbered from 1"
    else "byte/character positions are numbered from 1"
  /-- Reads a position. -/
  readPosition (cs : List Char) : Except String Nat :=
    let (digits, rest) := cs.span Char.isDigit
    let n := (splitDigits 10 digits).1
    if rest ≠ [] then
      let kind := if ofFields then "field value" else "byte/character position"
      .error s!"invalid {kind} {quoted (String.ofList cs)}"
    else if Nat.pow 2 64 - 1 ≤ n then
      let kind := if ofFields then "field number" else "byte/character offset"
      .error s!"{kind} {quoted (String.ofList digits)} is too large"
    else .ok n
  /-- Reads a span. -/
  readSpan (text : String) : Except String Span := do
    match text.splitOn "-" with
    | [one] =>
      let n ← readPosition one.toList
      if n = 0 then throw zero
      return ⟨n, some n⟩
    | [first, last] =>
      if first = "" ∧ last = "" then throw "invalid range with no endpoint: -"
      let a ← if first = "" then pure 1 else readPosition first.toList
      if a = 0 then throw zero
      if last = "" then return ⟨a, none⟩
      let b ← readPosition last.toList
      if b < a then throw "invalid decreasing range"
      return ⟨a, some b⟩
    | first :: _ =>
      let _ ← readPosition first.toList
      throw (if ofFields then "invalid field range" else "invalid byte or character range")
    | [] => throw zero

/-- The parts of a list at some positions, in groups of neighbours. -/
def groupsAt {α : Type} (starts : Nat → Bool) (isMeant : Nat → Bool) (parts : List α) :
    List (List α) :=
  let step : List (List α) × Bool → α × Nat → List (List α) × Bool
    | (groups, isOpen), (part, i) =>
      if !isMeant (i + 1) then (groups, false)
      else match groups, isOpen && !starts (i + 1) with
        | group :: groups, true => ((part :: group) :: groups, true)
        | groups, _ => ([part] :: groups, true)
  ((parts.zipIdx.foldl step ([], false)).1.map List.reverse).reverse

/-- Writes some fields, or octets, of each line. -/
def cut : Utility :=
  Usage.run {
    letters := "b:c:d:f:nszo:C"
    names := [("bytes", 'b'), ("characters", 'c'), ("delimiter", 'd'), ("fields", 'f'),
      ("only-delimited", 's'), ("zero-terminated", 'z'), ("output-delimiter", 'o'),
      ("complement", 'C')] } fun o operands s =>
    let lists := o.options.filter fun (c, _) => ['b', 'c', 'f'].contains c
    match lists with
    | [] => s.misuse "you must specify a list of bytes, characters, or fields"
    | _ :: _ :: _ => s.misuse "only one list may be specified"
    | [(letter, text)] =>
      let ofFields := letter = 'f'
      if (o.value? 'd').any (1 < ·.length) then s.misuse "the delimiter must be a single character"
      else match readSpans ofFields text with
      | .error complaint => s.misuse complaint
      | .ok spans =>
        if !ofFields ∧ o.has 'd' then
          s.misuse "an input delimiter may be specified only when operating on fields"
        else if !ofFields ∧ o.has 's' then
          s.misuse ("suppressing non-delimited lines makes sense\n"
            ++ "\tonly when operating on fields")
        else
          let isMeant := fun n => spans.any (·.holds n) != o.has 'C'
          let d := match o.value? 'd' with
            | some d => if d = "" then "\x00" else d
            | none => "\t"
          let line := fun (line : String) =>
            if ofFields then
              let parts := line.splitOn d
              if parts.length = 1 then if o.has 's' then none else some line
              else
                let kept := (groupsAt (fun _ => false) isMeant parts).flatten
                some (((o.value? 'o').getD d).intercalate kept)
            else
              let starts := fun n => !o.has 'C' && spans.any (·.first = n)
                && !spans.any fun span => span.first < n && span.last.all (n ≤ ·)
              let groups := groupsAt starts isMeant line.toList
              some (((o.value? 'o').getD "").intercalate (groups.map String.ofList))
          let (parts, effect) := gather plainComplaint operands s
          let ending := if o.has 'z' then "\x00" else "\n"
          let linesIn := fun (text : String) =>
            let cs := (unitsOf false (o.has 'z') text).map fun line =>
              if String.ofList (line.drop (line.length - 1)) = ending then line.dropLast else line
            cs.map String.ofList
          effect.andThen fun files => .say files (String.join (parts.map fun (_, text) =>
            String.join ((linesIn text).filterMap fun l => (line l).map (· ++ ending))))

/-- What is put between columns, in turn. -/
def delimitersOf : List Char → Option (List String)
  | [] => some []
  | '\\' :: c :: rest =>
    let meaning := ([('n', "\n"), ('t', "\t"), ('b', "\x08"), ('f', "\x0c"), ('r', "\r"),
      ('v', "\x0b"), ('0', ""), ('\\', "\\")].lookup c).getD c.toString
    (delimitersOf rest).map (meaning :: ·)
  | ['\\'] => none
  | c :: rest => (delimitersOf rest).map (c.toString :: ·)

/-- Texts with delimiters between them. -/
def joinInTurn (delimiters texts : List String) : String :=
  let parts := texts.zipIdx.map fun (text, i) =>
    if i = 0 ∨ delimiters = [] then text
    else delimiters[(i - 1) % delimiters.length]?.getD "" ++ text
  String.join parts

/-- Rows of the lines of several texts, until all of them are at an end. -/
def rowsOf : (fuel : Nat) → List (List String) → List (List String)
  | 0, _ => []
  | fuel + 1, texts =>
    if texts.all (·.isEmpty) then []
    else texts.map (·.headD "") :: rowsOf fuel (texts.map List.tail)

/-- Deals out lines to those who ask for them in turn. -/
def dealt (count : Nat) (lines : List String) : List (List String) :=
  (List.range count).map fun i =>
    lines.zipIdx.filterMap fun (line, k) => if k % count = i then some line else none

/-- Writes lines side by side, or all lines of a text as one. -/
def paste : Utility :=
  Usage.run {
    letters := "d:sz"
    names := [("delimiters", 'd'), ("serial", 's'), ("zero-terminated", 'z')] }
    fun o operands s =>
      let operands := if operands = [] then ["-"] else operands
      let given := (o.value? 'd').getD "\t"
      match delimitersOf given.toList with
      | none =>
        s.refuse s.files s!"delimiter list ends with an unescaped backslash: {given}"
      | some delimiters =>
        let parts := contentsOf s operands
        let fault? := parts.findSome? fun (operand, part) => match part with
          | .error fault => some (operand, fault)
          | .ok _ => none
        match fault?.filter fun _ => !o.has 's' with
        | some (operand, fault) => s.refuse s.files (plainComplaint operand fault)
        | none =>
          let effect : Effect := if o.has 's' then
            .forEach s.files parts fun (operand, part) files => match part with
              | .ok text => .say files (joinInTurn delimiters (bareLinesOf text) ++ "\n")
              | .error fault => s.refuse files (plainComplaint operand fault)
            else
              let hands := dealt (operands.filter isInput).length
                (bareLinesOf (String.ofList s.input))
              let texts := parts.zipIdx.map fun ((operand, part), i) =>
                if isInput operand then
                  (hands[((operands.take i).filter isInput).length]?).getD []
                else bareLinesOf (part.toOption.getD "")
              let count := (texts.map List.length).foldl max 0
              .say s.files (joinLines ((rowsOf count texts).map (joinInTurn delimiters)))
          { effect with taken := takenBy s operands }

/-- Breaks a line before it gets too wide. What has been read of it and not been written is given in
reverse, with its width; it may be broken behind blanks only. -/
def broken (width : Nat) (atBlanks countsOctets : Bool) :
    (fuel : Nat) → List Char → Nat → List Char → List Char
  | 0, line, _, rest => line.reverse ++ rest
  | _ + 1, line, _, [] => line.reverse
  | fuel + 1, line, column, c :: rest =>
    let next := advance column c
    if next ≤ width then broken width atBlanks countsOctets fuel (c :: line) next rest
    else
      let kept := line.takeWhile fun c => c ≠ ' ' && c ≠ '\t'
      if atBlanks ∧ kept.length < line.length then
        (line.drop kept.length).reverse ++
          '\n' :: broken width atBlanks countsOctets fuel kept
            (kept.reverse.foldl advance 0) (c :: rest)
      else if line = [] then broken width atBlanks countsOctets fuel [c] next rest
      else line.reverse ++ '\n' :: broken width atBlanks countsOctets fuel [] 0 (c :: rest)
where
  /-- The column behind a character. -/
  advance (column : Nat) (c : Char) : Nat :=
    if countsOctets then column + 1
    else if c = '\x08' then column - 1
    else if c = '\r' then 0
    else if c = '\t' then column + 8 - column % 8
    else column + 1

/-- Breaks lines that are too wide. -/
def fold : Utility := fun arguments s =>
  let arguments := arguments.map fun a =>
    match a.toList with
    | '-' :: d :: digits =>
      if (d :: digits).all Char.isDigit then "-w" ++ String.ofList (d :: digits) else a
    | _ => a
  Usage.run {
    letters := "bsw:"
    names := [("bytes", 'b'), ("spaces", 's'), ("width", 'w')] } (fun o operands s =>
    let width := (o.value? 'w').getD "80"
    match count? width with
    | none => s.refuse s.files s!"invalid number of columns: {quoted width}"
    | some 0 =>
      s.refuse s.files s!"invalid number of columns: {quoted width}: Numerical result out of range"
    | some n =>
      let line := fun (line : List Char) =>
        let body := bareLine line
        broken n (o.has 's') (o.has 'b') (3 * body.length + 3) [] 0 body
          ++ if line.getLast? = some '\n' then ['\n'] else []
      let (parts, effect) := gather plainComplaint operands s
      effect.andThen fun files => .say files (String.join (parts.map fun (_, text) =>
        String.ofList ((linesOf text.toList).flatMap line)))) arguments s

/-- How numbers of lines are written. -/
def numberCell (format : String) (width : Nat) (n : Int) : String :=
  let digits := toString n
  let room := width - digits.length
  if format = "ln" then digits ++ String.ofList (List.replicate room ' ')
  else if format = "rz" then
    (if n < 0 then "-" else "") ++ String.ofList (List.replicate room '0') ++ toString n.natAbs
  else padLeft width digits

/-- Numbers lines; the numbers start again where a new page does. -/
def nl : Utility :=
  Usage.run {
    letters := "b:f:h:w:s:v:i:n:l:pd:"
    names := [("body-numbering", 'b'), ("number-width", 'w'), ("number-separator", 's'),
      ("starting-line-number", 'v'), ("line-increment", 'i'), ("number-format", 'n')] }
    fun o operands s =>
      let styles := [('h', "header", "n"), ('b', "body", "t"), ('f', "footer", "n")]
      let bad := styles.findSome? fun (c, name, _) => (o.value? c).bind fun style =>
        if ["a", "t", "n"].contains style then none
        else some s!"invalid {name} numbering style: {quoted style}"
      let width := (o.value? 'w').getD "6"
      let start := (o.value? 'v').getD "1"
      let step := (o.value? 'i').getD "1"
      let format := (o.value? 'n').getD "rn"
      match bad, count? width, decimal? start, decimal? step with
      | some complaint, _, _, _ => s.misuse complaint
      | none, none, _, _ => s.refuse s.files s!"invalid line number field width: {quoted width}"
      | none, some 0, _, _ => s.refuse s.files
        s!"invalid line number field width: {quoted width}: Numerical result out of range"
      | none, _, none, _ => s.refuse s.files s!"invalid starting line number: {quoted start}"
      | none, _, _, none => s.refuse s.files s!"invalid line number increment: {quoted step}"
      | none, some width, some start, some step =>
        if !(["ln", "rn", "rz"].contains format) then
          s.misuse s!"invalid line numbering format: {quoted format}"
        else
          let separator := (o.value? 's').getD "\t"
          let (parts, effect) := gather plainComplaint operands s
          let row : (String × Char × Int) → String → (String × Char × Int)
            | (text, page, n), line =>
              match line with
              | "\\:\\:\\:" => (text ++ "\n", 'h', if o.has 'p' then n else start)
              | "\\:\\:" => (text ++ "\n", 'b', if o.has 'p' then n else start)
              | "\\:" => (text ++ "\n", 'f', if o.has 'p' then n else start)
              | line =>
                let usual := ((styles.lookup page).map (·.2)).getD "n"
                let style := (o.value? page).getD usual
                if style = "a" ∨ (style = "t" ∧ line ≠ "") then
                  (text ++ numberCell format width n ++ separator ++ line ++ "\n", page,
                    n + step)
                else
                  let room := String.ofList (List.replicate (width + separator.length) ' ')
                  (text ++ room ++ line ++ "\n", page, n)
          let lines := parts.flatMap fun (_, text) => bareLinesOf text
          let (text, _) := lines.foldl row ("", 'b', start)
          effect.andThen fun files => .say files text

end ContestJudge.Shell.Utility
