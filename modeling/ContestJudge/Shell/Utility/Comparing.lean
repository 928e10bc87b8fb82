import ContestJudge.Decimal.Reading
import ContestJudge.Shell.Utility.Lines

/-!
# Utilities that compare files

One finds the first octets that differ, the other one tells by which lines two files differ. The
lines that both have are as many as there can be; where a change could be told of several equal lines
it is told of the last ones.
-/

namespace ContestJudge.Shell.Utility

open Decimal

/-- Says why the arguments make no sense, and names the utility twice. -/
def misuseTwice (s : Setting) (complaint : String) : Effect :=
  s.refuse s.files s!"{complaint}\n{s.name}: Try '{s.name} --help' for more information." 2

/-- A utility that compares, and that names itself twice when its arguments make no sense. -/
def comparison (u : Usage) (act : Found → List String → Setting → Effect) : Utility :=
  fun arguments s =>
    match u.parse arguments with
    | .ok (found, operands) => act found operands s
    | .error complaint => misuseTwice s complaint

/-- Two files to be compared. -/
structure Compared where
  /-- The name of the first one. -/
  name : String
  /-- The name of the other one. -/
  otherName : String
  /-- What the first one holds. -/
  text : List Char
  /-- What the other one holds. -/
  other : List Char

/-- What two arguments give to read, or the complaints about those that cannot be read. -/
def readBoth (s : Setting) (a b : String) : Except Effect Compared :=
  match contentsOf s [a, b] with
  | [(_, .ok text), (_, .ok other)] => .ok ⟨a, b, text.toList, other.toList⟩
  | parts =>
    .error <| Effect.forEach s.files parts fun (operand, part) files =>
      match part with
      | .ok _ => { files }
      | .error fault => s.refuse files (plainComplaint operand fault) 2

/-- The number of characters that two texts have in common at their start, and of the line breaks
among them. -/
def commonStart : List Char → List Char → Nat × Nat
  | c :: cs, d :: ds =>
    if c = d then
      let (count, breaks) := commonStart cs ds
      (count + 1, if c = '\n' then breaks + 1 else breaks)
    else (0, 0)
  | _, _ => (0, 0)

/-- The options of the utility that compares octets. -/
def cmpUsage : Usage where
  letters := "bi:ln:s"
  names := [("print-bytes", 'b'), ("ignore-initial", 'i'), ("verbose", 'l'), ("bytes", 'n'),
    ("quiet", 's'), ("silent", 's')]

/-- Finds out where two files differ first, or everywhere. -/
def cmp : Utility :=
  comparison cmpUsage fun o operands s =>
    match operands with
    | [] => misuseTwice s s!"missing operand after {quoted s.name}"
    | a :: rest =>
      let b := rest.headD "-"
      let skips := if rest.length < 2 then ((o.value? 'i').map (·.splitOn ":")).getD [] else (rest.drop 1).take 2
      let bad := fun (text : String) => text = "" || !text.all Char.isDigit
      match skips.find? bad, (o.value? 'n').filter bad with
      | some skip, _ => misuseTwice s s!"invalid --ignore-initial value {quoted skip}"
      | none, some count => misuseTwice s s!"invalid --bytes value {quoted count}"
      | none, none =>
        if let some extra := rest[3]? then misuseTwice s s!"extra operand {quoted extra}" else
        match readBoth s a b with
        | .error effect =>
          if o.has 's' then { files := s.files, status := 2 }
          else { effect with said := effect.said.take 1 }
        | .ok both =>
          let skip := fun (i : Nat) => digitsValue ((skips[i]?).getD (skips.getLast?.getD "")).toList
          let within := fun (cs : List Char) => match o.value? 'n' with
            | some count => cs.take (digitsValue count.toList)
            | none => cs
          differences o s { both with
            text := within (both.text.drop (skip 0)), other := within (both.other.drop (skip 1)) }
where
  /-- Tells where two texts differ. -/
  differences (o : Found) (s : Setting) (c : Compared) : Effect :=
    let name := if c.text.length < c.other.length then c.name else c.otherName
    let size := min c.text.length c.other.length
    let (count, breaks) := commonStart c.text c.other
    let isEnd := c.text.length ≠ c.other.length
    let taken := takenBy s [c.name, c.otherName]
    let effect : Effect :=
      if c.text = c.other then { files := s.files }
      else if o.has 's' then { files := s.files, status := 1 }
      else if o.has 'l' then
        let width := (toString (max c.text.length c.other.length)).length
        let rows := (c.text.zip c.other).zipIdx.filterMap fun ((x, y), i) =>
          if x = y then none
          else some s!"{padLeft width (toString (i + 1))} {shown o x true}{shown o y false}\n"
        let effect := { Effect.say s.files (String.join rows) with status := 1 }
        if isEnd then effect.andThen fun files =>
          s.refuse files (if size = 0 then s!"EOF on {name} which is empty"
            else s!"EOF on {name} after byte {size}")
        else effect
      else if count < size then
        let places := s!"{c.name} {c.otherName} differ: "
        let values := if o.has 'b' then
          let x := (c.text[count]?).getD '\x00'
          let y := (c.other[count]?).getD '\x00'
          s!" is {shown o x false} {shown o y false}" else ""
        let unit := if o.has 'b' then "byte" else "char"
        { Effect.say s.files s!"{places}{unit} {count + 1}, line {breaks + 1}{values}\n" with
          status := 1 }
      else if size = 0 then s.refuse s.files s!"EOF on {name} which is empty"
      else
        let isWhole := (c.text.take size).getLast? = some '\n'
        let line := if isWhole then s!"line {breaks}" else s!"in line {breaks + 1}"
        s.refuse s.files s!"EOF on {name} after byte {size}, {line}"
    { effect with taken }
  /-- An octet in octal, with its character if that is asked for. -/
  shown (o : Found) (c : Char) (isFirst : Bool) : String :=
    let digits := padLeft 3 (String.ofList (Nat.toDigits 8 c.toNat))
    if !o.has 'b' then digits ++ if isFirst then " " else ""
    else
      let text := visible c
      digits ++ " " ++ if isFirst then padRight text else text
  /-- Fills a character up to the width of the widest one. -/
  padRight (text : String) : String :=
    text ++ String.ofList (List.replicate (5 - text.length) ' ')
  /-- A character as it can be seen. -/
  visible (c : Char) : String :=
    let n := c.toNat
    let low := n % 128
    (if 128 ≤ n then "M-" else "") ++
      (if low < 32 then "^" ++ (Char.ofNat (low + 64)).toString
        else if low = 127 then "^?" else (Char.ofNat low).toString)

/-- A change between two lists of lines: how many are the same before it, how many lines it takes
away, and which ones it brings. -/
structure Change where
  /-- Where the lines that are taken away begin. -/
  first : Nat
  /-- The lines that are taken away. -/
  old : List String
  /-- Where the new lines begin in the other list. -/
  otherFirst : Nat
  /-- The new lines. -/
  new : List String
  deriving Repr

/-- For each end of a list the most elements that it has in common, in order, with each end of
another one, where the ends of the other list are those from some place on. -/
def commonCounts (same : String → String → Bool) (as bs : Array String) : Array (Array Nat) :=
  let last := Array.replicate (bs.size + 1) 0
  let rows := as.foldr (fun a (rows : List (Array Nat)) =>
    let below := rows.headD last
    let row := (List.range bs.size).reverse.foldl (fun (row : List Nat) j =>
      let b := (bs[j]?).getD ""
      (if same a b then (below[j + 1]?).getD 0 + 1
        else max ((below[j]?).getD 0) (row.headD 0)) :: row) [0]
    row.toArray :: rows) [last]
  rows.toArray

/-- Which lines of two lists stay: the flags of the first and of the other list. -/
def keptLines (same : String → String → Bool) (as bs : Array String) :
    List Bool × List Bool :=
  let counts := commonCounts same as bs
  let count := fun (i j : Nat) => ((counts[i]?).bind (·[j]?)).getD 0
  go count (as.size + bs.size) 0 0
where
  /-- The flags from some places on. -/
  go (count : Nat → Nat → Nat) : Nat → Nat → Nat → List Bool × List Bool
    | 0, _, _ => ([], [])
    | fuel + 1, i, j =>
      match as[i]?, bs[j]? with
      | some a, some b =>
        if same a b then add true true (go count fuel (i + 1) (j + 1))
        else if count i (j + 1) ≤ count (i + 1) j then addOld (go count fuel (i + 1) j)
        else addNew (go count fuel i (j + 1))
      | some _, none => addOld (go count fuel (i + 1) j)
      | none, some _ => addNew (go count fuel i (j + 1))
      | none, none => ([], [])
  /-- Puts flags in front. -/
  add (a b : Bool) (flags : List Bool × List Bool) : List Bool × List Bool :=
    (a :: flags.1, b :: flags.2)
  /-- Puts a line of the first list in front that does not stay. -/
  addOld (flags : List Bool × List Bool) : List Bool × List Bool := (false :: flags.1, flags.2)
  /-- Puts a line of the other list in front that does not stay. -/
  addNew (flags : List Bool × List Bool) : List Bool × List Bool := (flags.1, false :: flags.2)

/-- The changes between two lists, from flags that tell which lines stay. -/
def changes : (fuel : Nat) → Nat → Nat → List (String × Bool) → List (String × Bool) → List Change
  | 0, _, _, _, _ => []
  | fuel + 1, i, j, as, bs =>
    match as, bs with
    | [], [] => []
    | (_, true) :: as, (_, true) :: bs => changes fuel (i + 1) (j + 1) as bs
    | as, bs =>
      let (old, as) := as.span (!·.2)
      let (new, bs) := bs.span (!·.2)
      ⟨i, old.map (·.1), j, new.map (·.1)⟩ ::
        changes fuel (i + old.length) (j + new.length) as bs

/-- Moves a change that only takes away or only brings lines behind lines that stay, as far as those
are the same as its own first ones. -/
def slide (same : String → String → Bool) (as bs : Array String) (limit : Nat) (c : Change) :
    Change :=
  go limit c
where
  /-- Moves a change by at most so many lines. -/
  go : Nat → Change → Change
    | 0, c => c
    | fuel + 1, c =>
      match c.old, c.new with
      | line :: old, [] =>
        match as[c.first + c.old.length]? with
        | some next =>
          if same line next then go fuel ⟨c.first + 1, old ++ [next], c.otherFirst + 1, []⟩ else c
        | none => c
      | [], line :: new =>
        match bs[c.otherFirst + c.new.length]? with
        | some next =>
          if same line next then go fuel ⟨c.first + 1, [], c.otherFirst + 1, new ++ [next]⟩ else c
        | none => c
      | _, _ => c

/-- The changes between two lists of lines. -/
def changesBetween (same : String → String → Bool) (as bs : List String) : List Change :=
  let start := ((as.zip bs).takeWhile fun (a, b) => same a b).length
  let as' := as.drop start
  let bs' := bs.drop start
  let finish := ((as'.reverse.zip bs'.reverse).takeWhile fun (a, b) => same a b).length
  let middle := as'.take (as'.length - finish)
  let otherMiddle := bs'.take (bs'.length - finish)
  let (kept, otherKept) := keptLines same middle.toArray otherMiddle.toArray
  let found := changes (middle.length + otherMiddle.length + 1) start start (middle.zip kept)
    (otherMiddle.zip otherKept)
  let ends := (found.drop 1).map (·.first) ++ [as.length]
  (found.zip ends).map fun (c, last) =>
    slide same as.toArray bs.toArray (last - c.first - c.old.length) c

/-- A line behind a mark, with a note if it has no end. -/
def markedLine (mark line : String) : String :=
  if line.endsWith "\n" then mark ++ line
  else s!"{mark}{line}\n\\ No newline at end of file\n"

/-- A change as it is usually told. -/
def Change.plain (c : Change) : String :=
  let span := fun (first count : Nat) =>
    if count ≤ 1 then toString (first + count) else s!"{first + 1},{first + count}"
  let letter := if c.old = [] then "a" else if c.new = [] then "d" else "c"
  let head := s!"{span c.first c.old.length}{letter}{span c.otherFirst c.new.length}\n"
  let between := if c.old = [] ∨ c.new = [] then "" else "---\n"
  head ++ String.join (c.old.map (markedLine "< ")) ++ between ++
    String.join (c.new.map (markedLine "> "))

/-- Changes that are so near to each other that what is around them is told together. -/
def together (around : Nat) : List Change → List (List Change)
  | [] => []
  | c :: rest =>
    match together around rest with
    | (next :: more) :: groups =>
      if next.first ≤ c.first + c.old.length + 2 * around then (c :: next :: more) :: groups
      else [c] :: (next :: more) :: groups
    | groups => [c] :: groups

/-- Some changes with the lines around them. -/
def around (count : Nat) (as : Array String) (otherSize : Nat) (group : List Change) : String :=
  match group, group.getLast? with
  | c :: _, some last =>
    let before := min count c.first
    let start := c.first - before
    let stop := min as.size (last.first + last.old.length + count)
    let otherStart := c.otherFirst - before
    let otherStop := min otherSize (last.otherFirst + last.new.length + count)
    let span := fun (start stop : Nat) =>
      if stop - start = 1 then toString (start + 1)
      else s!"{if stop = start then start else start + 1},{stop - start}"
    let context := fun (first last : Nat) =>
      String.join ((as.extract first last).toList.map (markedLine " "))
    let (body, now) := group.foldl (fun (body, now) change =>
      (body ++ context now change.first ++ String.join (change.old.map (markedLine "-")) ++
        String.join (change.new.map (markedLine "+")), change.first + change.old.length)) ("", start)
    s!"@@ -{span start stop} +{span otherStart otherStop} @@\n" ++ body ++ context now stop
  | _, _ => ""

/-- The options of the utility that compares lines. -/
def diffUsage : Usage where
  letters := "abBiqsuU:w"
  names := [("text", 'a'), ("ignore-space-change", 'b'), ("ignore-blank-lines", 'B'),
    ("ignore-case", 'i'), ("brief", 'q'), ("report-identical-files", 's'), ("unified", 'u'),
    ("ignore-all-space", 'w')]

/-- What of a line counts. -/
def diffKey (o : Found) (line : String) : List Char :=
  let cs := if o.has 'i' then line.toList.map Char.toLower else line.toList
  if o.has 'w' then cs.filter (!isSpace ·)
  else if o.has 'b' then squeeze (bareLine cs)
  else cs
where
  /-- Makes one blank of several, and none at the end. -/
  squeeze : List Char → List Char
    | [] => []
    | c :: rest =>
      let rest := squeeze rest
      if isSpace c then
        match rest with
        | [] => []
        | d :: _ => if d = ' ' then rest else ' ' :: rest
      else c :: rest

/-- Tells by which lines two files differ. -/
def diff : Utility :=
  comparison diffUsage fun o operands s =>
    match operands with
    | [] => misuseTwice s s!"missing operand after {quoted s.name}"
    | [only] => misuseTwice s s!"missing operand after {quoted only}"
    | _ :: _ :: extra :: _ => misuseTwice s s!"extra operand {quoted extra}"
    | [a, b] =>
      let isDirectory := fun (operand : String) =>
        !isInput operand && (s.files.find (pathOf operand)).toOption.any (·.2 = .directory)
      let below := fun (directory file : String) =>
        directory ++ "/" ++ ((file.splitOn "/").getLast?.getD "")
      let (a, b) := if isDirectory a ∧ !isDirectory b then (below a b, b)
        else if isDirectory b ∧ !isDirectory a then (a, below b a) else (a, b)
      match readBoth s a b with
      | .error effect => effect
      | .ok both => { told o s both with taken := takenBy s [a, b] }
where
  /-- Tells how two texts differ. -/
  told (o : Found) (s : Setting) (c : Compared) : Effect :=
    let lines := (linesOf c.text).map String.ofList
    let others := (linesOf c.other).map String.ofList
    let same := fun a b => diffKey o a == diffKey o b
    let all := changesBetween same lines others
    let isBlank := fun (line : String) => diffKey o line = ['\n'] || diffKey o line = []
    let counts := if o.has 'B' then
        all.filter fun change => !(change.old ++ change.new).all isBlank
      else all
    if counts = [] then
      .say s.files (if o.has 's' then s!"Files {c.name} and {c.otherName} are identical\n" else "")
    else
      let text :=
        if o.has 'q' then s!"Files {c.name} and {c.otherName} differ\n"
        else if o.has 'u' ∨ o.has 'U' then
          let count := ((o.value? 'U').map (digitsValue ·.toList)).getD 3
          let groups := together count counts
          s!"--- {c.name}\n+++ {c.otherName}\n" ++
            String.join (groups.map (around count lines.toArray others.length))
        else String.join (counts.map Change.plain)
      { Effect.say s.files text with status := 1 }

end ContestJudge.Shell.Utility
