import ContestJudge.Shell.Numeral
import ContestJudge.Shell.Pattern
import ContestJudge.Shell.Utility.Repeats

/-!
# Sorting

The utility that sorts lines. Each key names a part of a line and how that is compared; lines whose
keys are all equal are compared as a whole, unless their order is to be kept.
-/

namespace ContestJudge.Shell.Utility

/-- How parts of lines are compared. -/
structure SortRule where
  /-- Whether blanks in front of the start do not count. -/
  skipsBefore : Bool := false
  /-- Whether blanks in front of the end do not count. -/
  skipsBehind : Bool := false
  /-- The letters of the other options. -/
  letters : List Char := []
  deriving DecidableEq, Repr

namespace SortRule

/-- Whether an option was given. -/
def has (r : SortRule) (c : Char) : Bool := r.letters.contains c

/-- Whether parts are compared in the usual way, apart from the direction. -/
def isUsual (r : SortRule) : Bool :=
  !r.skipsBefore && !r.skipsBehind && r.letters.all (· = 'r')

/-- The letters that exclude each other. -/
def exclusive : List Char := ['g', 'h', 'M', 'n', 'R', 'V']

/-- The letters of a rule that contradicts itself. -/
def conflict? (r : SortRule) : Option String :=
  let ways := (exclusive.filter r.has).length + if r.has 'd' ∨ r.has 'i' then 1 else 0
  let ways := if r.has 'R' ∧ r.has 'V' then ways - 1 else ways
  if ways ≤ 1 then none
  else
    let shown := "dfghiMnRV".toList.filter fun c => r.has c && !(c = 'i' && r.has 'd')
    some s!"options '-{String.ofList shown}' are incompatible"

end SortRule

/-- A part of a line and how it is compared. -/
structure SortKey where
  /-- The fields and the characters before the start; without them it starts where the line does. -/
  start : Option (Nat × Nat) := none
  /-- The fields before the last one, and its characters that count, or zero for all of them. -/
  stop : Option (Nat × Nat) := none
  /-- How it is compared. -/
  rule : SortRule := {}
  deriving DecidableEq, Repr

/-- Whether a character stands between fields that nothing else separates. -/
def isSortBlank (c : Char) : Bool := c = ' ' || c = '\t' || c = '\n'

/-- A line without its first fields. A separator ends a field, if there is one; otherwise fields
start with blanks. -/
def behindFields (separator : Option Char) (keepsLast : Bool) : Nat → List Char → List Char
  | 0, cs => cs
  | n + 1, cs =>
    match separator with
    | none => behindFields separator keepsLast n
        ((cs.dropWhile isSortBlank).dropWhile (!isSortBlank ·))
    | some d =>
      let rest := cs.dropWhile (· ≠ d)
      behindFields separator keepsLast n (if keepsLast ∧ n = 0 then rest else rest.drop 1)

/-- The part of a line that a key names. -/
def SortKey.part (separator : Option Char) (key : SortKey) (line : List Char) : List Char :=
  let from? := fun skips (cs : List Char) => if skips then cs.dropWhile isSortBlank else cs
  let start := match key.start with
    | none => from? key.rule.skipsBefore line
    | some (fields, chars) =>
      (from? key.rule.skipsBefore (behindFields separator false fields line)).drop chars
  match key.stop with
  | none => start
  | some (fields, chars) =>
    let rest :=
      if chars = 0 then behindFields separator true (fields + 1) line
      else (from? key.rule.skipsBehind (behindFields separator false fields line)).drop chars
    start.take (start.length - rest.length)

/-- Goes on comparing only if that has not told a difference. -/
def orElseCompare (first : Ordering) (next : Unit → Ordering) : Ordering :=
  match first with
  | .eq => next ()
  | other => other

/-- Compares lists from their starts on. -/
def compareLists {α : Type} (compare : α → α → Ordering) : List α → List α → Ordering
  | [], [] => .eq
  | [], _ :: _ => .lt
  | _ :: _, [] => .gt
  | a :: as, b :: bs => orElseCompare (compare a b) fun () => compareLists compare as bs

/-- Compares octets. -/
def compareOctets : List Char → List Char → Ordering := compareLists fun a b => compare a b

/-- A decimal number at the start of a text, in order of its size: the sign, the whole part and the
digits behind the point. -/
structure Numeral where
  /-- Whether it is less than zero. -/
  isNegative : Bool
  /-- The part before the point. -/
  whole : Nat
  /-- The digits behind the point. -/
  fraction : List Char
  deriving DecidableEq, Repr

/-- Reads a decimal number at the start of a text; anything else counts as zero. -/
def Numeral.read (cs : List Char) : Numeral × List Char :=
  let cs := cs.dropWhile isSortBlank
  let (minus, cs) := match cs with
    | '-' :: rest => (true, rest)
    | cs => (false, cs)
  let (digits, rest) := cs.span Char.isDigit
  let (fraction, rest) := match rest with
    | '.' :: rest => rest.span Char.isDigit
    | rest => ([], rest)
  let whole := (splitDigits 10 digits).1
  let fraction := (fraction.reverse.dropWhile (· = '0')).reverse
  (⟨minus && (whole ≠ 0 || fraction ≠ []), whole, fraction⟩, rest)

/-- Compares numbers. -/
def Numeral.compare (a b : Numeral) : Ordering :=
  let size := fun a b : Numeral => orElseCompare (Ord.compare a.whole b.whole) fun () =>
    compareOctets a.fraction b.fraction
  match a.isNegative, b.isNegative with
  | false, false => size a b
  | true, true => size b a
  | true, false => .lt
  | false, true => .gt

/-- How large the unit behind a number is; a number below zero has a unit below zero. -/
def unitOrder (cs : List Char) : Int :=
  let (n, rest) := Numeral.read cs
  let units := "KMGTPEZYRQ".toList
  let unit := match rest with
    | 'k' :: _ => 1
    | c :: _ => if units.contains c then units.idxOf c + 1 else 0
    | [] => 0
  if n.whole = 0 ∧ n.fraction = [] then 0 else if n.isNegative then -(unit : Int) else unit

/-- The number of a month, by the first three letters of its name; zero if there is none. -/
def monthOrder (cs : List Char) : Nat :=
  let name := String.ofList (((cs.dropWhile isSortBlank).take 3).map Char.toUpper)
  let months := ["JAN", "FEB", "MAR", "APR", "MAY", "JUN", "JUL", "AUG", "SEP", "OCT", "NOV", "DEC"]
  if months.contains name then months.idxOf name + 1 else 0

/-- What a text means as a real number: none at all comes first, then what is not a number. -/
def realOrder (cs : List Char) : Nat × Bool × RealNumber :=
  match splitReal? .extended cs with
  | none => (0, false, .notANumber)
  | some { number := .notANumber, .. } => (1, false, .notANumber)
  | some r => (2, r.isNegative, r.number)

/-- Compares what texts mean as real numbers. -/
def compareReals (a b : List Char) : Ordering :=
  let (kindA, negativeA, a) := realOrder a
  let (kindB, negativeB, b) := realOrder b
  orElseCompare (compare kindA kindB) fun () =>
    let size := fun a b => match a, b with
      | RealNumber.finite a, .finite b =>
        compare (a.numerator * b.denominator) (b.numerator * a.denominator)
      | .finite _, .infinite => .lt
      | .infinite, .finite _ => .gt
      | _, _ => .eq
    let isZero := fun n => match n with
      | RealNumber.finite r => r.numerator = 0
      | _ => false
    match negativeA && !isZero a, negativeB && !isZero b with
    | false, false => size a b
    | true, true => size b a
    | true, false => .lt
    | false, true => .gt

/-- The rank of a character that is no digit in a version; nothing comes after a tilde and before
all else. -/
def versionRank : Option Char → Int
  | none => -1
  | some c =>
    if c.isDigit then 0
    else if c.isAlpha then c.toNat
    else if c = '~' then -2
    else c.toNat + 256

/-- Compares the parts of versions: texts, and numbers between them. -/
def compareVersionParts : (fuel : Nat) → List Char → List Char → Ordering
  | 0, _, _ => .eq
  | _ + 1, [], [] => .eq
  | fuel + 1, as, bs =>
    let isText := fun (cs : List Char) => cs.head?.any (!·.isDigit)
    if isText as ∨ isText bs then
      orElseCompare (compare (versionRank as.head?) (versionRank bs.head?)) fun () =>
        compareVersionParts fuel (as.drop 1) (bs.drop 1)
    else
      let (digitsA, restA) := (as.dropWhile (· = '0')).span Char.isDigit
      let (digitsB, restB) := (bs.dropWhile (· = '0')).span Char.isDigit
      orElseCompare (compare digitsA.length digitsB.length) fun () =>
        orElseCompare (compareOctets digitsA digitsB) fun () =>
          compareVersionParts fuel restA restB

/-- A text without the endings that tell kinds of files. -/
def withoutEndings : (fuel : Nat) → List Char → List Char
  | 0, cs => cs
  | fuel + 1, cs =>
    let back := cs.reverse
    let isMark := fun (c : Char) => c.isAlphanum || c = '~'
    let (ending, rest) := back.span isMark
    match rest, ending.getLast? with
    | '.' :: rest, some c =>
      if c.isDigit ∨ rest = [] then cs else withoutEndings fuel rest.reverse
    | _, _ => cs

/-- Compares versions. -/
def compareVersions (a b : List Char) : Ordering :=
  let parts := fun a b => compareVersionParts (List.length a + List.length b + 1) a b
  let dots := fun (cs : List Char) =>
    if cs = ['.'] then 0 else if cs = ['.', '.'] then 1
    else if cs.head? = some '.' then 2 else 3
  orElseCompare (compare (decide (a ≠ [])) (decide (b ≠ []))) fun () =>
    orElseCompare (compare (dots a) (dots b)) fun () =>
      if dots a < 2 then .eq
      else orElseCompare (parts (withoutEndings a.length a) (withoutEndings b.length b)) fun () =>
        parts a b

/-- Compares two parts of lines. -/
def SortRule.compare (r : SortRule) (a b : List Char) : Ordering :=
  let shown := fun (cs : List Char) =>
    let cs := if r.has 'd' then cs.filter fun c => c.isAlphanum || isSortBlank c
      else if r.has 'i' then cs.filter fun c => 32 ≤ c.toNat && c.toNat < 127
      else cs
    if r.has 'f' then cs.map Char.toUpper else cs
  let (a, b) := (shown a, shown b)
  let order :=
    if r.has 'n' then (Numeral.read a).1.compare (Numeral.read b).1
    else if r.has 'g' then compareReals a b
    else if r.has 'h' then
      orElseCompare (Ord.compare (unitOrder a) (unitOrder b)) fun () =>
        (Numeral.read a).1.compare (Numeral.read b).1
    else if r.has 'M' then Ord.compare (monthOrder a) (monthOrder b)
    else if r.has 'V' then compareVersions a b
    else compareOctets a b
  if r.has 'r' then order.swap else order

/-- Everything that tells the order of lines. -/
structure Sorting where
  /-- The keys. -/
  keys : List SortKey
  /-- What separates fields. -/
  separator : Option Char
  /-- Whether lines whose keys are equal count as equal. -/
  isFinal : Bool
  /-- Whether lines that are compared as a whole come in reverse order. -/
  isReversed : Bool

/-- Compares two lines. -/
def Sorting.compare (s : Sorting) (a b : List Char) : Ordering :=
  let byKeys := s.keys.foldl (fun order key => orElseCompare order fun () =>
    key.rule.compare (key.part s.separator a) (key.part s.separator b)) .eq
  orElseCompare byKeys fun () =>
    if s.isFinal ∧ s.keys ≠ [] then .eq
    else if s.isReversed then compareOctets b a else compareOctets a b

/-- Reads a count in the description of a key. -/
def readSortCount (reason : String) (cs : List Char) : Except String (Nat × List Char) :=
  let (digits, rest) := cs.span Char.isDigit
  if digits = [] then .error s!"{reason}: invalid count at start of {quoted (String.ofList cs)}"
  else .ok ((splitDigits 10 digits).1, rest)

/-- Reads the letters behind a position. -/
def readSortLetters (atStart atEnd : Bool) (rule : SortRule) : List Char → SortRule × List Char
  | [] => (rule, [])
  | c :: rest =>
    if c = 'b' then
      readSortLetters atStart atEnd { rule with
        skipsBefore := rule.skipsBefore || atStart, skipsBehind := rule.skipsBehind || atEnd } rest
    else if "dfghiMnRrV".toList.contains c then
      readSortLetters atStart atEnd { rule with letters := rule.letters ++ [c] } rest
    else (rule, c :: rest)

/-- Reads a key. -/
def SortKey.parse (text : String) : Except String SortKey := do
  let bad := fun (reason : String) => s!"{reason}: invalid field specification {quoted text}"
  let (field, rest) ← readSortCount "invalid number at field start" text.toList
  if field = 0 then throw (bad "field number is zero")
  let (char, rest) ← match rest with
    | '.' :: rest => readSortCount "invalid number after '.'" rest
    | rest => pure (1, rest)
  if char = 0 then throw (bad "character offset is zero")
  let start := if field = 1 ∧ char = 1 then none else some (field - 1, char - 1)
  let (rule, rest) := readSortLetters true false {} rest
  match rest with
  | [] => return { start, rule }
  | ',' :: rest =>
    let (field, rest) ← readSortCount "invalid number after ','" rest
    if field = 0 then throw (bad "field number is zero")
    let (char, rest) ← match rest with
      | '.' :: rest => readSortCount "invalid number after '.'" rest
      | rest => pure (0, rest)
    let (rule, rest) := readSortLetters false true rule rest
    if rest ≠ [] then throw (bad "stray character in field spec")
    return { start, stop := some (field - 1, char), rule }
  | _ => throw (bad "stray character in field spec")

/-- The options of the utility that sorts, by the letters that compare in another way. -/
def sortWays : List (String × Char) :=
  [("general-numeric", 'g'), ("human-numeric", 'h'), ("month", 'M'), ("numeric", 'n'),
    ("random", 'R'), ("version", 'V')]

/-- What asks for a way of comparing by its name. -/
def sortOption : Char := '\x01'

/-- What asks for checking by the name of a way. -/
def checkOption : Char := '\x02'

/-- What takes an argument that changes nothing. -/
def idleOption : Char := '\x03'

/-- The options of the utility that sorts. -/
def sortUsage : Usage where
  letters := "bcCdfghik:mMno:rRsS:t:T:uVz\x01:\x02?\x03:"
  names := [("ignore-leading-blanks", 'b'), ("check", checkOption), ("dictionary-order", 'd'),
    ("ignore-case", 'f'), ("ignore-nonprinting", 'i'), ("key", 'k'), ("merge", 'm'),
    ("numeric-sort", 'n'), ("general-numeric-sort", 'g'), ("human-numeric-sort", 'h'),
    ("version-sort", 'V'), ("month-sort", 'M'), ("random-sort", 'R'), ("output", 'o'),
    ("reverse", 'r'), ("sort", sortOption), ("stable", 's'), ("buffer-size", 'S'),
    ("field-separator", 't'), ("temporary-directory", 'T'), ("unique", 'u'),
    ("zero-terminated", 'z'), ("parallel", idleOption)]
  status := 2

/-- The character that separates fields. -/
def separatorOf (texts : List String) : Except String (Option Char) := do
  let separators : List Char ← texts.mapM fun text => match text.toList with
    | [] => throw "empty tab"
    | [c] => pure c
    | ['\\', '0'] => pure '\x00'
    | _ => throw s!"multi-character tab {quoted text}"
  match separators.eraseDups with
  | [] => return none
  | [c] => return some c
  | _ => throw "incompatible tabs"

/-- How the options of the utility that sorts want lines to be compared. -/
def sortingOf (o : Found) : Except String Sorting := do
  let keys ← (o.values 'k').mapM SortKey.parse
  let separator ← separatorOf (o.values 't')
  let named := (o.values sortOption).filterMap fun word => sortWays.lookup word
  let common : SortRule := {
    skipsBefore := o.has 'b', skipsBehind := o.has 'b'
    letters := (o.options.map (·.1)).filter "dfghiMnRrV".toList.contains ++ named }
  let keys := keys.map fun key => if key.rule.isUsual && !key.rule.has 'r' then
    { key with rule := common } else key
  let keys := if keys = [] ∧ !common.isUsual then [{ rule := common }] else keys
  for rule in keys.map (·.rule) do
    if let some complaint := rule.conflict? then throw complaint
  return { keys, separator, isFinal := o.has 'u' || o.has 's', isReversed := o.has 'r' }

/-- Merges two lists, taking from the first one as long as that is possible. -/
def mergeLines (precedes : List Char → List Char → Bool) :
    (fuel : Nat) → List (List Char) → List (List Char) → List (List Char)
  | 0, as, bs => as ++ bs
  | _ + 1, [], bs => bs
  | _ + 1, as, [] => as
  | fuel + 1, a :: as, b :: bs =>
    if precedes a b then a :: mergeLines precedes fuel as (b :: bs)
    else b :: mergeLines precedes fuel (a :: as) bs

/-- Leaves the first of neighbours that count as equal. -/
def firstOfEqual (isEqual : List Char → List Char → Bool) (lines : List (List Char)) :
    List (List Char) :=
  (lines.foldl (fun kept line => match kept with
    | last :: _ => if isEqual last line then kept else line :: kept
    | [] => [line]) []).reverse

/-- The first line that is not in order, and its number. -/
def disorder? (isOrdered : List Char → List Char → Bool) : Nat → List (List Char) →
    Option (Nat × List Char)
  | n, a :: b :: rest =>
    if isOrdered a b then disorder? isOrdered (n + 1) (b :: rest) else some (n + 1, b)
  | _, _ => none

/-- Sorts lines. -/
def sort : Utility :=
  sortUsage.run fun o operands s =>
    let ways := sortWays.map fun (name, _) => quoted name
    let isQuiet := fun word => word = "quiet" || word = "silent"
    let checks := o.values checkOption
    let badCheck := checks.find? fun word =>
      !isQuiet word && word ≠ "diagnose-first" && word ≠ ""
    let badWay := (o.values sortOption).find? fun word => (sortWays.lookup word).isNone
    let outputs := (o.values 'o').eraseDups
    match badCheck, badWay, sortingOf o with
    | some word, _, _ => s.misuse (unknownChoice word "--check"
        ["'quiet', 'silent'", "'diagnose-first'"])
    | none, some word, _ => s.misuse (unknownChoice word "--sort" ways)
    | none, none, .error complaint => s.refuse s.files complaint 2
    | none, none, .ok sorting =>
      let operands := if operands = [] then ["-"] else operands
      let isSilent := o.has 'C' || checks.any isQuiet
      let isCheck := o.has 'c' || isSilent || checks ≠ []
      let parts := contentsOf s operands
      let fault? := parts.findSome? fun (operand, part) => match part with
        | .error fault => some (operand, fault)
        | .ok _ => none
      let source := operands.headD "-"
      let extra := operands[1]?.getD ""
      if 1 < outputs.length then s.refuse s.files "multiple output files specified" 2
      else if isCheck ∧ 1 < operands.length then
        let letter := if isSilent then 'C' else 'c'
        s.refuse s.files s!"extra operand {quoted extra} not allowed with -{letter}" 2
      else match fault? with
      | some (operand, .isDirectory) =>
        s.refuse s.files s!"read failed: {operand}: Is a directory" 2
      | some (operand, fault) => s.refuse s.files s!"cannot read: {namedWord operand}: {reason fault}" 2
      | none =>
        let ending := if o.has 'z' then '\x00' else '\n'
        let lists := parts.map fun (_, part) =>
          (unitsOf false (o.has 'z') (part.toOption.getD "")).map fun line =>
            if line.getLast? = some ending then line.dropLast else line
        let precedes := fun a b => sorting.compare a b != .gt
        let isEqual := fun a b => sorting.compare a b == .eq
        let effect : Effect :=
          if isCheck then
            let isOrdered := fun a b => if o.has 'u' then sorting.compare a b == .lt
              else precedes a b
            match disorder? isOrdered 1 lists.flatten with
            | none => { files := s.files }
            | some (n, line) =>
              if isSilent then { files := s.files, status := 1 }
              else s.refuse s.files s!"{source}:{n}: disorder: {String.ofList line}"
          else
            let lines :=
              if o.has 'm' then
                lists.foldl (fun as bs => mergeLines precedes (as.length + bs.length + 1) as bs) []
              else lists.flatten.mergeSort precedes
            let lines := if o.has 'u' then firstOfEqual isEqual lines else lines
            let text := String.ofList (lines.flatMap (· ++ [ending]))
            match outputs with
            | target :: _ =>
              match s.files.writeRaw (pathOf target) (Text.Octets.toBytes text) with
              | .ok files => { files }
              | .error fault => s.refuse s.files s!"open failed: {namedWord target}: {reason fault}" 2
            | [] => .say s.files text
        { effect with taken := takenBy s operands }

end ContestJudge.Shell.Utility
