import ContestJudge.Shell.Escape
import ContestJudge.Shell.Pattern
import ContestJudge.Shell.Utility.Basic

/-!
# Characters

The utility that replaces characters, leaves them out, or leaves one of equal neighbours. Two texts
describe sets of characters in an order.
-/

namespace ContestJudge.Shell.Utility

/-- A part of the description of a set. -/
inductive Members where
  /-- A character. -/
  | one (c : Char)
  /-- The characters from one to another. -/
  | range (first last : Char)
  /-- The characters of a class. -/
  | named (name : String)
  /-- A character that is repeated; without a number, as often as is needed. -/
  | repeated (c : Char) (count : Option Nat)
  deriving DecidableEq, Repr

/-- All octets. -/
def allOctets : List Char := (List.range 256).map Char.ofNat

/-- The characters of a part, where a repetition that is not counted gives so many. -/
def Members.expand (room : Nat) : Members → List Char
  | one c => [c]
  | range first last =>
    (List.range (last.toNat + 1 - first.toNat)).map fun n => Char.ofNat (first.toNat + n)
  | named name => allOctets.filter (isInClass name)
  | repeated c count => List.replicate (count.getD room) c

/-- The characters of a description; those that a backslash made are marked. -/
def marked : (fuel : Nat) → List Char → List (Char × Bool) × Bool
  | 0, _ => ([], false)
  | _ + 1, [] => ([], false)
  | _ + 1, ['\\'] => ([('\\', false)], true)
  | fuel + 1, '\\' :: c :: rest =>
    let (new, rest) := match splitEscape false (c :: rest) with
      | some (new, after) =>
        if c.isDigit then
          let (n, after) := (splitFew 8 3 (c :: rest)).getD (0, rest)
          if n < 256 then (Char.ofNat n, after)
          else
            let (n, after) := (splitFew 8 2 (c :: rest)).getD (0, rest)
            (Char.ofNat n, after)
        else (new, after)
      | none => (c, rest)
    let (more, ends) := marked fuel rest
    ((new, true) :: more, ends)
  | fuel + 1, c :: rest =>
    let (more, ends) := marked fuel rest
    ((c, false) :: more, ends)

/-- The characters up to two that follow each other and were not made by backslashes. -/
def splitUntil (a b : Char) : List (Char × Bool) → Option (List Char × List (Char × Bool))
  | (c, m) :: (d, n) :: rest =>
    if c = a ∧ d = b ∧ !m ∧ !n then some ([], rest)
    else (splitUntil a b ((d, n) :: rest)).map fun (cs, rest) => (c :: cs, rest)
  | _ => none

/-- Reads what an opening bracket begins, from behind it on, if it begins anything. -/
def bracketed? (cs : List (Char × Bool)) : Except String (Option (Members × List (Char × Bool))) :=
  match cs with
  | (':', false) :: rest =>
    match splitUntil ':' ']' rest with
    | some (name, after) =>
      let name := String.ofList name
      if name = "" then .error "missing character class name '[::]'"
      else if characterClasses.contains name then .ok (some (.named name, after))
      else if isStarred rest then .ok (starred cs)
      else .error s!"invalid character class {quoted name}"
    | none => .ok (starred cs)
  | ('=', false) :: rest =>
    match splitUntil '=' ']' rest with
    | some ([], _) => .error "missing equivalence class character '[==]'"
    | some ([c], after) => .ok (some (.one c, after))
    | some (text, _) =>
      if isStarred rest then .ok (starred cs)
      else .error s!"{String.ofList text}: equivalence class operand must be a single character"
    | none => .ok (starred cs)
  | cs =>
    match cs with
    | (_, _) :: ('*', false) :: rest =>
      let count := (rest.takeWhile (·.1 ≠ ']')).map (·.1)
      if rest.all (·.1 ≠ ']') then .ok none
      else if count.all (fun c => (digit? (if count.head? = some '0' then 8 else 10) c).isSome) then
        .ok (starred cs)
      else .error s!"invalid repeat count {quoted (String.ofList count)} in [c*n] construct"
    | _ => .ok none
where
  /-- Whether the first character is repeated. -/
  isStarred : List (Char × Bool) → Bool
    | ('*', false) :: _ => true
    | _ => false
  /-- Reads the repetition of a character. -/
  starred : List (Char × Bool) → Option (Members × List (Char × Bool))
    | (c, _) :: ('*', false) :: rest =>
      let (digits, after) := rest.span (·.1.isDigit)
      let digits := digits.map (·.1)
      match after with
      | (']', _) :: after =>
        let n := (splitDigits (if digits.head? = some '0' then 8 else 10) digits).1
        some (.repeated c (if n = 0 then none else some n), after)
      | _ => none
    | _ => none

/-- Reads the description of a set. -/
def readMembers : (fuel : Nat) → List (Char × Bool) → Except String (List Members)
  | 0, _ => .ok []
  | _ + 1, [] => .ok []
  | fuel + 1, (c, m) :: rest => do
    let special ← if c = '[' ∧ !m then bracketed? rest else pure none
    match special, rest with
    | some (part, after), _ => return part :: (← readMembers fuel after)
    | none, ('-', false) :: (last, _) :: after =>
      if last < c then
        throw s!"range-endpoints of '{shown c}-{shown last}' are in reverse collating sequence order"
      return .range c last :: (← readMembers fuel after)
    | none, rest => return .one c :: (← readMembers fuel rest)
where
  /-- A character as it is shown. -/
  shown (c : Char) : String :=
    if c.toNat < 32 ∨ 126 < c.toNat then
      "\\" ++ String.ofList (List.replicate (3 - (Nat.toDigits 8 c.toNat).length) '0'
        ++ Nat.toDigits 8 c.toNat)
    else c.toString

/-- A set as it was described: its parts, and whether the description ends with a lone backslash. -/
def membersOf (text : String) : Except String (List Members × Bool) := do
  let (cs, ends) := marked (text.length + 1) text.toList
  return (← readMembers (cs.length + 1) cs, ends)

/-- The number of characters of some parts. -/
def memberCount (parts : List Members) : Nat :=
  (parts.map fun part => (part.expand 0).length).foldl (· + ·) 0

/-- The characters of some parts, where a repetition that is not counted fills up what is missing. -/
def expandAll (wanted : Nat) (parts : List Members) : List Char :=
  parts.flatMap (·.expand (wanted - memberCount parts))

/-- The letter case that a part stands for. -/
def Members.case? : Members → Option String
  | named name => if name = "lower" ∨ name = "upper" then some name else none
  | _ => none

/-- Leaves one of equal neighbouring characters of a set. -/
def squeeze (isMember : Char → Bool) : List Char → List Char
  | a :: b :: rest =>
    if a = b ∧ isMember a then squeeze isMember (b :: rest) else a :: squeeze isMember (b :: rest)
  | cs => cs

/-- Where classes of letter cases stand: behind how many characters. -/
def casePlaces (parts : List Members) (wanted : Nat) : List (Nat × String) :=
  let room := wanted - memberCount parts
  (parts.foldl (fun (n, places) part =>
    (n + (part.expand room).length,
      match part.case? with
      | some name => places ++ [(n, name)]
      | none => places)) ((0 : Nat), ([] : List (Nat × String)))).2

/-- What each character of the first set is replaced by. -/
def replacements (complements truncates : Bool) (first second : List Members) :
    Except String (List (Char × Char)) := do
  let sources := expandAll 0 first
  let sources := if complements then allOctets.filter (!sources.contains ·) else sources
  let targets := expandAll sources.length second
  let hasOther := second.any fun part => match part with
    | .named _ => part.case?.isNone
    | _ => false
  if second.any (·.case?.isSome) then
    let here := casePlaces first 0
    if (casePlaces second sources.length).any fun (n, _) => complements || !here.any (·.1 = n) then
      if complements ∧ targets.length < sources.length then pure ()
      else throw "misaligned [:upper:] and/or [:lower:] construct"
  if hasOther then
    throw ("when translating, the only character classes that may appear in\n"
      ++ "string2 are 'upper' and 'lower'")
  let isShort := decide (targets.length < sources.length)
  if isShort ∧ !truncates then
    if targets = [] then throw "when not truncating set1, string2 must be non-empty"
    if (second.getLast?.bind (·.case?)).isSome ∧ (complements ∨ (first.getLast?.bind (·.case?)).isNone)
    then
      throw ("when translating with string1 longer than string2,\n"
        ++ "the latter string must not end with a character class")
  let targets := if truncates then targets
    else targets ++ List.replicate (sources.length - targets.length) (targets.getLast?.getD ' ')
  let pairs := sources.zip targets
  if complements ∧ !first.isEmpty ∧ first.any (fun part => match part with
      | .named _ => true
      | _ => false) ∧ targets.eraseDups.length ≠ 1 then
    throw ("when translating with complemented character classes,\n"
      ++ "string2 must map all characters in the domain to one")
  return pairs

/-- Replaces, deletes or squeezes characters. -/
def tr : Utility :=
  Usage.run {
    letters := "+cCdst"
    names := [("complement", 'c'), ("delete", 'd'), ("squeeze-repeats", 's'),
      ("truncate-set1", 't')]
    isFree := false } fun o operands s =>
    let deletes := o.has 'd'
    let squeezes := o.has 's'
    let least := if deletes = squeezes then 2 else 1
    let most := if deletes ∧ !squeezes then 1 else 2
    let last := operands.getLast?.getD ""
    let missing := fun (reason : String) => s.misuse s!"missing operand after {quoted last}\n{reason}"
    let extra := operands[most]?.getD ""
    if operands = [] then s.misuse "missing operand"
    else if operands.length < least then
      missing (if deletes then
          "Two strings must be given when both deleting and squeezing repeats."
        else "Two strings must be given when translating.")
    else if most < operands.length then
      let hint := if operands.length = 2 then
        "\nOnly one string may be given when deleting without squeezing repeats." else ""
      s.misuse s!"extra operand {quoted extra}{hint}"
    else
      let complements := o.has 'c' || o.has 'C'
      let translates := operands.length = 2 && !deletes
      let cs := s.input
      match membersOf (operands.headD ""), (operands[1]?.map membersOf).getD (.ok ([], false)) with
      | .error complaint, _ => s.refuse s.files complaint
      | _, .error complaint => s.refuse s.files complaint
      | .ok (first, endsA), .ok (second, endsB) =>
        let warnings := Effect.forEach s.files ([endsA, endsB].filter id) fun _ files =>
          s.refuse files "warning: an unescaped backslash at end of string is not portable" 0
        let members := expandAll 0 first
        let isMember := fun c => members.contains c != complements
        let isUncounted := fun part => match part with
          | Members.repeated _ none => true
          | _ => false
        if first.any isUncounted then
          s.refuse s.files "the [c*] repeat construct may not appear in string1"
        else if 1 < (second.filter isUncounted).length then
          s.refuse s.files "only one [c*] repeat construct may appear in string2"
        else if !translates ∧ second.any isUncounted then
          s.refuse s.files "the [c*] construct may appear in string2 only when translating"
        else
          let done : Except String (List Char) := do
            if translates then
              let pairs ← replacements complements (o.has 't') first second
              let table := pairs.reverse
              let cs := cs.map fun c => (table.lookup c).getD c
              let targets := expandAll pairs.length second
              return if squeezes then squeeze (targets.contains ·) cs else cs
            else
              let cs := if deletes then cs.filter (!isMember ·) else cs
              let squeezed := expandAll 0 second
              return if !squeezes then cs
                else squeeze (if deletes then (squeezed.contains ·) else isMember) cs
          match done with
          | .error complaint => s.refuse s.files complaint
          | .ok cs =>
            { warnings.andThen fun files => .say files (String.ofList cs) with
              taken := some s.input.length }

end ContestJudge.Shell.Utility
