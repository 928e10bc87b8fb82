import ContestJudge.Shell.Utility.Lines

/-!
# Repeated lines

The utilities that compare neighbouring lines, or the lines of two sorted texts.
-/

namespace ContestJudge.Shell.Utility

/-- Groups of neighbours with the same key. -/
def groupBy {α β : Type} [BEq β] (key : α → β) (values : List α) : List (List α) :=
  ((values.foldl step []).map List.reverse).reverse
where
  /-- Adds a value to groups in reverse. -/
  step (groups : List (List α)) (value : α) : List (List α) :=
    match groups with
    | (last :: others) :: rest =>
      if key last == key value then (value :: last :: others) :: rest
      else [value] :: (last :: others) :: rest
    | groups => [value] :: groups

/-- A line without some of its fields, each of which may start with blanks. -/
def withoutFields : Nat → List Char → List Char
  | 0, cs => cs
  | n + 1, cs =>
    let isBlank := fun c => c = ' ' || c = '\t'
    withoutFields n ((cs.dropWhile isBlank).dropWhile (!isBlank ·))

/-- The complaint about a word that is not among some. -/
def unknownChoice (word option : String) (choices : List String) : String :=
  let rows := choices.map fun choice => s!"\n  - {choice}"
  s!"invalid argument {quoted word} for {quoted option}\nValid arguments are:{String.join rows}"

/-- How groups of repeated lines are kept apart. -/
inductive Apart where
  | not
  | before
  | between
  | behind
  | around
  deriving DecidableEq, Repr

/-- Texts with empty lines between them, or around. -/
def Apart.join (apart : Apart) (texts : List String) : String :=
  let between := if apart = .not then "" else "\n"
  let outside := fun (sides : List Apart) => if texts ≠ [] ∧ sides.contains apart then "\n" else ""
  outside [.before, .around] ++ between.intercalate texts ++ outside [.behind, .around]

/-- The ways to keep all repeated lines apart. -/
def repeatedWays : List (String × Apart) :=
  [("none", .not), ("prepend", .before), ("separate", .between)]

/-- The ways to keep all groups apart. -/
def groupWays : List (String × Apart) :=
  [("prepend", .before), ("append", .behind), ("separate", .between), ("both", .around)]

/-- The way that an option asks for. -/
def wayOf (o : Found) (letter : Char) (name : String) (ways : List (String × Apart))
    (usual : Apart) : Except String (Option Apart) :=
  match o.value? letter with
  | none => .ok none
  | some "" => .ok (some usual)
  | some word =>
    match ways.lookup word with
    | some way => .ok (some way)
    | none => .error (unknownChoice word name (ways.map fun (way, _) => quoted way))

/-- An option that has no letter. -/
def groupOption : Char := '\x01'

/-- The options of the utility that leaves one of equal neighbouring lines. -/
def uniqUsage : Usage where
  letters := "cdD?uif:s:w:z\x01?"
  names := [("count", 'c'), ("repeated", 'd'), ("all-repeated", 'D'), ("unique", 'u'),
    ("ignore-case", 'i'), ("skip-fields", 'f'), ("skip-chars", 's'), ("check-chars", 'w'),
    ("zero-terminated", 'z'), ("group", groupOption)]

/-- What some options make of the groups of equal neighbouring lines. -/
def uniqText (o : Found) (apart grouping : Option Apart) (groups : List (List String)) : String :=
  match grouping, apart with
  | some way, _ => way.join (groups.map joinLines)
  | none, some way =>
    let repeated := groups.filter fun group => 1 < group.length
    way.join (if o.has 'u' then [] else repeated.map joinLines)
  | none, none =>
    let kept := groups.filter fun group =>
      !(o.has 'd' && group.length = 1) && !(o.has 'u' && 1 < group.length)
    joinLines (kept.map fun group =>
      (if o.has 'c' then padLeft 7 (toString group.length) ++ " " else "") ++ group.headD "")

/-- Leaves one of equal neighbouring lines. -/
def uniq : Utility := fun arguments s =>
  let short := fun (a : String) => match a.toList with
    | '-' :: d :: digits =>
      if (d :: digits).all Char.isDigit then some ('f', String.ofList (d :: digits)) else none
    | '+' :: d :: digits =>
      if (d :: digits).all Char.isDigit then some ('s', String.ofList (d :: digits)) else none
    | _ => none
  uniqUsage.run (fun o operands s =>
    let o : Found := ⟨arguments.filterMap short ++ o.options⟩
    let number := fun c what =>
      match o.value? c with
      | none => (.ok none : Except String (Option Nat))
      | some text => match count? text with
        | some n => .ok (some n)
        | none => .error s!"{text}: invalid number of {what}"
    match wayOf o 'D' "--all-repeated" repeatedWays .not,
        wayOf o groupOption "--group" groupWays .between with
    | .error complaint, _ => s.misuse complaint
    | _, .error complaint => s.misuse complaint
    | .ok apart, .ok grouping =>
      match number 'f' "fields to skip", number 's' "bytes to skip",
          number 'w' "bytes to compare" with
      | .error complaint, _, _ => s.refuse s.files complaint
      | _, .error complaint, _ => s.refuse s.files complaint
      | _, _, .error complaint => s.refuse s.files complaint
      | .ok fields, .ok chars, .ok width =>
        if 2 < operands.length then
          let extra := operands[2]?.getD ""
          s.misuse s!"extra operand {quoted extra}"
        else if grouping.isSome ∧ ['c', 'd', 'D', 'u'].any o.has then
          s.misuse "--group is mutually exclusive with -c/-d/-D/-u"
        else if apart.isSome ∧ o.has 'c' then
          s.misuse "printing all duplicated lines and repeat counts is meaningless"
        else
          let source := operands.headD "-"
          match contentOf s source with
          | .error .isDirectory => s.refuse s.files s!"error reading {shellQuoted source}: Is a directory"
          | .error fault => s.refuse s.files (plainComplaint source fault)
          | .ok text =>
            let key := fun (line : String) =>
              let cs := (withoutFields (fields.getD 0) line.toList).drop (chars.getD 0)
              let cs := match width with
                | some n => cs.take n
                | none => cs
              if o.has 'i' then cs.map Char.toLower else cs
            let output := uniqText o apart grouping (groupBy key (bareLinesOf text))
            let effect : Effect := match operands[1]?.filter (· ≠ "-") with
              | none => .say s.files output
              | some target => s.change s.files target
                (s.files.writeRaw (pathOf target) (Text.Octets.toBytes output))
            { effect with taken := takenBy s [source] })
    (arguments.filter fun a => (short a).isNone) s

/-- Compares two sorted lists of lines: each line comes with the column where it belongs. -/
def merged : (fuel : Nat) → List String → List String → List (Nat × String)
  | 0, _, _ => []
  | _ + 1, as, [] => as.map fun a => (0, a)
  | _ + 1, [], bs => bs.map fun b => (1, b)
  | fuel + 1, a :: as, b :: bs =>
    if a = b then (2, a) :: merged fuel as bs
    else if a < b then (0, a) :: merged fuel as (b :: bs)
    else (1, b) :: merged fuel (a :: as) bs

/-- Whether each line is no less than the one before. -/
def isSorted : List String → Bool
  | a :: b :: rest => a ≤ b && isSorted (b :: rest)
  | _ => true

/-- Says which lines two sorted texts have in common. -/
def comm : Utility :=
  Usage.run {
    letters := "123zCNtO:"
    names := [("check-order", 'C'), ("nocheck-order", 'N'), ("total", 't'),
      ("output-delimiter", 'O')] } fun o operands s =>
    match operands with
    | [] => s.misuse "missing operand"
    | [only] => s.misuse s!"missing operand after {quoted only}"
    | _ :: _ :: extra :: _ => s.misuse s!"extra operand {quoted extra}"
    | [a, b] =>
      match contentsOf s [a, b] with
      | [(_, .ok textA), (_, .ok textB)] =>
        let (as, bs) := (bareLinesOf textA, bareLinesOf textB)
        let rows := merged (as.length + bs.length + 1) as bs
        let delimiter := (o.value? 'O').getD "\t"
        let isShown := fun column => !o.has (['1', '2', '3'][column]?.getD '1')
        let start := fun column =>
          String.join (((List.range column).filter isShown).map fun _ => delimiter)
        let shown := rows.filterMap fun (column, line) =>
          if isShown column then some (start column ++ line) else none
        let counted := fun column => toString (rows.filter (·.1 = column)).length
        let total := if o.has 't' then
          [delimiter.intercalate ([0, 1, 2].map counted ++ ["total"])] else []
        let hasLoner := rows.any (·.1 ≠ 2)
        let isBad := fun lines => !o.has 'N' && hasLoner && !isSorted lines
        let effect := Effect.say s.files (joinLines (shown ++ total))
        let effect := effect.andThen fun files =>
          if isBad as then s.refuse files "file 1 is not in sorted order" else { files }
        let effect := effect.andThen fun files =>
          if isBad bs then s.refuse files "file 2 is not in sorted order" else { files }
        let effect := effect.andThen fun files =>
          if isBad as ∨ isBad bs then s.refuse files "input is not in sorted order" else { files }
        { effect with taken := takenBy s [a, b] }
      | parts =>
        let fault? := parts.findSome? fun (operand, part) => match part with
          | .error fault => some (operand, fault)
          | .ok _ => none
        match fault? with
        | some (operand, fault) => s.refuse s.files (plainComplaint operand fault)
        | none => { files := s.files }

end ContestJudge.Shell.Utility
