import ContestJudge.Shell.Regex.Reader
import ContestJudge.Shell.Utility.Files
import ContestJudge.Shell.Utility.Repeats

/-!
# Looking for lines

The utility that writes the lines in which something is found.
-/

namespace ContestJudge.Shell.Utility

open Regex (Style)

/-- An expression together with how it is looked for. -/
structure Wanted where
  /-- The expressions any of which may be found. -/
  regexes : List Regex
  /-- Whether the case of letters does not count. -/
  ignoresCase : Bool
  /-- Whether only whole words count. -/
  wholeWords : Bool
  /-- Whether only whole lines count. -/
  wholeLines : Bool

/-- The first match in a line from some index on; the longest one of those that start there. -/
def Wanted.find? (w : Wanted) (line : List Char) (start : Nat) : Option Regex.Match :=
  let found := w.regexes.filterMap fun regex =>
    let s := regex.search line w.ignoresCase false
    let isWanted := fun first last =>
      if w.wholeLines then first = 0 && last = line.length
      else !w.wholeWords || (!s.hasWordBefore first && !s.hasWord last)
    regex.find? s start isWanted
  found.foldl (fun best m =>
    match best with
    | some (b : Regex.Match) =>
      if m.first < b.first ∨ (m.first = b.first ∧ b.last < m.last) then some m else some b
    | none => some m) none

/-- The parts of a line that match, apart from empty ones, and where they start. -/
def Wanted.parts (w : Wanted) (line : List Char) : (fuel : Nat) → Nat → List (Nat × List Char)
  | 0, _ => []
  | fuel + 1, start =>
    match w.find? line start with
    | none => []
    | some m =>
      if m.first = m.last then parts w line fuel (m.last + 1)
      else (m.first, (line.drop m.first).take (m.last - m.first)) :: parts w line fuel m.last

/-- An option without a letter of its own. -/
def labelOption : Char := '\x01'

/-- The option that names the files to look into. -/
def includeOption : Char := '\x02'

/-- The option that names the files to leave out. -/
def excludeOption : Char := '\x03'

/-- The option that says how matches are shown. -/
def colorOption : Char := '\x04'

/-- The options of the utility that looks for lines. -/
def searchUsage : Usage where
  letters := "EFGPe:f:iywxzsvm:bnHhoqaId:D:rRLlcTZA:B:C:UuX:\x01:\x02:\x03:\x04?\x05"
  names := [("basic-regexp", 'G'), ("extended-regexp", 'E'), ("fixed-regexp", 'F'),
    ("fixed-strings", 'F'), ("perl-regexp", 'P'), ("after-context", 'A'), ("before-context", 'B'),
    ("byte-offset", 'b'), ("context", 'C'), ("color", colorOption), ("colour", colorOption),
    ("count", 'c'), ("exclude", excludeOption), ("file", 'f'), ("files-with-matches", 'l'),
    ("files-without-match", 'L'), ("ignore-case", 'i'), ("include", includeOption),
    ("initial-tab", 'T'), ("label", labelOption), ("line-buffered", '\x05'), ("line-number", 'n'),
    ("line-regexp", 'x'), ("max-count", 'm'), ("no-filename", 'h'), ("no-messages", 's'),
    ("null", 'Z'), ("null-data", 'z'), ("only-matching", 'o'), ("quiet", 'q'), ("recursive", 'r'),
    ("dereference-recursive", 'R'), ("regexp", 'e'), ("invert-match", 'v'), ("silent", 'q'),
    ("text", 'a'), ("with-filename", 'H'), ("word-regexp", 'w')]
  status := 2

/-- The expressions that some texts mean, one a line, and what the user should be warned of. -/
def wantedOf (o : Found) (patterns : List String) :
    Except Regex.Fault (List Regex × List String) := do
  let way := (o.lastOf? ['E', 'F', 'G', 'P']).getD 'G'
  let lines := (patterns.flatMap (·.splitOn "\n")).map String.toList
  if way = 'F' then
    return (lines.map fun line => line.foldr (fun c r => .both (.just c) r) .nothing, [])
  let style : Style := { isExtended := way = 'E' ∨ way = 'P' }
  let read ← lines.mapM (Regex.read style)
  return (read.map (·.regex), read.flatMap (·.warnings))

/-- What is written of a text. -/
structure Report where
  /-- What is written. -/
  text : String := ""
  /-- How many lines were found. -/
  count : Nat := 0

/-- Whether a line is shown, and whether because something was found in it. -/
inductive Shown where
  | found
  | context
  | hidden
  deriving DecidableEq

/-- Writes the lines in which something is found, and those around them. -/
def reportOf (o : Found) (w : Wanted) (name : Option String) (before after : Nat)
    (most : Option Nat) (lines : List (List Char)) : Report :=
  let ending := if o.has 'z' then '\x00' else '\n'
  let bare := lines.map fun line => if line.getLast? = some ending then line.dropLast else line
  let hits := bare.map fun line => (w.find? line 0).isSome != o.has 'v'
  let hits := (hits.foldl (fun (kept, n) hit =>
    if hit && most.all (n < ·) then (true :: kept, n + 1) else (false :: kept, n)) ([], 0)).1.reverse
  let count := (hits.filter id).length
  let places := (hits.zipIdx.filter (·.1)).map (·.2)
  let ends := most.isSome && most = some count
  let stop := if ends then (places.getLast?.map (· + 1 + after)).getD 0 else lines.length
  let kinds := hits.zipIdx.map fun (hit, i) =>
    if hit then Shown.found
    else if stop ≤ i then .hidden
    else if places.any fun k => (i < k && k ≤ i + before) || (k < i && i ≤ k + after) then .context
    else .hidden
  let offsets := (lines.foldl (fun (offsets, n) line => (n :: offsets, n + line.length))
    (([] : List Nat), 0)).1.reverse
  let start := fun (i offset : Nat) (sign : Char) =>
    let mark := if o.has 'Z' then '\x00' else sign
    (match name with
      | some name => name ++ mark.toString
      | none => "")
      ++ (if o.has 'n' then toString (i + 1) ++ sign.toString else "")
      ++ if o.has 'b' then toString offset ++ sign.toString else ""
  let row := fun (i : Nat) (kind : Shown) =>
    let line := bare[i]?.getD []
    let offset := offsets[i]?.getD 0
    match kind with
    | .hidden => ""
    | .context => if o.has 'o' then "" else start i offset '-' ++ String.ofList (line ++ [ending])
    | .found =>
      if o.has 'o' then
        if o.has 'v' then ""
        else String.join ((w.parts line (line.length + 2) 0).map fun (first, part) =>
          start i (offset + first) ':' ++ String.ofList (part ++ [ending]))
      else start i offset ':' ++ String.ofList (line ++ [ending])
  let rows := kinds.zipIdx.foldl (fun (text, last) (kind, i) =>
    if kind = .hidden then (text, last)
    else
      let gap := match last with
        | some k => 0 < before + after && k + 1 < i && !o.has 'o'
        | none => false
      (text ++ (if gap then "--\n" else "") ++ row i kind, some i)) (("", none) : String × Option Nat)
  { text := rows.1, count }

/-- The files at and below a path. -/
def filesBelow (o : Found) (files : FileTree) (path : String) : List String :=
  let matching := fun (pattern name : String) => matchesText (glyphs false pattern) name
  match files.find (pathOf path) with
  | .ok (place, .directory) =>
    let below := placesBelow files (files.entries.length + 1) path place
    (below.filter fun (path, place) => files.get? place |>.any fun entry => match entry with
      | .file .. =>
        let name := baseName path
        let included := o.values includeOption
        (included = [] || included.any (matching · name))
          && !(o.values excludeOption).any (matching · name)
      | _ => false).map (·.1)
  | _ => [path]

/-- Writes the lines in which something is found. -/
def grepAs (always : List (Char × String)) : Utility := fun arguments s =>
  let arguments := arguments.map fun argument => match argument.toList with
    | '-' :: digits =>
      if digits ≠ [] ∧ digits.all Char.isDigit then "-C" ++ String.ofList digits else argument
    | _ => argument
  let hint := "Usage: grep [OPTION]... PATTERNS [FILE]...\nTry 'grep --help' for more information.\n"
  let usage := fun (complaint : String) =>
    ({ files := s.files, said := [(.stderr, complaint ++ hint)], status := 2 } : Effect)
  let refuse := fun (files : FileTree) (complaint : String) =>
    ({ files, said := [(.stderr, s!"grep: {complaint}\n")], status := 2 } : Effect)
  match searchUsage.parse arguments with
  | .error complaint => usage s!"{s.name}: {complaint}\n"
  | .ok (o, operands) =>
    let o : Found := ⟨always ++ o.options⟩
    let ways := (o.options.filter fun (c, _) => ['E', 'F', 'P'].contains c).map (·.1)
    let given := o.options.filter fun (c, _) => c = 'e' || c = 'f'
    let (given, operands) := if given ≠ [] then (given, operands)
      else match operands with
        | [] => ([], [])
        | first :: rest => ([('e', first)], rest)
    let size := fun c (usual : Nat) => match o.value? c with
      | none => Except.ok usual
      | some text => match count? text with
        | some n => .ok n
        | none => .error s!"{text}: invalid context length argument"
    let sizes : Except String (Nat × Nat) := do
      let around ← size 'C' 0
      return (← size 'B' around, ← size 'A' around)
    let lists : Except (String × IoFault) (List (List String)) := given.mapM fun (c, text) =>
      if c = 'e' then pure [text]
      else match contentOf s text with
        | .ok content => pure (bareLinesOf content)
        | .error fault => throw (text, fault)
    let patterns := lists.map List.flatten
    if 1 < ways.eraseDups.length then refuse s.files "conflicting matchers specified"
    else if given = [] then usage ""
    else match sizes, (o.value? 'm').map fun text => (decimal? text : Option Int), patterns with
    | .error complaint, _, _ => refuse s.files complaint
    | _, some none, _ => refuse s.files "invalid max count"
    | _, _, .error (name, fault) => refuse s.files s!"{name}: {reason fault}"
    | .ok (before, after), most?, .ok patterns =>
      match wantedOf o patterns with
      | .error fault => refuse s.files fault.message
      | .ok (regexes, warnings) =>
        let w : Wanted := {
          regexes, ignoresCase := o.has 'i' || o.has 'y', wholeWords := o.has 'w'
          wholeLines := o.has 'x' }
        let most := most?.bind fun n? => (n?.filter (0 ≤ ·)).map Int.toNat
        let most := if o.has 'q' ∨ o.has 'l' ∨ o.has 'L' then some 1 else most
        let recursive := o.has 'r' || o.has 'R'
        let isVain := most = some 0 ∨ (patterns = [""] ∧ o.has 'v' ∧ !o.has 'w' ∧ !o.has 'x')
        if isVain ∧ !o.has 'L' then { files := s.files, status := 1 } else
        let names := if operands ≠ [] then operands else [if recursive then "." else "-"]
        let sources := if !recursive then names
          else names.flatMap fun path =>
            if path = "." ∧ operands = [] then
              (filesBelow o s.files ".").map fun path => String.ofList (path.toList.drop 2)
            else filesBelow o s.files path
        let hasNames : Bool := match o.lastOf? ['H', 'h'] with
          | some c => c = 'H'
          | none => decide (1 < names.length) || recursive
        let warned := Effect.forEach s.files warnings fun warning files =>
          { refuse files s!"warning: {warning}" with status := 0 }
        let one : Bool × Effect → String × Except IoFault String → Bool × Effect
          | (any, effect), (source, part) =>
            match part with
            | .error fault =>
              let skips := fault = .isDirectory ∧ o.value? 'd' = some "skip"
              (any, effect.andThen fun files =>
                if skips then { files }
                else if o.has 's' then { files, status := 2 }
                else refuse files s!"{source}: {reason fault}")
            | .ok text =>
              let name := if source = "-" then (o.value? labelOption).getD "(standard input)"
                else source
              let lines := unitsOf false (o.has 'z') text
              let report := reportOf o w (if hasNames then some name else none) before after most
                lines
              let isBinary := text.contains '\x00' && !o.has 'a' && !o.has 'z'
              let mark := if o.has 'Z' then "\x00" else "\n"
              let written :=
                if o.has 'q' then ""
                else if o.has 'L' then if report.count = 0 then name ++ mark else ""
                else if o.has 'l' then if 0 < report.count then name ++ mark else ""
                else if o.has 'c' then
                  (if hasNames then name ++ (if o.has 'Z' then "\x00" else ":") else "")
                    ++ s!"{report.count}\n"
                else if isBinary ∧ 0 < report.count then
                  if o.has 'I' then "" else s!"grep: {name}: binary file matches\n"
                else report.text
              (any || 0 < report.count, effect.andThen fun files => .say files written)
        let (any, effect) := (contentsOf s sources).foldl one (false, warned)
        let status := if any ∧ (o.has 'q' ∨ effect.status = 0) then 0
          else if effect.status = 0 then 1 else effect.status
        { effect with status, taken := takenBy s sources }

/-- Writes the lines in which something is found. -/
def grep : Utility := grepAs []

end ContestJudge.Shell.Utility
