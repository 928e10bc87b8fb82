import ContestJudge.Shell.Editing.Reader
import ContestJudge.Shell.Editing.Run

/-!
# Editing lines

The utility that edits lines by a script.
-/

namespace ContestJudge.Shell.Utility

open Text
open Editing (Line Script)

/-- The options of the utility that edits lines. -/
def editingUsage : Usage where
  letters := "bsnrzuEe:f:l:i;V\x01"
  names := [("regexp-extended", 'r'), ("debug", '\x01'), ("in-place", 'i'), ("expression", 'e'),
    ("file", 'f'), ("line-length", 'l'), ("null-data", 'z'), ("quiet", 'n'), ("posix", 'b'),
    ("silent", 'n'), ("separate", 's'), ("unbuffered", 'u')]

/-- How the utility that edits lines is to be used. -/
def editingHint : String :=
  "Usage: sed [OPTION]... \x7bscript-only-if-no-other-script\x7d [input-file]...\n\n"

/-- Parts of a script that go on in the next part are put together. -/
def joinedScripts : List (Bool × String) → List (Bool × String)
  | (true, a) :: (true, b) :: rest =>
    let slashes := (a.toList.reverse.takeWhile (· = '\\')).length
    if slashes % 2 = 1 then joinedScripts ((true, a ++ "\n" ++ b) :: rest)
    else (true, a) :: joinedScripts ((true, b) :: rest)
  | first :: rest => first :: joinedScripts rest
  | [] => []
termination_by scripts => scripts.length

/-- Reads a script that comes in parts: as arguments, or in files. -/
def readScript (isExtended : Bool) (parts : List (Bool × String)) : Except String Script := do
  let start : Editing.Cursor := { rest := [], isExtended, isFirst := true }
  let (c, _) ← (joinedScripts parts).foldlM (fun (c, n) (isArgument, text) =>
    let n := if isArgument then n + 1 else n
    match Editing.readMore c text.toList with
    | .ok c => .ok (c, n)
    | .error fault =>
      if isArgument then .error s!"-e expression #{n}, char {fault.used}: {fault.reason}"
      else
        let line := ((text.toList.take fault.used).filter (· = '\n')).length + 1
        .error s!"file - line {line}: {fault.reason}") (start, 0)
  c.script

/-- The lines of a text as they are edited. -/
def editingLines (ending : Char) (source text : String) : List Line :=
  (unitsOf false (ending = '\x00') text).map fun line =>
    let hasEnd := line.getLast? = some ending
    ⟨if hasEnd then line.dropLast else line, hasEnd, source⟩

/-- Edits lines by a script. -/
def sed : Utility := fun arguments s =>
  match editingUsage.parse arguments with
  | .error complaint =>
    { files := s.files, status := 1
      said := [(.stderr, s!"{s.name}: {complaint}\n{editingHint}")] }
  | .ok (o, operands) =>
    let given := o.options.filter fun (c, _) => c = 'e' || c = 'f'
    let (given, operands) := if given ≠ [] then (given, operands)
      else match operands with
        | [] => ([], [])
        | first :: rest => ([('e', first)], rest)
    let parts : Except (String × IoFault) (List (Bool × String)) := given.mapM fun (c, text) =>
      if c = 'e' then pure (true, text)
      else match contentOf s text with
        | .ok content => pure (false, content)
        | .error fault => throw (text, fault)
    let width := (o.value? 'l').bind count?
    match given, parts with
    | [], _ => { files := s.files, said := [(.stderr, editingHint)], status := 1 }
    | _, .error (name, fault) => s.refuse s.files s!"couldn't open file {name}: {reason fault}" 4
    | _, .ok parts =>
      match readScript (o.has 'E' || o.has 'r') parts with
      | .error complaint =>
        s.refuse s.files complaint (if complaint.startsWith "can't" then 4 else 1)
      | .ok script =>
        let ending := if o.has 'z' then '\x00' else '\n'
        let operands := if operands = [] then ["-"] else operands
        let contents := contentsOf s operands
        let faults := contents.filterMap fun (operand, part) => match part with
          | .error fault => some (operand, fault)
          | .ok _ => none
        let texts := contents.filterMap fun (operand, part) => part.toOption.map (operand, ·)
        let isApart := o.has 's' || o.has 'i'
        let runs := if isApart then texts.map fun text => [text] else [texts]
        let read := fun name => if isInput name then some (String.ofList s.input)
          else (s.files.readRaw (pathOf name)).toOption.map Octets.ofBytes
        let first : Editing.State := {
          script, lines := [], contents := read
          isSilent := o.has 'n' || script.isSilent, ending, width := width.getD 70 }
        let one : Effect × Editing.State × Bool → List (String × String) →
            Effect × Editing.State × Bool
          | (effect, state, false), _ => (effect, state, false)
          | (effect, state, true), texts =>
            let lines := texts.flatMap fun (name, text) => editingLines ending name text
            let (result, state) := Editing.Step.editAll (lines.length + 1)
              { state with lines, number := 0 }
            let output := String.join
              (((state.sinks.lookup Editing.mainSink).getD {}).parts.reverse)
            let state := { state with sinks := state.sinks.filter (·.1 ≠ Editing.mainSink) }
            let target := if o.has 'i' then texts.head?.map (·.1) else none
            let effect := effect.andThen fun files => match target with
              | none => .say files output
              | some name =>
                let suffix := (o.value? 'i').getD ""
                let kept := if suffix = "" then files
                  else ((texts.head?.map fun (_, text) =>
                    files.writeRaw (pathOf (name ++ suffix)) (Octets.toBytes text)).bind
                      Except.toOption).getD files
                s.change kept s!"couldn't edit {name}"
                  (kept.writeRaw (pathOf name) (Octets.toBytes output))
            match result with
            | .ok () => (effect, state, true)
            | .error (.quit status) => ({ effect with status := max effect.status status }, state, false)
            | .error (.fault complaint) =>
              (effect.andThen fun files => s.refuse files complaint, state, false)
            | .error .nextLine => (effect, state, true)
            | .error .busy => ({ effect with isEndless := true }, state, false)
        let complained := Effect.forEach s.files faults fun (operand, fault) files =>
          if fault = .isDirectory then
            if o.has 'i' then s.refuse files s!"couldn't edit {operand}: not a regular file" 4
            else s.refuse files s!"read error on {operand}: Is a directory" 4
          else s.refuse files s!"can't read {operand}: {reason fault}" 2
        let (effect, state, _) := runs.foldl one (complained, first, true)
        let named := (script.commands.toList.filterMap fun command => match command.action with
          | .write _ name => some name
          | .replace r => r.file
          | _ => none).eraseDups
        let effect := named.foldl (fun (effect : Effect) name =>
          let text := String.join (((state.sinks.lookup name).getD {}).parts.reverse)
          if name = Editing.mainSink then effect
          else if name = "/dev/stderr" then
            effect.andThen fun files => { files, said := [(.stderr, text)] }
          else effect.andThen fun files =>
            match files.writeRaw (pathOf name) (Octets.toBytes text) with
            | .ok files => { files }
            | .error fault => s.refuse files s!"couldn't open file {name}: {reason fault}" 4) effect
        { effect with taken := takenBy s operands, complainsFirst := true }

end ContestJudge.Shell.Utility
