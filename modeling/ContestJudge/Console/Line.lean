import ContestJudge.Console.Style
import ContestJudge.Verdict.Basic
import ContestJudge.Verdict.Judge
import Std.Data.TreeMap.Basic

/-!
# The transcript

Everything that is shown while judging is a `Line`: a value that says what is shown, and `Line.text`
says how. A session returns its lines in order, so a transcript can be studied without reading text.
-/

namespace ContestJudge.Console

open Text (Bytes)

/-- What is shown. A line may take several lines on the screen. -/
inductive Line where
  /-- The start of a problem's validation. -/
  | problemHeader (problem : String)
  /-- A problem that is not validated, with the reason. -/
  | skipped (reason : String)
  /-- The start of a batch of cases. -/
  | batchHeader (batch : Nat)
  /-- The verdict on a case. -/
  | caseStatus (id : CaseId) (verdict : Verdict)
  /-- A validator that does not compile, with what the compiler says. -/
  | compileFailure (message : String)
  /-- A problem that cannot be validated. -/
  | problemError (message : String)
  /-- The end of a problem's validation. -/
  | problemResult (problem : String) (failed : Bool)
  /-- The end of a validation of several problems. -/
  | validationSummary (fails : Nat)
  /-- The start of a solution's check. -/
  | checkHeader (program problem : String)
  /-- A wrong answer in full. -/
  | wrongAnswer (id : CaseId) (verdict : Verdict) (expected actual : Bytes)
  /-- The end of a solution's check. -/
  | checkSummary (record : Record)
  /-- A success. -/
  | success (message : String)
  /-- A plain text. -/
  | plain (text : String)

/-- The colour of a code. -/
def codeColor : Code → Color
  | .accepted => .green
  | .timeLimit => .white
  | .wallTimeLimit => .white
  | _ => .yellow

/-- A text followed by blanks up to a width. -/
def padRight (width : Nat) (text : String) : String :=
  text ++ String.ofList (List.replicate (width - text.length) ' ')

/-- A text after blanks up to a width. -/
def padLeft (width : Nat) (text : String) : String :=
  String.ofList (List.replicate (width - text.length) ' ') ++ text

/-- The code in a status line: coloured, bold unless accepted, at least three columns wide. -/
def codeLabel (palette : Palette) (code : Code) : String :=
  let style : Style := { bold := !code.isAccepted, foreground := codeColor code }
  style.apply palette (padRight 3 code.label)

/-- The code as a badge. -/
def codeBadge (palette : Palette) (code : Code) : String :=
  let text : Color := if palette.trueColor then .rgb 255 255 255 else .brightBlack
  let style : Style := { bold := true, background := codeColor code, foreground := text }
  style.apply palette s!" {code.label} "

/-- The status line of a case, without the end of the line. Cases of a batch are indented. -/
def caseLine (palette : Palette) (id : CaseId) (verdict : Verdict) : String :=
  let indent := if id.batch.isSome then "  " else ""
  let feedback :=
    if verdict.feedback.isEmpty then ""
    else " (" ++ ({ underline := true } : Style).apply palette verdict.feedback ++ ")"
  indent ++ "Test case " ++ padLeft 2 (toString id.number) ++ " "
    ++ codeLabel palette verdict.code ++ feedback

/-- Bold text of a colour. -/
def boldStyle (color : Color) : Style := { bold := true, foreground := color }

/-- How often each code occurs, most important first. -/
def tally (codes : List Code) : Std.TreeMap Code Nat :=
  codes.foldl (fun counts code => counts.alter code fun count => some (count.getD 0 + 1)) ∅

/-- How many cases are accepted, by a tally. -/
def passedCount (counts : Std.TreeMap Code Nat) : Nat := counts.getD .accepted 0

/-- The part of a tally that is about other codes than `accepted`. -/
def failureCounts (counts : Std.TreeMap Code Nat) : List (Code × Nat) :=
  counts.toList.filter fun (code, _) => !code.isAccepted

/-- One failure of a tally. -/
def tallyItem (palette : Palette) (code : Code) (count : Nat) : String :=
  codeBadge palette code ++ ({ dimmed := true } : Style).apply palette "x"
    ++ (boldStyle .brightWhite).apply palette (toString count)

/-- The summary of a check, without the end of the line. -/
def checkSummaryText (palette : Palette) (record : Record) : String :=
  let counts := tally record.codes
  let total := record.size
  let passed := passedCount counts
  let middle :=
    if passed = total then
      ({ foreground := some .green } : Style).apply palette s!"All {total} tests passed"
    else
      let items := (failureCounts counts).map fun (c, n) => tallyItem palette c n
      ({ foreground := some .brightRed } : Style).apply palette
          s!"{total - passed}/{total} tests failed"
        ++ " (" ++ ", ".intercalate items ++ ")"
  "----- " ++ middle ++ " -----"

/-- The columns of a frame: those of the terminal, or 40 where they are not known. -/
def Palette.frameWidth (palette : Palette) : Nat := palette.columns.getD 40

/-- A text several times over. -/
def repeated (count : Nat) (text : String) : String := String.join (List.replicate count text)

/-- The title of a part of a frame, filled up with a thin rule. -/
def frameTitle (palette : Palette) (title : String) : String :=
  (boldStyle .cyan).apply palette title
    ++ ({ foreground := some .brightBlack } : Style).apply palette
      (repeated (palette.frameWidth - (title.length + 1)) "─") ++ "\n"

/-- Output inside a frame. Empty output and a missing line end are pointed out. -/
def frameBody (palette : Palette) (bytes : Bytes) : String :=
  let text := Text.display bytes
  let shown :=
    if text.isEmpty then
      ({ dimmed := true, foreground := some .magenta } : Style).apply palette "<EMPTY>"
    else text
  let missing :=
    if bytes.isEmpty ∨ bytes.getLast? = some 0x0A then ""
    else ({ bold := true, background := some .yellow, foreground := some .black } : Style).apply
      palette " Missing new line " ++ "\n"
  shown ++ "\n" ++ missing

/-- The time that a run took, if it ran. -/
def elapsedText (verdict : Verdict) : String :=
  match verdict.usage with
  | some usage => s!" [{usage.wallTime.millis}ms]"
  | none => ""

/-- Expected and actual output of a wrong answer in a frame. -/
def wrongAnswerText (palette : Palette) (id : CaseId) (verdict : Verdict)
    (expected actual : Bytes) : String :=
  let rule := (boldStyle .blue).apply palette (repeated palette.frameWidth "━")
  "\n" ++ (boldStyle .brightYellow).apply palette s!"Test case {id.number}" ++ ": "
    ++ codeBadge palette verdict.code ++ elapsedText verdict ++ "\n" ++ rule ++ "\n"
    ++ frameTitle palette "[expected]" ++ frameBody palette expected
    ++ frameTitle palette "[stdout]" ++ frameBody palette actual ++ rule ++ "\n"

/-- How a line is shown. -/
def Line.text (palette : Palette) : Line → String
  | problemHeader problem =>
    "Validating problem " ++ (boldStyle .cyan).apply palette problem ++ "...\n"
  | skipped reason =>
    "\t" ++ (boldStyle .magenta).apply palette "Skipped" ++ " - " ++ reason ++ "\n"
  | batchHeader batch => (boldStyle .yellow).apply palette s!"Batch #{batch}" ++ "\n"
  | caseStatus id verdict => caseLine palette id verdict ++ "\n"
  | compileFailure message =>
    (boldStyle .red).apply palette "Failed compiling validator!" ++ "\n"
      ++ Text.trimEnd message ++ "\n"
  | problemError message => (boldStyle .red).apply palette message ++ "\n"
  | problemResult problem failed =>
    let name := (boldStyle .cyan).apply palette problem
    let result :=
      if failed then (boldStyle .red).apply palette "failed" ++ "."
      else "passed with flying colours."
    "Problem " ++ name ++ " " ++ result ++ "\n\n"
  | validationSummary fails =>
    let result :=
      if 0 < fails then
        (boldStyle .red).apply palette s!"A total of {fails} problem(s) have invalid input"
      else (boldStyle .green).apply palette "All problems validated."
    "\nTest complete.\n" ++ result ++ "\n"
  | checkHeader program problem => s!"Checking {program} on problem {problem}...\n"
  | wrongAnswer id verdict expected actual => wrongAnswerText palette id verdict expected actual
  | checkSummary record => checkSummaryText palette record ++ "\n"
  | success message => ({ foreground := some .green } : Style).apply palette message ++ "\n"
  | plain text => text

/-- A transcript as it is shown. -/
def transcript (palette : Palette) (lines : List Line) : String :=
  String.join (lines.map (·.text palette))

end ContestJudge.Console
