import ContestJudge.Console.Line
import ContestJudge.Proofs.Verdict.Feedback

/-!
# What is shown of a wrong answer

A wrong answer is shown in full: a heading says which case it is, with the reported code and the
time that it took if that is known, and a frame below has two parts, what was expected and what came
out. The frame is as wide as the terminal.

Both parts show bytes that need not be text, and the same is said of both (`ShowsBytes`), without
the function that makes texts of bytes: the text of the bytes is there up to the blanks at its end,
a mark stands for bytes of which nothing would be seen, and a remark follows exactly if the bytes
leave a line open. So two outputs that differ only in blanks at their end look alike, except that a
missing line end is told.

* `shows_frameBody` — a part of a frame shows its bytes; this rests on what is known of the text
  that is shown of captured bytes (`Text.exists_blanks`, `Text.endsVisibly_display`);
* `showsDetails_wrongAnswer` — so the line of a wrong answer has its heading and both outputs, on
  every palette.

The colour of the reported code is left open, as a badge that need only be there: it depends on the
code alone and says nothing that the code does not say. The width of the frame is that of the
palette, whichever it is.
-/

namespace ContestJudge.Console

open Text (Bytes)

/-! ### Captured bytes -/

/-- What stands for bytes of which nothing would be seen. -/
def emptyMark (palette : Palette) : String :=
  ({ dimmed := true, foreground := some .magenta } : Style).apply palette "<EMPTY>"

/-- What is remarked on bytes that leave a line open. -/
def openLineRemark (palette : Palette) : String :=
  ({ bold := true, background := some .yellow, foreground := some .black } : Style).apply palette
    " Missing new line " ++ "\n"

/-- Bytes that leave no line open: there are none, or they end in a line feed. -/
def EndsLine (bytes : Bytes) : Prop := bytes = [] ∨ ∃ front, bytes = front ++ [Text.Utf8.feed]

/-- **What is shown of bytes**, and what is remarked on them. -/
structure ShowsBytes (palette : Palette) (bytes : Bytes) (shown remark : String) : Prop where
  text : ¬Text.ShowsNothing bytes → Text.EndsVisibly shown ∧ ∃ blanks : List Char,
    (∀ c ∈ blanks, Text.isBlank c = true) ∧
      (Text.Utf8.decodeLossy bytes).toList = shown.toList ++ blanks
  mark : Text.ShowsNothing bytes → shown = emptyMark palette
  complete : EndsLine bytes → remark = ""
  incomplete : ¬EndsLine bytes → remark = openLineRemark palette

theorem endsLine_iff {bytes : Bytes} :
    EndsLine bytes ↔ bytes.isEmpty = true ∨ bytes.getLast? = some 0x0A := by
  rw [EndsLine, List.isEmpty_iff, List.getLast?_eq_some_iff]
  rfl

/-- **A part of a frame shows its bytes.** -/
theorem shows_frameBody (palette : Palette) (bytes : Bytes) : ∃ shown remark,
    frameBody palette bytes = shown ++ "\n" ++ remark ∧ ShowsBytes palette bytes shown remark := by
  refine ⟨_, _, rfl, fun hshown ↦ ?_, fun hnothing ↦ ?_, fun hends ↦ ?_, fun hopen ↦ ?_⟩
  · rw [if_neg (mt String.isEmpty_iff.1 (mt Text.display_eq_empty_iff_showsNothing.1 hshown))]
    exact ⟨Text.endsVisibly_display bytes, Text.exists_blanks bytes⟩
  · exact if_pos (String.isEmpty_iff.2 (Text.display_eq_empty_iff_showsNothing.2 hnothing))
  · exact if_pos (endsLine_iff.1 hends)
  · exact if_neg (mt endsLine_iff.2 hopen)

/-! ### The whole text -/

/-- The heading: which case it is, the reported code in some style, and the time that it took. -/
def detailsHeading (palette : Palette) (badge : Style) (id : CaseId) (verdict : Verdict) : String :=
  (boldStyle .brightYellow).apply palette s!"Test case {id.number}" ++ ": "
    ++ badge.apply palette s!" {verdict.code.label} "
    ++ (verdict.usage.map fun usage ↦ s!" [{usage.wallTime.millis}ms]").getD ""

/-- The line above and below the frame. -/
def frameRule (palette : Palette) : String :=
  (boldStyle .blue).apply palette (repeated palette.frameWidth "━") ++ "\n"

/-- **What is shown of a wrong answer**: under the heading and a line the bytes that were expected,
then the bytes that came out, and a line. -/
def ShowsDetails (palette : Palette) (id : CaseId) (verdict : Verdict) (expected actual : Bytes)
    (text : String) : Prop :=
  ∃ badge shown remark shown' remark',
    text = "\n" ++ detailsHeading palette badge id verdict ++ "\n" ++ frameRule palette
      ++ (frameTitle palette "[expected]" ++ (shown ++ "\n" ++ remark))
      ++ (frameTitle palette "[stdout]" ++ (shown' ++ "\n" ++ remark')) ++ frameRule palette ∧
    ShowsBytes palette expected shown remark ∧ ShowsBytes palette actual shown' remark'

/-- **The line of a wrong answer** shows it. -/
theorem showsDetails_wrongAnswer (palette : Palette) (id : CaseId) (verdict : Verdict)
    (expected actual : Bytes) : ShowsDetails palette id verdict expected actual
      ((Line.wrongAnswer id verdict expected actual).text palette) := by
  obtain ⟨shown, remark, hexpected, hshows⟩ := shows_frameBody palette expected
  obtain ⟨shown', remark', hactual, hshows'⟩ := shows_frameBody palette actual
  obtain ⟨badge, hbadge⟩ : ∃ badge : Style,
      codeBadge palette verdict.code = badge.apply palette s!" {verdict.code.label} " := ⟨_, rfl⟩
  refine ⟨badge, shown, remark, shown', remark', ?_, hshows, hshows'⟩
  have htext : (Line.wrongAnswer id verdict expected actual).text palette =
      "\n" ++ (boldStyle .brightYellow).apply palette s!"Test case {id.number}" ++ ": "
        ++ codeBadge palette verdict.code ++ elapsedText verdict ++ "\n"
        ++ (boldStyle .blue).apply palette (repeated palette.frameWidth "━") ++ "\n"
        ++ frameTitle palette "[expected]" ++ frameBody palette expected
        ++ frameTitle palette "[stdout]" ++ frameBody palette actual
        ++ (boldStyle .blue).apply palette (repeated palette.frameWidth "━") ++ "\n" := rfl
  rw [htext, hbadge, hexpected, hactual, detailsHeading, frameRule, elapsedText]
  simp only [String.append_assoc]
  cases verdict.usage <;> rfl

/-- The second output leaves its line open, which is remarked. -/
example : (Line.wrongAnswer ⟨1, none, 1⟩ (.ofFlags (.ofList [.wrongAnswer]) "" 1 none)
    [97, 10] [98]).text ⟨false, false, some 12⟩ =
      "\nTest case 1:  WA \n━━━━━━━━━━━━\n[expected]─\na\n"
        ++ "[stdout]───\nb\n Missing new line \n━━━━━━━━━━━━\n" := by
  decide +kernel

end ContestJudge.Console
