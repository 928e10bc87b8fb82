import ContestJudge.Text.Utf8

/-!
# Output for people

The characters with the property White_Space are blank. Output is shown without the blanks at its
end.
-/

namespace ContestJudge.Text

/-- The characters with the property White_Space. -/
def isBlank (c : Char) : Bool :=
  let n := c.toNat
  (0x9 ≤ n && n ≤ 0xD) || n = 0x20 || n = 0x85 || n = 0xA0 || n = 0x1680
    || (0x2000 ≤ n && n ≤ 0x200A) || n = 0x2028 || n = 0x2029 || n = 0x202F || n = 0x205F
    || n = 0x3000

/-- A text without the blanks at its end. -/
def trimEnd (text : String) : String :=
  String.ofList (text.toList.reverse.dropWhile isBlank).reverse

/-- Captured bytes as a text for people: decoded, without blanks at the end. -/
def display (bytes : Bytes) : String := trimEnd (Utf8.decodeLossy bytes)

end ContestJudge.Text
