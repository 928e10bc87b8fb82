/-!
# Text in UTF-8

Captured output is bytes and feedback is text. This module reads bytes as UTF-8 in two ways:
`decode?` refuses malformed input, `decodeLossy` replaces it. Both are the same walk `scan`, which
splits the bytes into well-formed characters and malformed pieces. A malformed piece is the longest
start of some well-formed character, or a single byte when no character starts with it, so that one
broken character costs one replacement mark and never swallows the bytes after it.
-/

namespace ContestJudge.Text

/-- Raw bytes, as they cross a pipe or lie in a file. -/
abbrev Bytes := List UInt8

namespace Utf8

/-- What a first byte promises: the bits it carries, how many bytes follow, and the range the first
of them lies in. Later ones lie in `0x80`–`0xBF`. -/
structure Lead where
  /-- The bits of the character that the first byte carries. -/
  bits : Nat
  /-- How many bytes follow. -/
  tails : Nat
  /-- The least value of the next byte. -/
  low : UInt8
  /-- The greatest value of the next byte. -/
  high : UInt8
  deriving Repr

/-- The narrowed ranges exclude overlong forms, surrogates and values above the last code point. -/
def Lead.ofByte? (b : UInt8) : Option Lead :=
  if b < 0x80 then some ⟨b.toNat, 0, 0x80, 0xBF⟩
  else if b < 0xC2 then none
  else if b < 0xE0 then some ⟨b.toNat % 32, 1, 0x80, 0xBF⟩
  else if b = 0xE0 then some ⟨0, 2, 0xA0, 0xBF⟩
  else if b = 0xED then some ⟨13, 2, 0x80, 0x9F⟩
  else if b < 0xF0 then some ⟨b.toNat % 16, 2, 0x80, 0xBF⟩
  else if b = 0xF0 then some ⟨0, 3, 0x90, 0xBF⟩
  else if b < 0xF4 then some ⟨b.toNat % 8, 3, 0x80, 0xBF⟩
  else if b = 0xF4 then some ⟨4, 3, 0x80, 0x8F⟩
  else none

/-- Reads `count` following bytes onto `value`; stops before the first byte out of range, with
`none`. -/
def takeTails : (count : Nat) → (low high : UInt8) → (value : Nat) → Bytes → Option Nat × Bytes
  | 0, _, _, value, rest => (some value, rest)
  | _ + 1, _, _, _, [] => (none, [])
  | count + 1, low, high, value, b :: rest =>
    if low ≤ b ∧ b ≤ high then takeTails count 0x80 0xBF (value * 64 + b.toNat % 64) rest
    else (none, b :: rest)

theorem length_takeTails_le (count : Nat) (low high : UInt8) (value : Nat) (bytes : Bytes) :
    (takeTails count low high value bytes).2.length ≤ bytes.length := by
  induction bytes generalizing count low high value with
  | nil => cases count <;> simp [takeTails]
  | cons b rest ih =>
    cases count with
    | zero => simp [takeTails]
    | succ count =>
      rw [takeTails]
      split
      · exact Nat.le_succ_of_le (ih ..)
      · simp

/-- The first piece of nonempty bytes, a character or a malformed piece (`none`), and what follows.
-/
def next (b : UInt8) (rest : Bytes) : Option Char × Bytes :=
  match Lead.ofByte? b with
  | none => (none, rest)
  | some lead =>
    let (value, rest) := takeTails lead.tails lead.low lead.high lead.bits rest
    (value.map Char.ofNat, rest)

theorem length_next_le (b : UInt8) (rest : Bytes) : (next b rest).2.length ≤ rest.length := by
  unfold next
  split
  · exact Nat.le_refl _
  · exact length_takeTails_le ..

/-- The pieces of `bytes` in order, in front of `seen` reversed. -/
def scanOnto (seen : List (Option Char)) : Bytes → List (Option Char)
  | [] => seen.reverse
  | b :: rest => scanOnto ((next b rest).1 :: seen) (next b rest).2
termination_by bytes => bytes.length
decreasing_by exact Nat.lt_succ_of_le (length_next_le b rest)

/-- The pieces of `bytes` in order: characters, and `none` for each malformed piece. -/
def scan (bytes : Bytes) : List (Option Char) := scanOnto [] bytes

/-- The mark that stands for a malformed piece. -/
def replacement : Char := Char.ofNat 0xFFFD

/-- Bytes as text, with a replacement mark for each malformed piece. -/
def decodeLossy (bytes : Bytes) : String :=
  String.ofList ((scan bytes).map (·.getD replacement))

/-- Bytes as text, or `none` when some piece is malformed. -/
def decode? (bytes : Bytes) : Option String :=
  (scan bytes).mapM id |>.map String.ofList

/-- The UTF-8 bytes of a text. -/
def encode (text : String) : Bytes := text.toUTF8.toList

end Utf8

end ContestJudge.Text

namespace ContestJudge.Text.Octets

/-!
### Bytes as characters

A program that works on bytes sees a text as octets: each byte is the character of the same number.
Nothing is lost either way, whatever the bytes are.
-/

/-- Bytes as octets. -/
def ofBytes (bytes : Bytes) : String := String.ofList (bytes.map fun b => Char.ofNat b.toNat)

/-- Octets as bytes. -/
def toBytes (octets : String) : Bytes := octets.toList.map fun c => c.toNat.toUInt8

/-- A text as the octets of its UTF-8 bytes. -/
def ofText (text : String) : String := ofBytes (Utf8.encode text)

/-- The text that octets spell in UTF-8. -/
def toText (octets : String) : String := Utf8.decodeLossy (toBytes octets)

end ContestJudge.Text.Octets
