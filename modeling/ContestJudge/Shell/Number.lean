/-!
# Numbers in scripts

Integers of 64 bits, written with blanks around them and a sign. A number that does not fit is
either cut to the nearest one that does or refused.
-/

namespace ContestJudge.Shell

/-- The least integer that is too large. -/
def integerBound : Int := Nat.pow 2 63

/-- Whether an integer fits. -/
def fitsInteger (n : Int) : Bool := -integerBound ≤ n && n < integerBound

/-- Whether a character is a blank or a line break of some kind. -/
def isSpace (c : Char) : Bool := c = ' ' || ('\t' ≤ c && c ≤ '\r')

/-- The value of a digit in some base up to 36. -/
def digit? (base : Nat) (c : Char) : Option Nat :=
  let value :=
    if c.isDigit then c.toNat - 48
    else if c.isAlpha then c.toLower.toNat - 87
    else base
  if value < base then some value else none

/-- The value of the digits at the start of some characters, and what follows them. -/
def splitDigits (base : Nat) (cs : List Char) : Nat × List Char :=
  let (digits, rest) := cs.span fun c => (digit? base c).isSome
  (digits.foldl (fun n c => n * base + (digit? base c).getD 0) 0, rest)

/-- The value of the number at the start of some characters, which start with a digit: decimal,
octal after a zero, or hexadecimal. -/
def splitNumber (cs : List Char) : Nat × List Char :=
  match cs with
  | '0' :: x :: d :: rest =>
    if (x = 'x' ∨ x = 'X') ∧ (digit? 16 d).isSome then splitDigits 16 (d :: rest)
    else splitDigits 8 cs
  | '0' :: _ => splitDigits 8 cs
  | _ => splitDigits 10 cs

/-- The integer that a text is, as far as `split` reads its digits. -/
def integerWith? (split : List Char → Nat × List Char) (text : String) : Option Int :=
  let cs := text.toList.dropWhile isSpace
  let (negative, cs) := match cs with
    | '-' :: rest => (true, rest)
    | '+' :: rest => (false, rest)
    | cs => (false, cs)
  if cs.head?.any Char.isDigit then
    let (n, rest) := split cs
    let value : Int := if negative then -n else n
    if rest.all isSpace ∧ fitsInteger value then some value else none
  else none

/-- The integer that a decimal text is. -/
def decimal? : String → Option Int := integerWith? (splitDigits 10)

/-- The integer that a text is in any notation. -/
def integer? : String → Option Int := integerWith? splitNumber

/-- The number that a decimal text is, if it is neither negative nor too large to count. -/
def count? (text : String) : Option Nat :=
  match decimal? text with
  | some n => if 0 ≤ n ∧ n < Nat.pow 2 31 then some n.toNat else none
  | none => none

/-- A number in 64 bits. -/
def wrap (n : Int) : Int := Int.bmod n (Nat.pow 2 64)

end ContestJudge.Shell
