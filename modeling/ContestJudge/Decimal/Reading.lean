/-!
# Reading decimals

The double nearest to a decimal. Exponents are cut where the answer is already known to be zero or
infinite, so that a huge exponent costs nothing.
-/

namespace ContestJudge.Decimal

/-- The double nearest to plus or minus `digits * 10 ^ exponent`. -/
def toFloat (negative : Bool) (digits : Nat) (exponent : Int) : Float :=
  let size := ((Nat.toDigits 10 digits).length : Int) + exponent
  let magnitude : Float :=
    if digits = 0 then 0
    else if size > 310 then 1 / 0
    else if size < -330 then 0
    else Float.ofScientific digits (exponent < 0) exponent.natAbs
  if negative then -magnitude else magnitude

/-- The value of decimal digits, most significant first; other characters count as nothing. -/
def digitsValue (digits : List Char) : Nat :=
  digits.foldl (fun n c => if c.isDigit then n * 10 + (c.toNat - 48) else n) 0

/-- Reads digits with an optional fraction and exponent, given as the digits of each part. -/
def ofParts (negative : Bool) (whole fraction : List Char) (exponent : Int) : Float :=
  toFloat negative (digitsValue (whole ++ fraction)) (exponent - fraction.length)

/-!
### Numbers in settings

A number that a user gives as a whole text, without blanks. A float has digits before or after the
point or on both sides, or is infinite or not a number by name.
-/

/-- A leading sign. -/
def splitSign : List Char → Bool × List Char
  | '-' :: rest => (true, rest)
  | '+' :: rest => (false, rest)
  | cs => (false, cs)

/-- The value of an exponent part, which must be all that is left. -/
def exponent? : List Char → Option Int
  | [] => some 0
  | c :: rest =>
    let (negative, digits) := splitSign rest
    if (c = 'e' ∨ c = 'E') ∧ digits ≠ [] ∧ digits.all Char.isDigit then
      some (if negative then -(digitsValue digits : Int) else digitsValue digits)
    else none

/-- The number that a text is. -/
def float? (text : String) : Option Float :=
  let (negative, cs) := splitSign text.toList
  let sign (x : Float) : Float := if negative then -x else x
  let name := cs.map Char.toLower
  if name = "inf".toList ∨ name = "infinity".toList then some (sign (1 / 0))
  else if name = "nan".toList then some (0 / 0)
  else
    let whole := cs.takeWhile Char.isDigit
    let (fraction, rest) := match cs.dropWhile Char.isDigit with
      | '.' :: rest => (rest.takeWhile Char.isDigit, rest.dropWhile Char.isDigit)
      | rest => ([], rest)
    if whole = [] ∧ fraction = [] then none
    else (exponent? rest).map (ofParts negative whole fraction)

/-- The number of at most 64 bits that a text is. -/
def natural? (text : String) : Option Nat :=
  let digits := match text.toList with
    | '+' :: rest => rest
    | cs => cs
  if digits ≠ [] ∧ digits.all Char.isDigit ∧ digitsValue digits < Nat.pow 2 64 then
    some (digitsValue digits)
  else none

end ContestJudge.Decimal
