import ContestJudge.Decimal.Reading
import ContestJudge.Document.Value
import ContestJudge.Json.Reader

/-!
# Numbers of a document

Digits may be grouped by single underscores. An integer has 64 bits and is written in decimal
without leading zeros, or in hexadecimal, octal or binary after `0x`, `0o` or `0b`. A float has a
fraction or an exponent.
-/

namespace ContestJudge.Document

/-- Further digits, each of which may have an underscore in front. -/
def readMoreDigits (isDigit : Char → Bool) : List Char → Option (List Char × List Char)
  | '_' :: c :: rest =>
    if isDigit c then (readMoreDigits isDigit rest).map fun (ds, rest) => (c :: ds, rest) else none
  | ['_'] => none
  | c :: rest =>
    if isDigit c then (readMoreDigits isDigit rest).map fun (ds, rest) => (c :: ds, rest)
    else some ([], c :: rest)
  | [] => some ([], [])

/-- Digits, at least one. -/
def readDigits (isDigit : Char → Bool) : List Char → Option (List Char × List Char)
  | c :: rest =>
    if isDigit c then (readMoreDigits isDigit rest).map fun (ds, rest) => (c :: ds, rest) else none
  | [] => none

/-- Decimal digits without a leading zero. -/
def readWhole : List Char → Option (List Char × List Char)
  | '0' :: rest => some (['0'], rest)
  | cs => readDigits Char.isDigit cs

/-- A sign, which is negative when it says so. -/
def readSign : List Char → Bool × List Char
  | '-' :: rest => (true, rest)
  | '+' :: rest => (false, rest)
  | cs => (false, cs)

/-- An optional fraction. -/
def readFraction : List Char → Option (Option (List Char) × List Char)
  | '.' :: rest => (readDigits Char.isDigit rest).map fun (ds, rest) => (some ds, rest)
  | cs => some (none, cs)

/-- An optional exponent. -/
def readExponent : List Char → Option (Option Int × List Char)
  | c :: rest =>
    if c = 'e' ∨ c = 'E' then do
      let (negative, rest) := readSign rest
      let (digits, rest) ← readDigits Char.isDigit rest
      let n : Int := Decimal.digitsValue digits
      return (some (if negative then -n else n), rest)
    else some (none, c :: rest)
  | [] => some (none, [])

/-- An integer of 64 bits. -/
def ofInteger? (n : Int) : Option Value :=
  if -(Nat.pow 2 63 : Int) ≤ n ∧ n < Nat.pow 2 63 then some (.integer n) else none

/-- A decimal integer or a float. A float too large to be finite must be negative. -/
def readDecimal (cs : List Char) : Option (Value × List Char) :=
  match readSign cs with
  | (negative, 'i' :: 'n' :: 'f' :: rest) =>
    some (.float (if negative then -1 / 0 else 1 / 0), rest)
  | (_, 'n' :: 'a' :: 'n' :: rest) => some (.float (0 / 0), rest)
  | (negative, cs) => do
    let (whole, cs) ← readWhole cs
    let (fraction?, cs) ← readFraction cs
    let (exponent?, cs) ← readExponent cs
    if fraction?.isNone ∧ exponent?.isNone then
      let n : Int := Decimal.digitsValue whole
      return (← ofInteger? (if negative then -n else n), cs)
    else
      let x := Decimal.ofParts negative whole (fraction?.getD []) (exponent?.getD 0)
      if x = 1 / 0 then none else return (.float x, cs)

/-- An integer in a base other than ten. -/
def readInBase (base : Nat) (cs : List Char) : Option (Value × List Char) := do
  let isDigit := fun c => (Json.hexValue? c).any (· < base)
  let (digits, cs) ← readDigits isDigit cs
  return (← ofInteger? (digits.foldl (fun n c => n * base + (Json.hexValue? c).getD 0) 0 : Nat), cs)

/-- A number. -/
def readNumber : List Char → Option (Value × List Char)
  | '0' :: 'x' :: rest => readInBase 16 rest
  | '0' :: 'o' :: rest => readInBase 8 rest
  | '0' :: 'b' :: rest => readInBase 2 rest
  | cs => readDecimal cs

end ContestJudge.Document
