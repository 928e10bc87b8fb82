import ContestJudge.Decimal.Reading
import ContestJudge.Shell.Directive
import ContestJudge.Shell.Number

/-!
# Numerals

Numbers at the start of a text, and what follows them. A real number is read as the nearest one of
the format in which it is kept.
-/

namespace ContestJudge.Shell

open Decimal

/-- The sign at the start of some characters, behind blanks. -/
def splitSignOf (cs : List Char) : Bool × List Char :=
  match cs.dropWhile isSpace with
  | '-' :: rest => (true, rest)
  | '+' :: rest => (false, rest)
  | rest => (false, rest)

/-- Splits off an integer in any notation: its sign, its magnitude and what follows. -/
def splitInteger? (cs : List Char) : Option (Bool × Nat × List Char) :=
  let (negative, cs) := splitSignOf cs
  if cs.head?.any Char.isDigit then
    let (n, rest) := splitNumber cs
    some (negative, n, rest)
  else none

/-- A real number at the start of a text. -/
structure RealNumeral where
  /-- Whether it is negative. -/
  isNegative : Bool
  /-- Its magnitude. -/
  number : RealNumber
  /-- Whether the format has a number that is near enough. -/
  fits : Bool
  /-- What follows. -/
  rest : List Char

/-- Splits off an exponent behind a letter. -/
def splitExponent (letter : Char) (cs : List Char) : Int × List Char :=
  match cs with
  | e :: rest =>
    let (negative, digits) := match rest with
      | '-' :: rest => (true, rest)
      | '+' :: rest => (false, rest)
      | rest => (false, rest)
    if e.toLower = letter ∧ digits.head?.any Char.isDigit then
      let (n, rest) := splitDigits 10 digits
      (if negative then -(n : Int) else n, rest)
    else (0, cs)
  | [] => (0, [])

/-- Splits off digits in some base with a point and an exponent: the digits as a number, how many of
them are behind the point, how many there are, the exponent and what follows. -/
def splitPointed? (base : Nat) (letter : Char) (cs : List Char) :
    Option (Nat × Nat × Nat × Int × List Char) :=
  let isDigit := fun c => (digit? base c).isSome
  let (whole, rest) := cs.span isDigit
  let (fraction, rest) := match rest with
    | '.' :: behind => if whole = [] ∧ !behind.head?.any isDigit then ([], rest) else behind.span isDigit
    | rest => ([], rest)
  if whole = [] ∧ fraction = [] then none
  else
    let (exponent, rest) := splitExponent letter rest
    some ((splitDigits base (whole ++ fraction)).1, fraction.length,
      (whole ++ fraction).length, exponent, rest)

/-- The number of a format that is nearest to an exact value, and whether that is near enough. -/
def roundedTo (format : BinaryFormat) (r : Ratio) : RealNumber × Bool :=
  match format.nearest? r with
  | some found => (.finite found, !format.isBlurred r)
  | none => (.infinite, false)

/-- The number of a format that is nearest to `digits * base ^ exponent`, for so many digits. A value
that is far too large or too small is not computed. -/
def roundedPower (format : BinaryFormat) (base digits size : Nat) (exponent : Int) :
    RealNumber × Bool :=
  if digits = 0 then (.finite ⟨0, 1⟩, true)
  else if 20000 < (size : Int) + exponent then (.infinite, false)
  else if (size : Int) + exponent < -20000 then (.finite ⟨0, 1⟩, false)
  else roundedTo format ⟨digits * Nat.pow base exponent.toNat, Nat.pow base (-exponent).toNat⟩

/-- Splits off a real number. -/
def splitReal? (format : BinaryFormat) (cs : List Char) : Option RealNumeral :=
  let (negative, cs) := splitSignOf cs
  let named := fun (name : String) =>
    if (cs.take name.length).map Char.toLower = name.toList then some (cs.drop name.length)
    else none
  match (named "infinity").or (named "inf"), named "nan" with
  | some rest, _ => some ⟨negative, .infinite, true, rest⟩
  | none, some rest => some ⟨negative, .notANumber, true, afterNote rest⟩
  | none, none =>
    let hexadecimal? := match cs with
      | '0' :: x :: rest => if x.toLower = 'x' then splitPointed? 16 'p' rest else none
      | _ => none
    match hexadecimal? with
    | some (digits, places, size, exponent, rest) =>
      let (number, fits) := roundedPower format 2 digits (4 * size) (exponent - 4 * places)
      some ⟨negative, number, fits, rest⟩
    | none => (splitPointed? 10 'e' cs).map fun (digits, places, size, exponent, rest) =>
      let (number, fits) := roundedPower format 10 digits size (exponent - places)
      ⟨negative, number, fits, rest⟩
where
  /-- What follows a note in parentheses. -/
  afterNote (cs : List Char) : List Char :=
    match cs with
    | '(' :: note =>
      match note.dropWhile fun c => c.isAlphanum || c = '_' with
      | ')' :: rest => rest
      | _ => cs
    | _ => cs

end ContestJudge.Shell
