import ContestJudge.Decimal.Binary

/-!
# Decimals of a given precision

An exact value is rounded to a number of digits, behind the point or in all, and a half goes to the
even neighbour. Nothing is rounded twice.
-/

namespace ContestJudge.Decimal

/-- A value that is not negative: a quotient, whose denominator is not zero. -/
structure Ratio where
  /-- What is divided. -/
  numerator : Nat
  /-- What it is divided by. -/
  denominator : Nat
  deriving DecidableEq, Repr

/-- `digits * 10 ^ exponent`. -/
def Ratio.ofDecimal (digits : Nat) (exponent : Int) : Ratio :=
  ⟨digits * Nat.pow 10 exponent.toNat, Nat.pow 10 (-exponent).toNat⟩

/-- The magnitude of a finite double. -/
def Ratio.ofBinary (b : Binary) : Ratio :=
  let (numerator, denominator) := twoPow b.exponent
  ⟨b.significand * numerator, denominator⟩

/-- A value times a power of ten, to the nearest natural number. -/
def Ratio.scaled (r : Ratio) (exponent : Int) : Nat :=
  roundHalfEven (r.numerator * Nat.pow 10 exponent.toNat)
    (r.denominator * Nat.pow 10 (-exponent).toNat)

/-- Decimal digits with a point before the last of them, if there are to be any behind it. -/
def pointedDigits (places n : Nat) : String :=
  let digits := Nat.toDigits 10 n
  let padded := List.replicate (places + 1 - digits.length) '0' ++ digits
  let whole := padded.length - places
  String.ofList (padded.take whole ++ if places = 0 then [] else '.' :: padded.drop whole)

/-- A value with a number of digits behind the point. -/
def Ratio.fixed (r : Ratio) (places : Nat) : String := pointedDigits places (r.scaled places)

/-- The power of ten of the first digit of a value that is rounded to a number of digits behind the
first one, and the digits as a number. -/
def Ratio.leading (r : Ratio) (places : Nat) : Int × Nat :=
  if r.numerator = 0 then (0, 0)
  else
    let size := fun (n : Nat) => ((Nat.toDigits 10 n).length : Int)
    let guess := size r.numerator - size r.denominator
    let exponent :=
      if r.denominator * Nat.pow 10 guess.toNat ≤ r.numerator * Nat.pow 10 (-guess).toNat then guess
      else guess - 1
    let digits := r.scaled (places - exponent)
    if digits < Nat.pow 10 (places + 1) then (exponent, digits)
    else (exponent + 1, digits / 10)

/-- An exponent with a sign and at least two digits. -/
def exponentText (exponent : Int) : String :=
  let digits := toString exponent.natAbs
  (if exponent < 0 then "e-" else "e+") ++ (if digits.length < 2 then "0" else "") ++ digits

/-- A value with an exponent and a number of digits behind the point. -/
def Ratio.exponential (r : Ratio) (places : Nat) : String :=
  let (exponent, digits) := r.leading places
  pointedDigits places digits ++ exponentText exponent

/-- A text without the zeros behind its point, and without a point at its end. -/
def withoutZeros (text : String) : String :=
  if text.contains '.' then
    let cs := text.toList.reverse.dropWhile (· = '0')
    String.ofList ((if cs.head? = some '.' then cs.tail else cs).reverse)
  else text

/-- A value with a number of digits in all, and with an exponent only if it is far from them. Zeros
at the end are left out unless they are to be kept. -/
def Ratio.general (r : Ratio) (digits : Nat) (keepsZeros : Bool) : String :=
  let digits := max 1 digits
  let (exponent, found) := r.leading (digits - 1)
  let trim := fun text => if keepsZeros then text else withoutZeros text
  if -4 ≤ exponent ∧ exponent < digits then trim (r.fixed (digits - 1 - exponent).toNat)
  else trim (pointedDigits (digits - 1) found) ++ exponentText exponent

/-!
### Numbers of a binary format

A binary format knows the multiples of powers of two with so many binary digits, up to a bound. An
exact value is represented by the nearest of them, and a half goes to the even neighbour.
-/

/-- A binary format. -/
structure BinaryFormat where
  /-- The number of binary digits. -/
  bits : Nat
  /-- The power of two that is too large. -/
  top : Int
  /-- The power of two of the last digit of the smallest numbers. -/
  bottom : Int

/-- Numbers of 64 bits. -/
def BinaryFormat.double : BinaryFormat := ⟨53, 1024, -1074⟩

/-- Numbers of 80 bits. -/
def BinaryFormat.extended : BinaryFormat := ⟨64, 16384, -16445⟩

/-- `r * 2 ^ e`. -/
def Ratio.shifted (r : Ratio) (e : Int) : Ratio :=
  let (numerator, denominator) := twoPow e
  ⟨r.numerator * numerator, r.denominator * denominator⟩

/-- The power of two of the first binary digit of a value that is not zero. -/
def Ratio.binaryExponent (r : Ratio) : Int :=
  let guess := (Nat.log2 r.numerator : Int) - Nat.log2 r.denominator
  let scaled := r.shifted (-guess)
  if scaled.denominator ≤ scaled.numerator then guess else guess - 1

/-- The nearest number of a format, if there is one. -/
def BinaryFormat.nearest? (f : BinaryFormat) (r : Ratio) : Option Ratio :=
  if r.numerator = 0 then some r
  else
    let unit := max f.bottom (r.binaryExponent - f.bits + 1)
    let scaled := r.shifted (-unit)
    let found := (Ratio.mk (roundHalfEven scaled.numerator scaled.denominator) 1).shifted unit
    if found.numerator = 0 ∨ found.binaryExponent < f.top then some found else none

/-- Whether a value is so small that a format has fewer digits for it, and not enough. -/
def BinaryFormat.isBlurred (f : BinaryFormat) (r : Ratio) : Bool :=
  r.numerator ≠ 0 && r.binaryExponent < f.bottom + f.bits - 1 &&
    (f.nearest? r).any fun found =>
      found.numerator * r.denominator ≠ r.numerator * found.denominator

/-- The hexadecimal digits of a value, of which the first one has so many binary digits, and the
power of two that they are to be multiplied by: as many digits behind the point as are asked for, or
as are needed. -/
def Ratio.hexadecimal (r : Ratio) (f : BinaryFormat) (lead : Nat) (places : Option Nat) :
    List Char × Int :=
  let all := (f.bits - lead + 3) / 4
  let places' := places.getD all
  if r.numerator = 0 then ('0' :: List.replicate (places.getD 0) '0', 0)
  else
    let exponent := r.binaryExponent - lead + 1
    let scaled := r.shifted (4 * places' - exponent)
    let digits := roundHalfEven scaled.numerator scaled.denominator
    let isOver := Nat.pow 16 (places' + 1) ≤ digits
    let cs := Nat.toDigits 16 (if isOver then digits / 16 else digits)
    let cs := match places with
      | some _ => cs
      | none => cs.take 1 ++ ((cs.drop 1).reverse.dropWhile (· = '0')).reverse
    (cs, if isOver then exponent + 4 else exponent)

end ContestJudge.Decimal
