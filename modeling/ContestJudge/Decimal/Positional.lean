import ContestJudge.Decimal.Shortest

/-!
# Numbers in messages

A number in a message has its shortest digits and never an exponent. Two styles differ in whole
numbers: a plain one is `20`, a pointed one `20.0`.
-/

namespace ContestJudge.Decimal

/-- `digits * 10 ^ k` without an exponent. -/
def positional (digits : Nat) (k : Int) : String :=
  let text := Nat.toDigits 10 digits
  if 0 ≤ k then String.ofList (text ++ List.replicate k.toNat '0')
  else
    let places := (-k).toNat
    let padded := List.replicate (places + 1 - text.length) '0' ++ text
    let whole := padded.length - places
    String.ofList (padded.take whole ++ '.' :: padded.drop whole)

/-- A number in the plain style. -/
def plain (x : Float) : String :=
  match classify x with
  | .notANumber => "NaN"
  | .infinite negative => if negative then "-inf" else "inf"
  | .finite b =>
    let (digits, k) := shortest b
    (if b.negative then "-" else "") ++ positional digits k

/-- A number in the pointed style: a finite one always shows a point. -/
def pointed (x : Float) : String :=
  let text := plain x
  match classify x with
  | .finite _ => if text.contains '.' then text else text ++ ".0"
  | _ => text

/-!
### Numbers with exponents

The style of numbers in JSON: shortest digits, positional while the point stays within sixteen
places after the first digit and five before it, and with an exponent beyond.
-/

/-- `digits * 10 ^ k` with one digit before the point and an exponent. -/
def exponential (digits : Nat) (k : Int) : String :=
  match Nat.toDigits 10 digits with
  | [] => ""
  | first :: rest =>
    let fraction := if rest.isEmpty then "" else "." ++ String.ofList rest
    first.toString ++ fraction ++ "e" ++ toString (k + rest.length)

/-- A finite number in the style of JSON; what is no finite number has no digits and is named. -/
def scientific (x : Float) : String :=
  match classify x with
  | .finite b =>
    let (digits, k) := shortest b
    let point := k + (Nat.toDigits 10 digits).length
    if digits = 0 ∨ (-5 < point ∧ point ≤ 16) then pointed x
    else (if b.negative then "-" else "") ++ exponential digits k
  | _ => plain x

/-!
### Decimals of a fixed width

Zeros in front fill a number up to its width. Behind a point, zeros at the end say nothing and are
left out.
-/

/-- The digits of a number, with zeros in front up to a width. -/
def paddedDigits (width n : Nat) : List Char :=
  let digits := Nat.toDigits 10 n
  List.replicate (width - digits.length) '0' ++ digits

/-- A number with zeros in front up to a width. -/
def padded (width n : Nat) : String := String.ofList (paddedDigits width n)

/-- The digits behind the point of `part / 10 ^ places`, without zeros at the end. -/
def fractionDigits (places part : Nat) : List Char :=
  ((paddedDigits places part).reverse.dropWhile (· = '0')).reverse

end ContestJudge.Decimal
