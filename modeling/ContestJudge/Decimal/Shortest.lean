import ContestJudge.Decimal.Binary

/-!
# The shortest decimal that reads back

Every double is the nearest double of an interval of reals. `shortest` finds a decimal in that
interval with the fewest digits, and of those the nearest to the double: for 1, 2, … digits it tests
the two points of the decimal grid next to the value, in exact arithmetic.
-/

namespace ContestJudge.Decimal

/-- The reals that read as one double, as fractions with one denominator. -/
structure Span where
  /-- The numerator of the lower end. -/
  low : Nat
  /-- The numerator of the double itself. -/
  value : Nat
  /-- The numerator of the upper end. -/
  high : Nat
  /-- The common denominator. -/
  denominator : Nat
  /-- Whether the ends read as the double too. -/
  closed : Bool
  deriving Repr

/-- The ends lie halfway to the neighbours; below a power of two the neighbour is half as far. Ends
belong to the even significand. -/
def Span.ofBinary (b : Binary) : Span :=
  let m := b.significand
  let (numerator, denominator) := twoPow (b.exponent - 2)
  let below := if m = Nat.pow 2 52 ∧ b.exponent > -1074 then 4 * m - 1 else 4 * m - 2
  ⟨below * numerator, 4 * m * numerator, (4 * m + 2) * numerator, denominator, m % 2 = 0⟩

/-- Whether `digits * 10 ^ k` reads as the double. -/
def Span.holds (s : Span) (digits : Nat) (k : Int) : Bool :=
  let point := digits * Nat.pow 10 k.toNat * s.denominator
  let scale := Nat.pow 10 (-k).toNat
  if s.closed then s.low * scale ≤ point && point ≤ s.high * scale
  else s.low * scale < point && point < s.high * scale

/-- The greatest `e` with `10 ^ e ≤ value`, for a positive value. -/
def Span.magnitude (s : Span) : Int :=
  if s.denominator ≤ s.value then ((Nat.toDigits 10 (s.value / s.denominator)).length : Int) - 1
  else
    let guess := (Nat.toDigits 10 (s.denominator / s.value)).length
    if s.denominator ≤ s.value * Nat.pow 10 (guess - 1) then -((guess : Int) - 1) else -(guess : Int)

/-- The point of the grid of `count` digits that reads as the double, if there is one: the nearer of
the two next to the value, and the upper one when both are equally near. -/
def Span.onGrid (s : Span) (count : Nat) : Option (Nat × Int) :=
  let k := s.magnitude - count + 1
  let unit := s.denominator * Nat.pow 10 k.toNat
  let scaled := s.value * Nat.pow 10 (-k).toNat
  let digits := scaled / unit
  let rest := 2 * (scaled % unit)
  match s.holds digits k, s.holds (digits + 1) k with
  | true, true => some (if rest < unit then digits else digits + 1, k)
  | true, false => some (digits, k)
  | false, true => some (digits + 1, k)
  | false, false => none

/-- Moves zeros at the end of the digits into the exponent. -/
def stripZeros (fuel : Nat) (digits : Nat) (k : Int) : Nat × Int :=
  match fuel with
  | 0 => (digits, k)
  | fuel + 1 => if digits % 10 = 0 then stripZeros fuel (digits / 10) (k + 1) else (digits, k)

/-- The shortest digits and power of ten that read as a value; 17 digits always suffice. -/
def shortest (b : Binary) : Nat × Int :=
  if b.significand = 0 then (0, 0)
  else
    let span := Span.ofBinary b
    let found := (List.range 17).findSome? fun n => span.onGrid (n + 1)
    let (digits, k) := found.getD (0, 0)
    stripZeros 20 digits k

end ContestJudge.Decimal
