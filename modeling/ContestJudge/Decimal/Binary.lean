/-!
# Floating point numbers as exact values

A finite double is a sign and a natural number times a power of two. `classify` reads those off the
bits, so that rounding and printing can be decided in exact arithmetic on natural numbers.
-/

namespace ContestJudge.Decimal

/-- An exact value: plus or minus `significand * 2 ^ exponent`. -/
structure Binary where
  /-- Whether the sign bit is set. -/
  negative : Bool
  /-- The integer factor; below `2 ^ 53`. -/
  significand : Nat
  /-- The power of two. -/
  exponent : Int
  deriving DecidableEq, Repr

/-- The three kinds of doubles. -/
inductive Kind where
  | notANumber
  | infinite (negative : Bool)
  | finite (value : Binary)
  deriving DecidableEq, Repr

/-- Reads a double's bits. Subnormal numbers share the least exponent and lack the leading bit. -/
def classify (x : Float) : Kind :=
  let bits : Nat := x.toBits.toNat
  let negative : Bool := bits / Nat.pow 2 63 = 1
  let stored : Nat := bits / Nat.pow 2 52 % Nat.pow 2 11
  let fraction : Nat := bits % Nat.pow 2 52
  if stored = 2047 then
    if fraction = 0 then .infinite negative else .notANumber
  else if stored = 0 then .finite ⟨negative, fraction, -1074⟩
  else .finite ⟨negative, fraction + Nat.pow 2 52, Int.ofNat stored - 1075⟩

/-- The power of two `2 ^ e` as a fraction `numerator / denominator`. -/
def twoPow (e : Int) : Nat × Nat := (Nat.pow 2 e.toNat, Nat.pow 2 (-e).toNat)

/-- `numerator / denominator` to the nearest natural number; a half goes to the even neighbour. -/
def roundHalfEven (numerator denominator : Nat) : Nat :=
  let whole := numerator / denominator
  let rest := 2 * (numerator % denominator)
  if rest < denominator ∨ rest = denominator ∧ whole % 2 = 0 then whole else whole + 1

end ContestJudge.Decimal
