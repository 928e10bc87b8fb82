import ContestJudge.Decimal.Positional

/-!
# Spans of time

A duration is a whole number of nanoseconds. It is read from a number of seconds, rounded to the
nearest nanosecond, and its text uses the largest unit that is reached: `1.5s`, `500ms`, `1.5µs`,
`0ns`.
-/

namespace ContestJudge

/-- A non-negative span of time. -/
structure Duration where
  /-- Its length in nanoseconds. -/
  nanoseconds : Nat
  deriving DecidableEq, Repr, Inhabited

namespace Duration

instance : LE Duration := ⟨fun a b => a.nanoseconds ≤ b.nanoseconds⟩
instance : LT Duration := ⟨fun a b => a.nanoseconds < b.nanoseconds⟩

instance (a b : Duration) : Decidable (a ≤ b) :=
  inferInstanceAs (Decidable (a.nanoseconds ≤ b.nanoseconds))

instance (a b : Duration) : Decidable (a < b) :=
  inferInstanceAs (Decidable (a.nanoseconds < b.nanoseconds))

/-- The nanoseconds in a second. -/
def perSecond : Nat := 1000000000

/-- Whole seconds and nanoseconds. -/
def ofParts (seconds nanoseconds : Nat) : Duration := ⟨seconds * perSecond + nanoseconds⟩

/-- Whole seconds. -/
def ofSeconds (seconds : Nat) : Duration := ofParts seconds 0

/-- Whole milliseconds. -/
def ofMillis (millis : Nat) : Duration := ⟨millis * 1000000⟩

/-- The whole seconds. -/
def seconds (d : Duration) : Nat := d.nanoseconds / perSecond

/-- The nanoseconds past the whole seconds. -/
def fraction (d : Duration) : Nat := d.nanoseconds % perSecond

/-- The whole milliseconds. -/
def millis (d : Duration) : Nat := d.nanoseconds / 1000000

/-- The milliseconds that cover the duration. -/
def ceilMillis (d : Duration) : Nat := (d.nanoseconds + 999999) / 1000000

/-- The seconds at which durations end. -/
def secondsBound : Nat := Nat.pow 2 64

/-- The longest duration. -/
def longest : Duration := ⟨secondsBound * perSecond - 1⟩

/-- The sum, or the longest duration if the sum is longer still. -/
def addCapped (a b : Duration) : Duration :=
  ⟨min (a.nanoseconds + b.nanoseconds) longest.nanoseconds⟩

/-- The length in seconds as a double: the whole seconds and the fraction, each rounded on its own.
-/
def toFloat (d : Duration) : Float :=
  d.seconds.toFloat + d.fraction.toFloat / 1e9

/-- The duration of a number of seconds, rounded to the nearest nanosecond with halves to the even
one. Negative numbers, numbers past the longest duration and what is not a number have none. -/
def ofFloat? (x : Float) : Option Duration :=
  match Decimal.classify x with
  | .notANumber => none
  | .infinite _ => none
  | .finite b =>
    let (numerator, denominator) := Decimal.twoPow b.exponent
    let value := b.significand * numerator
    if b.negative ∧ 0 < b.significand then none
    else if secondsBound * denominator ≤ value then none
    else some ⟨Decimal.roundHalfEven (value * perSecond) denominator⟩

/-- A count of some unit with `places` decimal places below it, without zeros at the end. -/
def decimalText (whole part places : Nat) : String :=
  let kept := Decimal.fractionDigits places part
  toString whole ++ if kept.isEmpty then "" else "." ++ String.ofList kept

/-- The text in the largest unit that is reached. -/
def text (d : Duration) : String :=
  let n := d.nanoseconds
  if perSecond ≤ n then decimalText d.seconds d.fraction 9 ++ "s"
  else if 1000000 ≤ n then decimalText (n / 1000000) (n % 1000000) 6 ++ "ms"
  else if 1000 ≤ n then decimalText (n / 1000) (n % 1000) 3 ++ "µs"
  else toString n ++ "ns"

/-- The text in seconds, whatever the length: `0.25s`. -/
def secondsText (d : Duration) : String := Decimal.plain d.toFloat ++ "s"

end Duration

end ContestJudge
