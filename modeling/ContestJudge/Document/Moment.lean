import ContestJudge.Decimal.Positional
import ContestJudge.Decimal.Reading

/-!
# Dates and times

A date is written `1979-05-27`, a time `07:32:00`, and a time may follow a date and be followed by
its distance from universal time. A `Moment` is kept by its parts, so however it was written, it is
shown in one way: with a `T` between date and time, a fraction of nine digits at most and without
trailing zeros, and a capital `Z`. In a document the parts are checked one by one, and a day is
between 1 and 31 in any month; a text that stands for a moment must name a day that its month has.
-/

namespace ContestJudge.Document

/-- A day of a year. -/
structure Date where
  year : Nat
  month : Nat
  day : Nat
  deriving DecidableEq, Repr

/-- A time of a day. -/
structure TimeOfDay where
  hour : Nat
  minute : Nat
  second : Nat
  nanosecond : Nat
  deriving DecidableEq, Repr

/-- A distance from universal time. -/
inductive Offset where
  | universal
  /-- So many minutes ahead. -/
  | ahead (minutes : Int)
  deriving DecidableEq, Repr

/-- A date, a time or both. -/
structure Moment where
  date : Option Date := none
  time : Option TimeOfDay := none
  offset : Option Offset := none
  deriving DecidableEq, Repr

/-- A date as it is shown. -/
def Date.text (d : Date) : String :=
  Decimal.padded 4 d.year ++ "-" ++ Decimal.padded 2 d.month ++ "-" ++ Decimal.padded 2 d.day

/-- A time as it is shown. -/
def TimeOfDay.text (t : TimeOfDay) : String :=
  let whole :=
    Decimal.padded 2 t.hour ++ ":" ++ Decimal.padded 2 t.minute ++ ":" ++ Decimal.padded 2 t.second
  if t.nanosecond = 0 then whole
  else whole ++ "." ++ String.ofList (Decimal.fractionDigits 9 t.nanosecond)

/-- A distance from universal time as it is shown. -/
def Offset.text : Offset → String
  | universal => "Z"
  | ahead minutes =>
    (if minutes < 0 then "-" else "+")
      ++ Decimal.padded 2 (minutes.natAbs / 60) ++ ":" ++ Decimal.padded 2 (minutes.natAbs % 60)

/-- A moment as it is shown. -/
def Moment.text (m : Moment) : String :=
  ((m.date.map Date.text).getD "")
    ++ (if m.date.isSome ∧ m.time.isSome then "T" else "")
    ++ ((m.time.map TimeOfDay.text).getD "")
    ++ ((m.offset.map Offset.text).getD "")

/-- Just so many decimal digits. -/
def readFixed (count : Nat) (cs : List Char) : Option (Nat × List Char) :=
  let digits := cs.take count
  if digits.length = count ∧ digits.all Char.isDigit then
    some (Decimal.digitsValue digits, cs.drop count)
  else none

/-- What follows a certain character. -/
def expectChar (c : Char) : List Char → Option (List Char)
  | d :: rest => if c = d then some rest else none
  | [] => none

/-- How many days a month has. -/
def daysInMonth (year month : Nat) : Nat :=
  if month = 2 then if year % 4 = 0 ∧ (year % 100 ≠ 0 ∨ year % 400 = 0) then 29 else 28
  else if month = 4 ∨ month = 6 ∨ month = 9 ∨ month = 11 then 30 else 31

/-- Whether the month of a date has that day. -/
def Date.isReal (d : Date) : Bool := d.day ≤ daysInMonth d.year d.month

/-- A date. -/
def readDate (cs : List Char) : Option (Date × List Char) := do
  let (year, cs) ← readFixed 4 cs
  let (month, cs) ← readFixed 2 (← expectChar '-' cs)
  let (day, cs) ← readFixed 2 (← expectChar '-' cs)
  if 1 ≤ month ∧ month ≤ 12 ∧ 1 ≤ day ∧ day ≤ 31 then some (⟨year, month, day⟩, cs) else none

/-- A fraction of a second in nanoseconds, if there is one; further digits are cut off. -/
def readSubsecond : List Char → Nat × List Char
  | '.' :: c :: rest =>
    if c.isDigit then
      let digits := (c :: rest.takeWhile Char.isDigit).take 9
      let digits := digits ++ List.replicate (9 - digits.length) '0'
      (Decimal.digitsValue digits, rest.dropWhile Char.isDigit)
    else (0, '.' :: c :: rest)
  | cs => (0, cs)

/-- A time of a day whose hour is at most `lastHour`. A minute may have a leap second. -/
def readTime (lastHour : Nat) (cs : List Char) : Option (TimeOfDay × List Char) := do
  let (hour, cs) ← readFixed 2 cs
  let (minute, cs) ← readFixed 2 (← expectChar ':' cs)
  let (second, cs) ← readFixed 2 (← expectChar ':' cs)
  let (nanosecond, cs) := readSubsecond cs
  if hour ≤ lastHour ∧ minute ≤ 59 ∧ second ≤ 60 then
    some (⟨hour, minute, second, nanosecond⟩, cs)
  else none

/-- A distance from universal time that `allowed` bounds by its hours and minutes. -/
def readOffset (allowed : Nat → Nat → Bool) : List Char → Option (Offset × List Char)
  | c :: rest =>
    if c = 'Z' ∨ c = 'z' then some (.universal, rest)
    else if c = '+' ∨ c = '-' then do
      let (hours, cs) ← readFixed 2 rest
      let (minutes, cs) ← readFixed 2 (← expectChar ':' cs)
      let total : Int := (hours * 60 + minutes : Nat)
      if allowed hours minutes then some (.ahead (if c = '-' then -total else total), cs) else none
    else none
  | [] => none

/-- Whether a character may stand between a date and a time. -/
def isTimeMark (c : Char) : Bool := c = 'T' || c = 't' || c = ' '

namespace Moment

/-- A moment at the start of what is left of a document. What follows a date and is no time is left.
-/
def read (cs : List Char) : Option (Moment × List Char) :=
  match readDate cs with
  | none => (readTime 23 cs).map fun (time, rest) => ({ time := some time }, rest)
  | some (date, cs) =>
    let timed := match cs with
      | c :: rest => if isTimeMark c then readTime 23 rest else none
      | [] => none
    match timed with
    | none => some ({ date := some date }, cs)
    | some (time, rest) =>
      match readOffset (fun hours minutes => hours ≤ 23 && minutes ≤ 59) rest with
      | none => some ({ date := some date, time := some time }, rest)
      | some (offset, rest) => some (⟨some date, some time, some offset⟩, rest)

/-- The moment that a whole text stands for. Here the last hour is 24, and a date may do without a
time and still have an offset, of a day at most. -/
def ofText? (text : String) : Option Moment := do
  let cs := text.toList
  if cs[2]? = some ':' then
    let (time, rest) ← readTime 24 cs
    if rest.isEmpty then some { time := some time } else none
  else
    let (date, cs) ← readDate cs
    guard date.isReal
    let (time, cs) ← match cs with
      | c :: rest =>
        if isTimeMark c then (readTime 24 rest).map fun (time, rest) => (some time, rest)
        else some (none, cs)
      | [] => some (none, [])
    if cs.isEmpty then some ⟨some date, time, none⟩
    else
      let (offset, rest) ← readOffset (fun hours minutes => hours * 60 + minutes ≤ 24 * 60) cs
      if rest.isEmpty then some ⟨some date, time, some offset⟩ else none

end Moment

end ContestJudge.Document
