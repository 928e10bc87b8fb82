import ContestJudge.Shell.Numeral
import ContestJudge.Shell.Utility.Basic

/-!
# Utilities that count

Waiting for a time, and writing numbers: those of an arithmetic progression, and the prime factors of
others. Progressions are computed exactly.
-/

namespace ContestJudge.Shell.Utility

open Decimal

/-- A real number that makes up a whole text. -/
def wholeReal? (text : String) : Option RealNumeral :=
  (splitReal? .extended text.toList).filter (·.rest = [])

/-- The milliseconds of the units of time. -/
def timeUnits : List (Char × Nat) := [('s', 1000), ('m', 60000), ('h', 3600000), ('d', 86400000)]

/-- The milliseconds of a time with a unit; seconds need none. What lasts longer than anything is cut
off. -/
def interval? (text : String) : Option Nat :=
  match splitReal? .extended text.toList with
  | none => none
  | some r =>
    let unit? := match r.rest with
      | [] => some 1000
      | [c] => timeUnits.lookup c
      | _ => none
    match unit?, r.number with
    | none, _ => none
    | some _, .notANumber => none
    | some _, .infinite => if r.isNegative then none else some longest
    | some unit, .finite value =>
      if r.isNegative ∧ value.numerator ≠ 0 then none
      else some (min longest (value.numerator * unit / value.denominator))
where
  /-- A time that nothing else lasts. -/
  longest : Nat := Nat.pow 10 15

/-- Waits for the sum of some times. -/
def sleep : Utility :=
  Usage.run {} fun _ operands s =>
    let bad := operands.filter fun operand => (interval? operand).isNone
    if operands = [] then s.misuse "missing operand"
    else if bad = [] then
      { files := s.files, duration := (operands.filterMap interval?).foldl (· + ·) 0 }
    else s.misuse (s!"\n{s.name}: ".intercalate
      (bad.map fun operand => s!"invalid time interval {quoted operand}"))

/-- A bound or the step of a progression. -/
structure Bound where
  /-- Whether it is negative. -/
  isNegative : Bool
  /-- Its magnitude, if it is finite. -/
  magnitude : Option Ratio
  /-- The number of digits behind its point, if it is a decimal. -/
  places : Option Nat
  /-- The number of characters that it takes. -/
  width : Int

namespace Bound

/-- The numerator of a bound, with its sign. -/
def signed (b : Bound) (r : Ratio) : Int := if b.isNegative then -r.numerator else r.numerator

/-- Reads a bound. -/
def read (text : String) : Except String Bound :=
  match wholeReal? text with
  | none => .error s!"invalid floating point argument: {quoted text}"
  | some { number := .notANumber, .. } =>
    .error s!"invalid 'not-a-number' argument: {quoted text}"
  | some { number := .infinite, isNegative, .. } => .ok ⟨isNegative, none, some 0, 0⟩
  | some { number := .finite r, isNegative, .. } =>
    let cs := text.toList.dropWhile fun c => isSpace c || c = '+'
    if cs.any fun c => c = 'x' || c = 'X' then
      .ok ⟨isNegative, some r, if cs.any (fun c => c = '.' || c = 'p') then none else some 0, 0⟩
    else
      let (mantissa, rest) := cs.span fun c => c ≠ 'e' && c ≠ 'E'
      let fraction := ((mantissa.dropWhile (· ≠ '.')).drop 1).length
      let hasPoint := mantissa.contains '.'
      let width : Int := mantissa.length
      let digits := (mantissa.takeWhile (· ≠ '.')).filter Char.isDigit
      let width := if !hasPoint then width
        else if fraction = 0 then width - 1
        else if digits = [] then width + 1 else width
      let exponent := (splitExponent 'e' rest).1
      let places := fraction + (if exponent < 0 then exponent.natAbs else 0)
        - min fraction exponent.toNat
      let width :=
        if exponent < 0 then width + exponent.natAbs + if !hasPoint ∨ fraction = 0 then 1 else 0
        else width + (exponent.toNat - fraction : Nat)
          - if 0 < exponent ∧ places = 0 ∧ 0 < fraction then 1 else 0
      let magnitude := Ratio.ofDecimal (digitsValue mantissa) (exponent - fraction)
      let isSmall := exponent.natAbs < 5000
      .ok ⟨isNegative, some (if isSmall then magnitude else r), some places, width⟩

/-- Whether a bound is zero. -/
def isZero (b : Bound) : Bool := b.magnitude.any (·.numerator = 0)

end Bound

/-- How the numbers of a progression are written. -/
structure Layout where
  /-- What stands in front of a number. -/
  start : String
  /-- How the number itself is written. -/
  directive : Directive
  /-- What stands behind it. -/
  finish : String

/-- Where the directive of a format begins: the text in front of it, and it. -/
def splitAtDirective : (fuel : Nat) → List Char → List Char × List Char
  | 0, cs => ([], cs)
  | _ + 1, [] => ([], [])
  | fuel + 1, '%' :: '%' :: rest =>
    let (start, rest) := splitAtDirective fuel rest
    ('%' :: start, rest)
  | _ + 1, '%' :: rest => ([], '%' :: rest)
  | fuel + 1, c :: rest =>
    let (start, rest) := splitAtDirective fuel rest
    (c :: start, rest)

/-- Reads a format with one directive for a real number. -/
def Layout.read (format : String) : Except String Layout := do
  let name := s!"format {quoted format}"
  let fuel := format.length + 1
  let (start, rest) := splitAtDirective fuel format.toList
  match rest with
  | [] => throw s!"{name} has no % directive"
  | _ :: rest =>
    let (flags, rest) := rest.span fun c => "-+#0 \x27".contains c
    let (width, rest) := rest.span Char.isDigit
    let (precision, rest) : Option (List Char) × List Char := match rest with
      | '.' :: rest => let (digits, rest) := rest.span Char.isDigit; (some digits, rest)
      | rest => (none, rest)
    let rest := if rest.head? = some 'L' then rest.drop 1 else rest
    match rest with
    | [] => throw s!"{name} ends in %"
    | kind :: rest =>
      if !"efgaEFGA".contains kind then throw s!"{name} has unknown %{kind} directive"
      let (finish, more) := splitAtDirective fuel rest
      if more ≠ [] then throw s!"{name} has too many % directives"
      let directive : Directive := {
        flags
        width := min (Nat.pow 2 16) (digitsValue width)
        precision := precision.map fun digits => min (Nat.pow 2 16) (digitsValue digits)
        kind }
      return { start := String.ofList start, directive, finish := String.ofList finish }

/-- The usual way of writing a progression: with as many digits behind the point as its first number
or its step has, and filled up with zeros if all numbers are to be equally wide. -/
def Layout.usual (first step last : Bound) (isEven : Bool) : Layout :=
  match first.places, step.places, last.places with
  | some a, some b, some c =>
    let places := max a b
    let point := fun (own : Nat) =>
      if own = 0 ∧ places ≠ 0 then 1 else if own ≠ 0 ∧ places = 0 then -1 else (0 : Int)
    let width := fun (bound : Bound) (own : Nat) => bound.width + (places - own : Int) + point own
    let directive : Directive :=
      if isEven then
        { flags := ['0'], precision := some places, kind := 'f'
          width := (max (width first a) (width last c)).toNat }
      else { flags := [], width := 0, precision := some places, kind := 'f' }
    { start := "", directive, finish := "" }
  | _, _, _ =>
    { start := "", finish := ""
      directive := { flags := [], width := 0, precision := none, kind := 'g' } }

/-- The number `n / d` without what surrounds it. -/
def Layout.digits (l : Layout) (isNegative : Bool) (n : Int) (d : Nat) : String :=
  l.directive.real .extended (isNegative || n < 0) (.finite ⟨n.natAbs, d⟩)

/-- The numbers `first / d`, `(first + step) / d` and so on up to `last / d`, each as it is written,
and whether there are more than are wanted. The first one may be a negative zero. A number just behind the last one belongs to them if it
looks like that and not like the one before. -/
def progression (l : Layout) (d : Nat) (step : Int) (last : Option Int) (isNegative : Bool) :
    (wanted : Nat) → Int → List String × Bool
  | 0, _ => ([], true)
  | wanted + 1, now =>
    let isBehind := fun (n : Int) => last.any fun last => if step < 0 then n < last else last < n
    let shown := l.digits isNegative now d
    if isBehind now then ([], false)
    else
      let next := now + step
      if isBehind next then
        let extra := l.digits false next d
        let looksLast : Bool := match wholeReal? extra, last with
          | some { number := .finite r, isNegative, .. }, some last =>
            (if isNegative then -(r.numerator : Int) else r.numerator) * d = last * r.denominator
          | _, _ => false
        if looksLast ∧ extra ≠ shown then ([shown, extra], false) else ([shown], false)
      else
        let (more, isCut) := progression l d step last false wanted next
        (shown :: more, isCut)

/-- The options of the utility for progressions. -/
def progressionUsage : Usage where
  letters := "f:s:w"
  names := [("equal-width", 'w'), ("format", 'f'), ("separator", 's')]
  isFree := false

/-- The most numbers that are written. -/
def progressionLimit : Nat := 350000

/-- Writes the numbers of a progression: from one on, or from the first operand on, up to the last
one, by the one in the middle. -/
def seq : Utility := fun arguments s =>
  let (before, after) := separate arguments
  match progressionUsage.parse before with
  | .error complaint => s.misuse complaint
  | .ok (o, found) =>
    let operands := found ++ after
    let attempt : Except Effect Effect := do
      if operands = [] then throw (s.misuse "missing operand")
      if let some extra := operands[3]? then throw (s.misuse s!"extra operand {quoted extra}")
      let format? := o.value? 'f'
      let given? ← match format? with
        | some format =>
          match Layout.read format with
          | .ok layout => pure (some layout)
          | .error complaint => throw (s.refuse s.files complaint)
        | none => pure none
      if given?.isSome ∧ o.has 'w' then
        throw (s.misuse "format string may not be specified when printing equal width strings")
      let bound := fun (text : String) => (Bound.read text).mapError fun complaint =>
        s.misuse complaint
      let one : Bound := ⟨false, some ⟨1, 1⟩, some 0, 1⟩
      let (first, step, last) ← match operands with
        | [last] => pure (one, one, ← bound last)
        | [first, last] => pure (← bound first, one, ← bound last)
        | first :: step :: rest => do
          let first ← bound first
          let stride ← bound step
          if stride.isZero then throw (s.misuse s!"invalid Zero increment value: {quoted step}")
          pure (first, stride, ← bound (rest.headD ""))
        | [] => pure (one, one, one)
      let layout := given?.getD (Layout.usual first step last (o.has 'w'))
      let (shown, isCut) := numbers layout first step last
      let separator := (o.value? 's').getD "\n"
      let text := separator.intercalate (shown.map fun n => layout.start ++ n ++ layout.finish)
      return { Effect.say s.files (if shown = [] then "" else text ++ "\n") with isEndless := isCut }
    match attempt with
    | .ok effect => effect
    | .error effect => effect
where
  /-- Separates options and what belongs to them from negative numbers, which look alike. -/
  separate : List String → List String × List String
    | [] => ([], [])
    | word :: rest =>
      match word.toList with
      | ['-', '-'] => ([], rest)
      | '-' :: c :: more =>
        if c = '.' ∨ c.isDigit then ([], word :: rest)
        else if (c = 'f' ∨ c = 's') ∧ more = [] ∨ needsValue word then
          match rest with
          | value :: rest => let (before, after) := separate rest; (word :: value :: before, after)
          | [] => ([word], [])
        else let (before, after) := separate rest; (word :: before, after)
      | _ => ([], word :: rest)
  /-- Whether a long option has its argument in the next word. -/
  needsValue (word : String) : Bool :=
    word.length > 2 && !word.contains '=' && ["--format", "--separator"].any (·.startsWith word)
  /-- The numbers between two bounds. -/
  numbers (layout : Layout) (first step last : Bound) : List String × Bool :=
    match first.magnitude, step.magnitude with
    | some a, some b =>
      let d := a.denominator * b.denominator * (last.magnitude.map (·.denominator)).getD 1
      let scaled := fun (bound : Bound) (r : Ratio) => bound.signed r * (d / r.denominator : Nat)
      let finish := last.magnitude.map (scaled last)
      if last.magnitude.isNone ∧ last.isNegative ≠ (scaled step b < 0 : Bool) then ([], false)
      else progression layout d (scaled step b) finish (first.isNegative && first.isZero) progressionLimit
        (scaled first a)
    | some a, none => ([layout.digits first.isNegative (first.signed a) a.denominator], false)
    | _, _ => ([], false)

/-- The prime factors of a number from some factor on. -/
def primeFactors : (fuel : Nat) → (factor n : Nat) → List Nat
  | 0, _, n => [n]
  | fuel + 1, factor, n =>
    if n < 2 then []
    else if n < factor * factor then [n]
    else if n % factor = 0 then factor :: primeFactors fuel factor (n / factor)
    else primeFactors fuel (if factor = 2 then 3 else factor + 2) n

/-- Writes numbers with their prime factors: arguments, or the words of the input. -/
def factor : Utility :=
  Usage.run { letters := "h", names := [("exponents", 'h')] } fun o operands s =>
    let words := (String.ofList s.input).splitToList isSpace |>.filter (· ≠ "")
    let words := if operands = [] then words else operands
    let effect := Effect.forEach s.files words fun word files =>
      let digits := word.toList.dropWhile (· = ' ')
      let digits := if digits.head? = some '+' then digits.drop 1 else digits
      if digits = [] ∨ !digits.all Char.isDigit then
        s.refuse files s!"{quoted word} is not a valid positive integer"
      else
        let n := digitsValue digits
        let factors := primeFactors 1000000 2 n
        let row := (if o.has 'h' then powers factors else factors.map toString).map (" " ++ ·)
        .say files s!"{n}:{String.join row}\n"
    { effect with
      complainsFirst := true
      taken := if operands = [] then some s.input.length else none }
where
  /-- Each of some ascending factors once, with its exponent if that is not one. -/
  powers (factors : List Nat) : List String :=
    factors.eraseDups.map fun p =>
      let count := factors.count p
      if count = 1 then toString p else s!"{p}^{count}"

end ContestJudge.Shell.Utility
