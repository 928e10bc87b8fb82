import ContestJudge.Shell.Escape
import ContestJudge.Shell.Numeral
import ContestJudge.Shell.Quoting

/-!
# Formats

A format is a text with directives, each of which writes one argument. It is used again as long as
there are arguments left. The shell and the system have formats of their own, which differ in a few
rules and in their complaints.
-/

namespace ContestJudge.Shell

open Decimal

/-- What differs between formats. -/
structure Dialect where
  /-- Whether the escapes of the system are known as well, and have to be complete. -/
  isRich : Bool
  /-- How real numbers are kept. -/
  reals : BinaryFormat
  /-- The wording for an argument that is no number. -/
  notNumber : String → String
  /-- The wording for an argument only the start of which is a number. -/
  notWhole : String → String
  /-- The wording for a number that does not fit. -/
  notFitting : String → String
  /-- The wording for a directive that is not known. -/
  badDirective : String → String

/-- A part of what comes of a format. -/
inductive Outcome where
  | text (text : String)
  /-- A complaint, which makes the whole fail. -/
  | complaint (text : String)
  /-- A complaint that changes nothing. -/
  | warning (text : String)
  deriving DecidableEq, Repr

/-- What writing a format has given so far. -/
structure Printed where
  /-- What came of it, in reverse. -/
  outcomes : List Outcome := []
  /-- The arguments that are left. -/
  arguments : List String
  /-- A complaint that ended everything. -/
  fault : Option String := none
  /-- Whether an escape has ended everything. -/
  isEnded : Bool := false

namespace Printed

/-- Adds something. -/
def add (p : Printed) (outcome : Outcome) : Printed := { p with outcomes := outcome :: p.outcomes }

/-- Adds a text. -/
def say (p : Printed) (text : String) : Printed := p.add (.text text)

/-- Whether nothing more is to be written. -/
def isOver (p : Printed) : Bool := p.fault.isSome || p.isEnded

/-- The text that was written. -/
def text (p : Printed) : String :=
  String.join <| p.outcomes.reverse.filterMap fun
    | .text text => some text
    | _ => none

/-- The complaints that make the whole fail. -/
def complaints (p : Printed) : List String :=
  p.outcomes.reverse.filterMap fun
    | .complaint text => some text
    | _ => none

/-- Takes an argument. -/
def take (p : Printed) : String × Printed :=
  (p.arguments.headD "", { p with arguments := p.arguments.tail })

/-- Complains about an argument, if it was not read as a whole, or does not fit. -/
def check (p : Printed) (dialect : Dialect) (argument : String) (isNumber : Bool)
    (rest : List Char) (fits : Bool) : Printed :=
  if !fits then p.add (.complaint (dialect.notFitting argument))
  else if rest = [] then p
  else p.add (.complaint (if isNumber then dialect.notWhole argument
    else dialect.notNumber argument))

/-- The number of the character behind a quote at the start of an argument. -/
def quotedNumber? (dialect : Dialect) (argument : String) : Option (Nat × Option Outcome) :=
  match argument.toList with
  | q :: rest =>
    if q ≠ '"' ∧ q ≠ '\x27' then none
    else match rest with
      | [] => if dialect.isRich then none else some (0, none)
      | [c] => some (c.toNat, none)
      | c :: more =>
        let warning := s!"warning: {String.ofList more}: " ++
          "character(s) following character constant have been ignored"
        some (c.toNat, if dialect.isRich then some (.warning warning) else none)
  | [] => none

/-- Takes an argument as a number, which `read` finds if it is no quoted character. -/
def takeNumber {α : Type} (p : Printed) (dialect : Dialect) (ofNat : Nat → α)
    (read : List Char → Option (α × Bool × List Char)) : α × Printed :=
  let (argument, p) := p.take
  match quotedNumber? dialect argument with
  | some (n, warning?) => (ofNat n, (warning?.map p.add).getD p)
  | none =>
    match read argument.toList with
    | some (n, fits, rest) => (n, p.check dialect argument true rest fits)
    | none => (ofNat 0, p.check dialect argument false argument.toList true)

/-- Takes an argument as an integer. -/
def takeInteger (p : Printed) (dialect : Dialect) : Int × Printed :=
  p.takeNumber dialect (fun n => (n : Int)) fun cs =>
    (splitInteger? cs).map fun (negative, n, rest) =>
      let value : Int := if negative then -n else n
      let fit := max (-integerBound) (min (integerBound - 1) value)
      (fit, fit = value, rest)

/-- Takes an argument as a natural number; a negative one wraps around. -/
def takeNatural (p : Printed) (dialect : Dialect) : Nat × Printed :=
  p.takeNumber dialect id fun cs =>
    (splitInteger? cs).map fun (negative, n, rest) =>
      let bound := Nat.pow 2 64
      let value := if bound ≤ n then bound - 1 else if negative then (bound - n) % bound else n
      (value, n < bound, rest)

/-- Takes an argument as a real number. -/
def takeReal (p : Printed) (dialect : Dialect) : (Bool × RealNumber) × Printed :=
  p.takeNumber dialect (fun n => (false, RealNumber.finite ⟨n, 1⟩)) fun cs =>
    (splitReal? dialect.reals cs).map fun r => ((r.isNegative, r.number), r.fits, r.rest)

/-- Writes what a backslash begins in an argument where escapes have to be complete. -/
def strictEscapes (octalZero : Bool) : (fuel : Nat) → Printed → List Char → Printed
  | 0, p, _ => p
  | _ + 1, p, [] => p
  | _ + 1, p, '\\' :: 'c' :: _ => { p with isEnded := true }
  | fuel + 1, p, '\\' :: rest =>
    match splitStrictEscape octalZero rest with
    | .ok (text, rest) => strictEscapes octalZero fuel (p.say (String.ofList text)) rest
    | .error fault => { p with fault := some fault.message }
  | fuel + 1, p, c :: rest => strictEscapes octalZero fuel (p.say c.toString) rest

/-- Writes an argument by a directive, whose text is given for complaints. -/
def write (p : Printed) (dialect : Dialect) (d : Directive) (source : String) : Printed :=
  let kind := d.kind
  if kind = 's' then
    let (argument, p) := p.take
    p.say (d.text argument)
  else if kind = 'b' then
    let (argument, p) := p.take
    if dialect.isRich then p.strictEscapes true (argument.length + 1) argument.toList
    else
      let (text, ended) := unescapeText false argument
      { p.say (d.text text) with isEnded := ended }
  else if kind = 'q' ∧ dialect.isRich then
    if p.arguments = [] then p
    else
      let (argument, p) := p.take
      p.say (shellWord argument)
  else if kind = 'c' then
    let (argument, p) := p.take
    p.say (d.pad false "" (argument.toList.head?.getD '\x00').toString)
  else if "di".contains kind then
    let (n, p) := p.takeInteger dialect
    p.say (d.integer n)
  else if "ouxX".contains kind then
    let (n, p) := p.takeNatural dialect
    p.say (d.natural n)
  else if "eEfFgGaA".contains kind then
    let ((negative, number), p) := p.takeReal dialect
    p.say (d.real dialect.reals negative number)
  else { p with fault := some (dialect.badDirective source) }

/-- Whether the parts of a directive fit together where that is looked at. -/
def isSound (flags : List Char) (hasPrecision : Bool) (source : List Char) (kind : Char) : Bool :=
  let refused := flags.flatMap fun
    | '#' => "cdisu".toList
    | '0' => "cs".toList
    | '\x27' => "aAceEosxX".toList
    | 'I' => "aAceEosxX".toList
    | _ => []
  "aAcdeEfFgGiosuxX".contains kind && !refused.contains kind && !(hasPrecision && kind = 'c')
    || source.length = 2 && "bq".contains kind

/-- The most characters that a directive writes. -/
def widest : Nat := Nat.pow 2 22

/-- Splits off a width or a precision, which may be the next argument. -/
def splitSize (p : Printed) (dialect : Dialect) (what : String) (cs : List Char) :
    Option Int × Printed × List Char :=
  match cs with
  | '*' :: rest =>
    let argument := p.arguments.headD ""
    let (n, p) := p.takeInteger dialect
    let isTooLarge := (n < -Nat.pow 2 31 && what = "field width") || (Nat.pow 2 31 : Int) ≤ n
    if dialect.isRich ∧ isTooLarge then
      (some 0, { p with fault := some s!"invalid {what}: {quoted argument}" }, rest)
    else (some (Int.bmod n (Nat.pow 2 32)), p, rest)
  | cs =>
    let (digits, rest) := cs.span Char.isDigit
    (if digits = [] then none else some ((splitDigits 10 digits).1 : Int), p, rest)

/-- Writes a format once. -/
def once (dialect : Dialect) : (fuel : Nat) → Printed → List Char → Printed
  | 0, p, _ => p
  | _ + 1, p, [] => p
  | fuel + 1, p, '\\' :: rest =>
    if dialect.isRich then
      if rest.head? = some 'c' then { p with isEnded := true }
      else match splitStrictEscape false rest with
        | .ok (text, rest) => once dialect fuel (p.say (String.ofList text)) rest
        | .error fault => { p with fault := some fault.message }
    else match splitEscape false rest with
      | some (c, rest) => once dialect fuel (p.say c.toString) rest
      | none => once dialect fuel (p.say "\\") rest
  | fuel + 1, p, '%' :: '%' :: rest => once dialect fuel (p.say "%") rest
  | fuel + 1, p, '%' :: rest =>
    let signs := if dialect.isRich then "-+ 0#\x27I" else "-+ 0#"
    let (flags, afterFlags) := rest.span fun c => signs.contains c
    let (width?, p, afterWidth) := p.splitSize dialect "field width" afterFlags
    let (precision?, p, after) := match afterWidth with
      | '.' :: behind =>
        let (n?, p, after) := p.splitSize dialect "precision" behind
        (some (n?.getD 0), p, after)
      | after => (none, p, after)
    if p.isOver then p
    else
      let after := if dialect.isRich then after.dropWhile fun c => "lLhjtz".contains c else after
      let source := '%' :: rest.take (rest.length + 1 - max 1 after.length)
      match after with
      | [] =>
        let source := String.ofList source
        { p with fault := some (if dialect.isRich then dialect.badDirective source
          else "missing format character") }
      | kind :: after =>
        let width := width?.getD 0
        let d : Directive := {
          flags := if width < 0 then '-' :: flags else flags
          width := min widest width.natAbs
          precision := precision?.bind fun n => if n < 0 then none else some (min widest n.toNat)
          kind }
        let p :=
          if dialect.isRich ∧ !isSound flags precision?.isSome source kind then
            { p with fault := some (dialect.badDirective (String.ofList source)) }
          else p.write dialect d (String.ofList source)
        if p.isOver then p else once dialect fuel p after
  | fuel + 1, p, c :: rest =>
    let (plain, rest) := (c :: rest).span fun c => c ≠ '\\' && c ≠ '%'
    once dialect fuel (p.say (String.ofList plain)) rest

/-- Writes a format as often as there are arguments for it. -/
def all (dialect : Dialect) (format : List Char) : (fuel : Nat) → Printed → Printed
  | 0, p => p
  | fuel + 1, p =>
    let next := once dialect (format.length + 1) p format
    if next.isOver ∨ next.arguments = [] ∨ next.arguments.length = p.arguments.length then next
    else all dialect format fuel next

end Printed

/-- Writes arguments by a format. -/
def printed (dialect : Dialect) (format : String) (arguments : List String) : Printed :=
  .all dialect format.toList (arguments.length + 1) { arguments }

/-- The formats of the shell. -/
def shellDialect : Dialect where
  isRich := false
  reals := .double
  notNumber argument := s!"{argument}: expected numeric value"
  notWhole argument := s!"{argument}: not completely converted"
  notFitting argument := s!"{argument}: Numerical result out of range"
  badDirective source := s!"{source}: invalid directive"

/-- The formats of the system. -/
def systemDialect : Dialect where
  isRich := true
  reals := .extended
  notNumber argument := s!"{quoted argument}: expected a numeric value"
  notWhole argument := s!"{quoted argument}: value not completely converted"
  notFitting argument := s!"{quoted argument}: Numerical result out of range"
  badDirective source := s!"{source}: invalid conversion specification"

end ContestJudge.Shell
