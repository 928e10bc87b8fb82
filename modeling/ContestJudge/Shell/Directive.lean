import ContestJudge.Decimal.Rounded

/-!
# Directives

A directive says how an argument is written: with which signs, how wide and how precisely.
-/

namespace ContestJudge.Shell

open Decimal

/-- How an argument is written. -/
structure Directive where
  /-- The signs before the width. -/
  flags : List Char
  /-- The least number of characters. -/
  width : Nat
  /-- The number of digits, or of characters at most. -/
  precision : Option Nat
  /-- What is written. -/
  kind : Char
  deriving Repr

namespace Directive

/-- Whether a sign stands before the width. -/
def has (d : Directive) (sign : Char) : Bool := d.flags.contains sign

/-- Fills a text up to the width, with zeros behind its start if that makes sense. -/
def pad (d : Directive) (withZeros : Bool) (start body : String) : String :=
  let room := d.width - (start.length + body.length)
  let fill := fun c => String.ofList (List.replicate room c)
  if d.has '-' then start ++ body ++ fill ' '
  else if d.has '0' ∧ withZeros then start ++ fill '0' ++ body
  else fill ' ' ++ start ++ body

/-- Writes a text. -/
def text (d : Directive) (body : String) : String :=
  d.pad false "" (match d.precision with
    | some n => String.ofList (body.toList.take n)
    | none => body)

/-- The sign of a number. -/
def sign (d : Directive) (negative : Bool) : String :=
  if negative then "-" else if d.has '+' then "+" else if d.has ' ' then " " else ""

/-- Writes the digits of a number behind its start. -/
def digits (d : Directive) (start : String) (base n : Nat) : String :=
  let digits := if n = 0 ∧ d.precision = some 0 then [] else Nat.toDigits base n
  let zeros := List.replicate (d.precision.getD 1 - digits.length) '0'
  let digits := zeros ++ digits
  let digits := if base = 8 ∧ d.has '#' ∧ digits.head? ≠ some '0' then '0' :: digits else digits
  d.pad d.precision.isNone start (String.ofList digits)

/-- Writes an integer. -/
def integer (d : Directive) (n : Int) : String := d.digits (d.sign (n < 0)) 10 n.natAbs

/-- Writes a natural number in some base. -/
def natural (d : Directive) (n : Nat) : String :=
  match d.kind with
  | 'o' => d.digits "" 8 n
  | 'u' => d.digits "" 10 n
  | kind =>
    let text := d.digits (if d.has '#' ∧ n ≠ 0 then "0x" else "") 16 n
    if kind = 'X' then text.toUpper else text

end Directive

/-- The magnitude of a real number. -/
inductive RealNumber where
  | notANumber
  | infinite
  | finite (value : Ratio)
  deriving Repr

namespace Directive

/-- The digits of a hexadecimal number with a point and an exponent. -/
def hexadecimal (d : Directive) (format : BinaryFormat) (r : Ratio) : String :=
  let lead := if format.bits % 4 = 0 then 4 else 1
  let (digits, exponent) := r.hexadecimal format lead d.precision
  let behind := digits.drop 1
  String.ofList (digits.take 1 ++ (if behind = [] ∧ !d.has '#' then [] else ['.']) ++ behind)
    ++ "p" ++ (if exponent < 0 then "-" else "+") ++ toString exponent.natAbs

/-- Writes a real number of a format. -/
def real (d : Directive) (format : BinaryFormat) (negative : Bool) (number : RealNumber) : String :=
  let places := d.precision.getD 6
  let sign := d.sign negative
  let kind := d.kind.toLower
  let text := match number with
    | .notANumber => d.pad false sign "nan"
    | .infinite => d.pad false sign "inf"
    | .finite r =>
      if kind = 'a' then d.pad true (sign ++ "0x") (d.hexadecimal format r)
      else d.pad true sign
        (if kind = 'f' then pointed (r.fixed places)
          else if kind = 'e' then pointed (r.exponential places)
          else r.general places (d.has '#'))
  if d.kind.isUpper then text.toUpper else text
where
  /-- A text with a point before its exponent, if there always has to be one. -/
  pointed (text : String) : String :=
    if d.has '#' ∧ !text.contains '.' then
      let (digits, rest) := text.toList.span Char.isDigit
      String.ofList (digits ++ '.' :: rest)
    else text

end Directive

end ContestJudge.Shell
