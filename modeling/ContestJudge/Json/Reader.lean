import ContestJudge.Json.Value
import ContestJudge.Decimal.Reading

/-!
# Reading JSON

A recursive descent reader. Each step is given as many steps as there are characters left, so
reading ends. An integer within 64 bits stays an integer; a longer one, and a negative zero, become
floats.
-/

namespace ContestJudge.Json

/-- The blanks that may stand between tokens. -/
def skipBlanks : List Char → List Char :=
  List.dropWhile fun c => c = ' ' || c = '\n' || c = '\r' || c = '\t'

/-- The value of a hexadecimal digit. -/
def hexValue? (c : Char) : Option Nat :=
  if '0' ≤ c ∧ c ≤ '9' then some (c.toNat - 48)
  else if 'a' ≤ c ∧ c ≤ 'f' then some (c.toNat - 87)
  else if 'A' ≤ c ∧ c ≤ 'F' then some (c.toNat - 55)
  else none

/-- The value of four hexadecimal digits. -/
def hex4? (a b c d : Char) : Option Nat := do
  return (((← hexValue? a) * 16 + (← hexValue? b)) * 16 + (← hexValue? c)) * 16 + (← hexValue? d)

/-- What one letter after a backslash stands for. -/
def shortEscape? : Char → Option Char
  | '"' => some '"'
  | '\\' => some '\\'
  | '/' => some '/'
  | 'b' => some '\x08'
  | 'f' => some '\x0c'
  | 'n' => some '\n'
  | 'r' => some '\r'
  | 't' => some '\t'
  | _ => none

/-- The rest of a string after its opening quote, onto the characters `seen` in reverse. A character
beyond the first 65536 is escaped as a pair. -/
def readString (seen : List Char) : List Char → Option (String × List Char)
  | '"' :: rest => some (String.ofList seen.reverse, rest)
  | '\\' :: 'u' :: a :: b :: c :: d :: rest => do
    let unit ← hex4? a b c d
    if 0xD800 ≤ unit ∧ unit < 0xDC00 then
      match rest with
      | '\\' :: 'u' :: a :: b :: c :: d :: rest =>
        let low ← hex4? a b c d
        let point := 0x10000 + (unit - 0xD800) * 0x400 + (low - 0xDC00)
        readString (Char.ofNat point :: seen) rest
      | _ => none
    else readString (Char.ofNat unit :: seen) rest
  | '\\' :: c :: rest => do readString ((← shortEscape? c) :: seen) rest
  | c :: rest => readString (c :: seen) rest
  | [] => none

/-- Splits off the digits at the start. -/
def readDigits (cs : List Char) : List Char × List Char :=
  (cs.takeWhile Char.isDigit, cs.dropWhile Char.isDigit)

/-- An optional exponent part; `none` in the first place when there is none. -/
def readExponent : List Char → Option Int × List Char
  | e :: rest =>
    if e = 'e' ∨ e = 'E' then
      let (negative, rest) := match rest with
        | '-' :: rest => (true, rest)
        | '+' :: rest => (false, rest)
        | rest => (false, rest)
      let (digits, rest) := readDigits rest
      let n : Int := Decimal.digitsValue digits
      (some (if negative then -n else n), rest)
    else (none, e :: rest)
  | [] => (none, [])

/-- A number. -/
def readNumber (cs : List Char) : Option (Json × List Char) :=
  let (negative, cs) := match cs with
    | '-' :: rest => (true, rest)
    | cs => (false, cs)
  let (whole, cs) := readDigits cs
  let (fraction?, cs) := match cs with
    | '.' :: rest => ((some (readDigits rest).1 : Option (List Char)), (readDigits rest).2)
    | cs => (none, cs)
  let (exponent?, cs) := readExponent cs
  let n := Decimal.digitsValue whole
  if whole.isEmpty then none
  else if fraction?.isNone ∧ exponent?.isNone ∧
      (if negative then 0 < n ∧ n ≤ Nat.pow 2 63 else n < Nat.pow 2 64) then
    some (.int (if negative then -(n : Int) else n), cs)
  else some (.float (Decimal.ofParts negative whole (fraction?.getD []) (exponent?.getD 0)), cs)

mutual

/-- A value, after blanks. -/
def readValue : Nat → List Char → Option (Json × List Char)
  | 0, _ => none
  | fuel + 1, cs =>
    match skipBlanks cs with
    | 'n' :: 'u' :: 'l' :: 'l' :: rest => some (.null, rest)
    | 't' :: 'r' :: 'u' :: 'e' :: rest => some (.bool true, rest)
    | 'f' :: 'a' :: 'l' :: 's' :: 'e' :: rest => some (.bool false, rest)
    | '"' :: rest => (readString [] rest).map fun (s, rest) => (.str s, rest)
    | '[' :: rest =>
      match skipBlanks rest with
      | ']' :: rest => some (.arr [], rest)
      | rest => (readElements fuel [] rest).map fun (es, rest) => (.arr es, rest)
    | '\x7b' :: rest =>
      match skipBlanks rest with
      | '\x7d' :: rest => some (.obj [], rest)
      | rest => (readMembers fuel [] rest).map fun (ms, rest) => (.obj ms, rest)
    | cs => readNumber cs

/-- The elements of an array up to its end, onto those `seen` in reverse. -/
def readElements : Nat → List Json → List Char → Option (List Json × List Char)
  | 0, _, _ => none
  | fuel + 1, seen, cs => do
    let (element, cs) ← readValue fuel cs
    match skipBlanks cs with
    | ',' :: rest => readElements fuel (element :: seen) rest
    | ']' :: rest => return ((element :: seen).reverse, rest)
    | _ => none

/-- The members of an object up to its end, onto those `seen` in reverse. -/
def readMembers : Nat → List (String × Json) → List Char → Option (List (String × Json) × List Char)
  | 0, _, _ => none
  | fuel + 1, seen, cs =>
    match skipBlanks cs with
    | '"' :: rest => do
      let (name, cs) ← readString [] rest
      match skipBlanks cs with
      | ':' :: rest =>
        let (value, cs) ← readValue fuel rest
        match skipBlanks cs with
        | ',' :: rest => readMembers fuel ((name, value) :: seen) rest
        | '\x7d' :: rest => return (((name, value) :: seen).reverse, rest)
        | _ => none
      | _ => none
    | _ => none

end

/-- The value that a text holds, and nothing else beside blanks. -/
def parse? (text : String) : Option Json :=
  let cs := text.toList
  match readValue (cs.length + 1) cs with
  | some (value, rest) => if (skipBlanks rest).isEmpty then some value else none
  | none => none

end ContestJudge.Json
