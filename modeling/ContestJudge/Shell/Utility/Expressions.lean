import ContestJudge.Shell.Number
import ContestJudge.Shell.Regex.Reader
import ContestJudge.Shell.Utility.Basic

/-!
# The utility for expressions

Each argument is a value or an operator. From the loosest operators to the tightest there are the
alternative, the conjunction, comparisons, sums, products and matches. An alternative or conjunction
that is already decided still has its other side read, but not evaluated.
-/

namespace ContestJudge.Shell.Utility

/-- What is left of the words of an expression, and the word before; a complaint ends its reading. -/
abbrev Calculation := StateT (List String × String) (Except String)

namespace Calculation

/-- The integer that a value is. -/
def integerOf? (value : String) : Option Int :=
  let (isNegative, digits) := match value.toList with
    | '-' :: rest => (true, rest)
    | cs => (false, cs)
  if digits = [] ∨ !digits.all Char.isDigit then none
  else
    let n : Int := (splitDigits 10 digits).1
    some (if isNegative then -n else n)

/-- Whether a value counts as false: it is empty or zero. -/
def isNull (value : String) : Bool :=
  match value.toList with
  | [] => true
  | '-' :: digits => digits ≠ [] && digits.all (· = '0')
  | digits => digits.all (· = '0')

/-- Takes the next word if it is one of some. -/
def take? (words : List String) : Calculation (Option String) := do
  match ← get with
  | (word :: rest, _) =>
    if words.contains word then
      set (rest, word)
      return some word
    else return none
  | ([], _) => return none

/-- Complains if there are no more words. -/
def wantMore : Calculation Unit := do
  match ← get with
  | ([], last) => throw s!"syntax error: missing argument after {quoted last}"
  | _ => return

/-- Takes the next word as it is. -/
def takeWord : Calculation String := do
  wantMore
  match ← get with
  | (word :: rest, _) =>
    set (rest, word)
    return word
  | _ => return ""

/-- What a text has that an expression matches at its start: a part that is remembered, or else the
number of characters. -/
def matched (text pattern : String) : Calculation String :=
  match Regex.read { isStrict := true } pattern.toList with
  | .error fault => throw fault.message
  | .ok read =>
    let search := read.regex.search text.toList false false
    let found? := read.regex.matchAt? search (fun _ _ => true) 0
    if read.groups = 0 then return toString ((found?.map (·.last)).getD 0)
    else return String.ofList ((found?.map (·.part search 1)).getD [])

/-- A part of a text, from some place on and so long. -/
def part (text : String) (first length : Option Int) : String :=
  match first, length with
  | some first, some length =>
    if first ≤ 0 ∨ length ≤ 0 then ""
    else String.ofList ((text.toList.drop (first.toNat - 1)).take length.toNat)
  | _, _ => ""

/-- The value of a sum or a product. -/
def calculated (operator a b : String) : Calculation String :=
  match integerOf? a, integerOf? b with
  | some a, some b =>
    match operator with
    | "+" => return toString (a + b)
    | "-" => return toString (a - b)
    | "*" => return toString (a * b)
    | operator =>
      if b = 0 then throw "division by zero"
      else return toString (if operator = "/" then a.tdiv b else a.tmod b)
  | _, _ => throw "non-integer argument"

/-- The value of a comparison: of integers by their size, and of other texts by their characters. -/
def compared (operator a b : String) : String :=
  let order := match integerOf? a, integerOf? b with
    | some a, some b => compare a b
    | _, _ => compare a b
  let holds : Bool := match operator with
    | "<" => order = .lt
    | "<=" => order ≠ .gt
    | "!=" => order ≠ .eq
    | ">=" => order ≠ .lt
    | ">" => order = .gt
    | _ => order = .eq
  if holds then "1" else "0"

/-- Reads operands between operators of one kind, and joins their values from the left. -/
def joined (fuel : Nat) (operators : List String) (read : Calculation String)
    (act : String → String → String → Calculation String) (value : String) : Calculation String :=
  match fuel with
  | 0 => return value
  | fuel + 1 => do
    match ← take? operators with
    | some operator => joined fuel operators read act (← act operator value (← read))
    | none => return value

mutual

/-- The value of alternatives. -/
def readAny (fuel : Nat) (counts : Bool) : Calculation String :=
  match fuel with
  | 0 => throw "syntax error"
  | fuel + 1 => do readMoreAny fuel counts (← readEach fuel counts)

/-- The value of one alternative and those that follow. -/
def readMoreAny (fuel : Nat) (counts : Bool) (value : String) : Calculation String :=
  match fuel with
  | 0 => throw "syntax error"
  | fuel + 1 => do
    match ← take? ["|"] with
    | some _ =>
      let other ← readEach fuel (counts && isNull value)
      readMoreAny fuel counts
        (if !isNull value then value else if isNull other then "0" else other)
    | none => return value

/-- The value of conjunctions. -/
def readEach (fuel : Nat) (counts : Bool) : Calculation String :=
  match fuel with
  | 0 => throw "syntax error"
  | fuel + 1 => do readMoreEach fuel counts (← readCompared fuel counts)

/-- The value of one part of a conjunction and those that follow. -/
def readMoreEach (fuel : Nat) (counts : Bool) (value : String) : Calculation String :=
  match fuel with
  | 0 => throw "syntax error"
  | fuel + 1 => do
    match ← take? ["&"] with
    | some _ =>
      let other ← readCompared fuel (counts && !isNull value)
      readMoreEach fuel counts (if isNull value ∨ isNull other then "0" else value)
    | none => return value

/-- The value of comparisons. -/
def readCompared (fuel : Nat) (counts : Bool) : Calculation String :=
  match fuel with
  | 0 => throw "syntax error"
  | fuel + 1 => do
    let act := fun (operator a b : String) =>
      if counts then pure (compared operator a b) else pure a
    joined fuel ["<", "<=", "=", "==", "!=", ">=", ">"] (readSum fuel counts) act
      (← readSum fuel counts)

/-- The value of sums. -/
def readSum (fuel : Nat) (counts : Bool) : Calculation String :=
  match fuel with
  | 0 => throw "syntax error"
  | fuel + 1 => do
    let act := fun (operator a b : String) => if counts then calculated operator a b else pure a
    joined fuel ["+", "-"] (readProduct fuel counts) act (← readProduct fuel counts)

/-- The value of products. -/
def readProduct (fuel : Nat) (counts : Bool) : Calculation String :=
  match fuel with
  | 0 => throw "syntax error"
  | fuel + 1 => do
    let act := fun (operator a b : String) => if counts then calculated operator a b else pure a
    joined fuel ["*", "/", "%"] (readMatch fuel counts) act (← readMatch fuel counts)

/-- The value of matches. -/
def readMatch (fuel : Nat) (counts : Bool) : Calculation String :=
  match fuel with
  | 0 => throw "syntax error"
  | fuel + 1 => do
    let act := fun (_ a b : String) => if counts then matched a b else pure a
    joined fuel [":"] (readCall fuel counts) act (← readCall fuel counts)

/-- The value of what is asked of texts by name. -/
def readCall (fuel : Nat) (counts : Bool) : Calculation String :=
  match fuel with
  | 0 => throw "syntax error"
  | fuel + 1 => do
    match ← take? ["+", "length", "match", "index", "substr"] with
    | some "+" => takeWord
    | some "length" => return toString (← readCall fuel counts).length
    | some "match" =>
      let text ← readCall fuel counts
      let pattern ← readCall fuel counts
      if counts then matched text pattern else return text
    | some "index" =>
      let text ← readCall fuel counts
      let wanted ← readCall fuel counts
      let found? := text.toList.findIdx? fun c => wanted.contains c
      return toString (found?.elim 0 (· + 1))
    | some _ =>
      let text ← readCall fuel counts
      let first ← readCall fuel counts
      let length ← readCall fuel counts
      return part text (integerOf? first) (integerOf? length)
    | none => readValue fuel counts

/-- The value of an expression in parentheses, or of a word. -/
def readValue (fuel : Nat) (counts : Bool) : Calculation String :=
  match fuel with
  | 0 => throw "syntax error"
  | fuel + 1 => do
    wantMore
    match ← take? ["(", ")"] with
    | some "(" =>
      let value ← readAny fuel counts
      match ← get with
      | ([], last) => throw s!"syntax error: expecting ')' after {quoted last}"
      | (word :: rest, _) =>
        if word ≠ ")" then throw s!"syntax error: expecting ')' instead of {quoted word}"
        set (rest, word)
        return value
    | some _ => throw "syntax error: unexpected ')'"
    | none => takeWord

end

end Calculation

/-- Writes the value of an expression, and fails if that counts as false. -/
def expr : Utility := fun arguments s =>
  let words := if arguments.head? = some "--" then arguments.drop 1 else arguments
  if words = [] then s.misuse "missing operand" 2
  else
    match (Calculation.readAny (16 * words.length + 64) true).run (words, "") with
    | .error complaint => s.refuse s.files complaint 2
    | .ok (_, word :: _, _) =>
      s.refuse s.files s!"syntax error: unexpected argument {quoted word}" 2
    | .ok (value, [], _) =>
      { Effect.say s.files (value ++ "\n") with status := if Calculation.isNull value then 1 else 0 }

end ContestJudge.Shell.Utility
