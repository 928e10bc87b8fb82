import ContestJudge.Shell.Condition
import ContestJudge.Shell.Utility.Basic

/-!
# The utility that tests conditions

Its conditions are those of the shell, read by a grammar of their own: up to four words mean what
most likely is meant, and more words are read with `-a` binding more strongly than `-o`. A text may
stand for its length.
-/

namespace ContestJudge.Shell.Utility

open Condition

/-- What is left of the words of a condition; a complaint ends its reading. -/
abbrev Testing := StateT (List String) (Except String)

namespace Testing

/-- The operators of two operands. -/
def binary : List String :=
  ["=", "==", "!=", "-eq", "-ne", "-ge", "-gt", "-le", "-lt", "-nt", "-ot", "-ef"]

/-- The letters of the operators of one operand. -/
def unary : List Char := "bcdefghkLnNOGprsStuwxz".toList

/-- Complains that there ought to be more words behind the last one. -/
def wantMore {α : Type} (all : List String) : Testing α :=
  let last := all.getLast?.getD ""
  throw s!"missing argument after {quoted last}"

/-- The next word. -/
def next (all : List String) : Testing String := do
  match ← get with
  | [] => wantMore all
  | word :: rest => set rest; return word

/-- The number that a word is, as decimal digits with blanks around them. -/
def number (word : String) : Testing Int :=
  let cs := word.toList.dropWhile isSpace
  let (isNegative, cs) := match cs with
    | '-' :: rest => (true, rest)
    | '+' :: rest => (false, rest)
    | cs => (false, cs)
  let (digits, rest) := cs.span Char.isDigit
  if digits = [] ∨ !rest.all isSpace then throw s!"invalid integer {quoted word}"
  else
    let n : Int := (splitDigits 10 digits).1
    return if isNegative then -n else n

/-- The truth of the operator of one operand that comes next. -/
def readUnary (ask : Questions) (all : List String) : Testing Bool := do
  let word ← next all
  match word.toList with
  | ['-', c] =>
    if !unary.contains c then throw s!"{quoted word}: unary operator expected"
    let operand ← next all
    match c with
    | 'z' => return operand = ""
    | 'n' => return operand ≠ ""
    | 't' =>
      let _ ← number operand
      return false
    | _ => return ask.file word operand
  | _ => throw s!"{quoted word}: unary operator expected"

/-- Whether the words are an operator of one operand and more. -/
def isUnary (word : String) : Bool :=
  match word.toList with
  | ['-', _] => true
  | _ => false

/-- The truth of the comparison that comes next. Its left side may be the length of a text. -/
def readBinary (ask : Questions) (all : List String) (isLength : Bool) : Testing Bool := do
  if isLength then let _ ← next all
  let left ← next all
  let operator ← next all
  let isRightLength := (← get).head? = some "-l" && 1 < (← get).length
  if isRightLength then let _ ← next all
  let right ← next all
  let value := fun (isLength : Bool) (word : String) =>
    if isLength then pure (word.length : Int) else number word
  let compare := fun (holds : Int → Int → Bool) => do
    return holds (← value isLength left) (← value isRightLength right)
  match operator with
  | "=" => return left = right
  | "==" => return left = right
  | "!=" => return left ≠ right
  | "-eq" => compare (· == ·)
  | "-ne" => compare (· != ·)
  | "-lt" => compare fun a b => a < b
  | "-le" => compare fun a b => a ≤ b
  | "-gt" => compare fun a b => a > b
  | "-ge" => compare fun a b => a ≥ b
  | operator =>
    if isLength ∨ isRightLength then throw s!"{operator} does not accept -l"
    return ask.files operator left right

mutual

/-- The truth of so many words, which mean what most likely is meant. -/
def readCount (fuel : Nat) (ask : Questions) (all : List String) (count : Nat) : Testing Bool :=
  match fuel with
  | 0 => throw "too many arguments"
  | fuel + 1 => do
    let words ← get
    let skip : Testing Unit := do let _ ← next all
    let negated (count : Nat) : Testing Bool := do
      skip
      return !(← readCount fuel ask all count)
    match count, words with
    | 1, _ => return (← next all) ≠ ""
    | 2, word :: _ =>
      if word = "!" then negated 1
      else if isUnary word then readUnary ask all
      else wantMore all
    | 3, first :: operator :: last :: _ =>
      if binary.contains operator then readBinary ask all false
      else if first = "!" then negated 2
      else if first = "(" ∧ last = ")" then
        skip
        let holds ← readCount fuel ask all 1
        skip
        return holds
      else if ["-a", "-o"].contains operator then readAny fuel ask all
      else throw s!"{quoted operator}: binary operator expected"
    | 4, "!" :: _ => negated 3
    | 4, "(" :: _ :: _ :: ")" :: _ =>
      skip
      let holds ← readCount fuel ask all 2
      skip
      return holds
    | _, _ => readAny fuel ask all

/-- The truth of a disjunction. -/
def readAny (fuel : Nat) (ask : Questions) (all : List String) : Testing Bool :=
  match fuel with
  | 0 => throw "too many arguments"
  | fuel + 1 => do
    let holds ← readEach fuel ask all
    if (← get).head? = some "-o" then
      modify (·.drop 1)
      return (← readAny fuel ask all) || holds
    else return holds

/-- The truth of a conjunction. -/
def readEach (fuel : Nat) (ask : Questions) (all : List String) : Testing Bool :=
  match fuel with
  | 0 => throw "too many arguments"
  | fuel + 1 => do
    let holds ← readTerm fuel ask all
    if (← get).head? = some "-a" then
      modify (·.drop 1)
      return (← readEach fuel ask all) && holds
    else return holds

/-- The truth of a smallest part, which may be negated. -/
def readTerm (fuel : Nat) (ask : Questions) (all : List String) : Testing Bool :=
  match fuel with
  | 0 => throw "too many arguments"
  | fuel + 1 => do
    let isOperator := fun (word? : Option String) => word?.any binary.contains
    match ← get with
    | [] => wantMore all
    | "!" :: rest =>
      set rest
      if rest = [] then wantMore all
      return !(← readTerm fuel ask all)
    | "(" :: rest =>
      set rest
      if rest = [] then wantMore all
      let inner := (((rest.drop 1).take 4).findIdx? (· = ")")).elim rest.length (· + 1)
      let holds ← readCount fuel ask all inner
      match ← get with
      | [] => throw "')' expected"
      | ")" :: rest => set rest
      | word :: _ => throw s!"')' expected, found {quoted word}"
      return holds
    | word :: rest =>
      if 3 ≤ rest.length ∧ word = "-l" ∧ isOperator rest[1]? then readBinary ask all true
      else if 2 ≤ rest.length ∧ isOperator rest[0]? then readBinary ask all false
      else if isUnary word then readUnary ask all
      else return (← next all) ≠ ""

end

end Testing

/-- Tests a condition. The bracket wants to be closed. -/
def test (closes : Bool) : Utility := fun arguments s =>
  let result : Except String Bool :=
    if closes ∧ arguments.getLast? ≠ some "]" then .error "missing ']'"
    else
      let words := if closes then arguments.dropLast else arguments
      if words = [] then .ok false
      else
        let fuel := 8 * words.length + 16
        match (Testing.readCount fuel (Questions.of s.files true) words words.length).run words with
        | .error complaint => .error complaint
        | .ok (_, extra :: _) => .error s!"extra argument {quoted extra}"
        | .ok (holds, []) => .ok holds
  match result with
  | .ok holds => { files := s.files, status := if holds then 0 else 1 }
  | .error complaint => s.refuse s.files complaint 2

end ContestJudge.Shell.Utility
