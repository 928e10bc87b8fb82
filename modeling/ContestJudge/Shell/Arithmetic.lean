import ContestJudge.Shell.Number
import ContestJudge.Shell.Script

/-!
# Arithmetic expressions

Integers of 64 bits that wrap around, the operators of a shell with their precedence, and variables,
which may be assigned. An expression is evaluated while it is read, so the first fault from the left
counts; a part whose value is not needed is read and not evaluated.
-/

namespace ContestJudge.Shell.Arithmetic

/-- Why an expression has no value. -/
inductive Fault where
  /-- Something is wrong with the expression. -/
  | malformed (reason text : String)
  /-- A variable has a value that is no number. -/
  | notNumber (text : String)
  /-- A variable may not be assigned. -/
  | readOnly (name : String)
  deriving DecidableEq, Repr

/-- The wording of a fault. -/
def Fault.message : Fault → String
  | malformed reason text => s!"arithmetic expression: {reason}: \"{text}\""
  | notNumber text => s!"Illegal number: {text}"
  | readOnly name => s!"{name}: is read only"

/-- A token. -/
inductive Token where
  | number (value : Int)
  | name (name : String)
  | sign (text : String)
  /-- A character that has no meaning. -/
  | unknown
  deriving DecidableEq, Repr

/-- The signs, longer ones first. -/
def signs : List String :=
  ["<<=", ">>=", "||", "&&", "==", "!=", "<=", ">=", "<<", ">>", "+=", "-=", "*=", "/=", "%=", "&=",
    "|=", "^=", "|", "^", "&", "<", ">", "+", "-", "*", "/", "%", "!", "~", "(", ")", "?", ":", "="]

/-- The operators of two operands by precedence, weakest first. -/
def levels : List (List String) :=
  [["|"], ["^"], ["&"], ["==", "!="], ["<=", ">=", "<", ">"], ["<<", ">>"], ["+", "-"],
    ["*", "/", "%"]]

/-- The first of the signs that the characters start with, and what follows it. -/
def splitSign (cs : List Char) : Option (String × List Char) :=
  signs.findSome? fun text =>
    if text.toList.isPrefixOf cs then some (text, cs.drop text.length) else none

/-- Splits an expression into tokens. Nothing is read behind a character without a meaning. -/
def tokens : (fuel : Nat) → List Char → List Token
  | 0, _ => []
  | _ + 1, [] => []
  | fuel + 1, c :: rest =>
    if " \t\n".toList.contains c then tokens fuel rest
    else if c.isDigit then
      let (value, rest) := splitNumber (c :: rest)
      .number (min (value : Int) (integerBound - 1)) :: tokens fuel rest
    else if startsName c then
      let (name, rest) := (c :: rest).span continuesName
      .name (String.ofList name) :: tokens fuel rest
    else match splitSign (c :: rest) with
      | some (sign, rest) => .sign sign :: tokens fuel rest
      | none => [.unknown]

/-- The operator in an assigning sign; the plain one has none. -/
def assigning? (sign : String) : Option (Option String) :=
  if sign = "=" then some none
  else if ["==", "!=", "<=", ">="].contains sign then none
  else if sign.toList.getLast? = some '=' then some (some (String.ofList sign.toList.dropLast))
  else none

/-- What an expression can see of the variables. -/
structure Variables where
  /-- The values before. -/
  before : String → Option String
  /-- Whether a variable may not be assigned. -/
  readOnly : String → Bool
  /-- The values that were assigned, newest first. -/
  assigned : List (String × Int) := []

/-- An expression that is being read. -/
structure Progress where
  /-- The whole text. -/
  text : String
  /-- What is still to be read. -/
  rest : List Token
  /-- The variables. -/
  known : Variables

/-- A part of the evaluation. -/
abbrev Evaluation := StateT Progress (Except Fault)

/-- Stops for a reason. -/
def fail {α : Type} (reason : String) : Evaluation α := do
  throw (.malformed reason (← get).text)

/-- Takes a sign if it comes next and is among some. -/
def takeSign? (wanted : List String) : Evaluation (Option String) := do
  let p ← get
  match p.rest with
  | .sign sign :: rest =>
    if wanted.contains sign then
      set { p with rest }
      return some sign
    else return none
  | _ => return none

/-- The value of a variable. One without a value counts as zero. -/
def read (name : String) : Evaluation Int := do
  let vs := (← get).known
  match vs.assigned.lookup name with
  | some value => return value
  | none =>
    let text := (vs.before name).getD ""
    if text.toList.all isSpace then return 0
    else match integer? text with
      | some value => return value
      | none => throw (.notNumber text)

/-- Gives a variable a value. -/
def assign (name : String) (value : Int) : Evaluation Unit := do
  let p ← get
  if p.known.readOnly name then throw (.readOnly name)
  set { p with
    known := { p.known with assigned := (name, value) :: p.known.assigned } }

/-- The truth of a number. -/
def ofBool (b : Bool) : Int := if b then 1 else 0

/-- The bits of a number. -/
def bits (n : Int) : Nat := (n % Nat.pow 2 64).toNat

/-- The value of an operator of two operands. -/
def apply (operator : String) (a b : Int) : Evaluation Int :=
  match operator with
  | "+" => return wrap (a + b)
  | "-" => return wrap (a - b)
  | "*" => return wrap (a * b)
  | "/" => if b = 0 then fail "division by zero" else return wrap (a.tdiv b)
  | "%" => if b = 0 then fail "division by zero" else return wrap (a.tmod b)
  | "<<" => return wrap (a * Nat.pow 2 (bits b % 64))
  | ">>" => return wrap (a.fdiv (Nat.pow 2 (bits b % 64)))
  | "<" => return ofBool (a < b)
  | ">" => return ofBool (a > b)
  | "<=" => return ofBool (a ≤ b)
  | ">=" => return ofBool (a ≥ b)
  | "==" => return ofBool (a = b)
  | "!=" => return ofBool (a ≠ b)
  | "&" => return wrap (bits a &&& bits b)
  | "|" => return wrap (bits a ||| bits b)
  | _ => return wrap (bits a ^^^ bits b)

mutual

/-- An assignment, or else a choice; `live` tells whether its value is needed. -/
def assignment (fuel : Nat) (live : Bool) : Evaluation Int :=
  match fuel with
  | 0 => fail "expecting EOF"
  | fuel + 1 => do
    let p ← get
    match p.rest with
    | .name name :: .sign sign :: rest =>
      match assigning? sign with
      | some operator? => do
        set { p with rest }
        let value ← assignment fuel live
        if !live then return value
        let value ← match operator? with
          | none => pure value
          | some operator => do apply operator (← read name) value
        assign name value
        return value
      | none => choice fuel live
    | _ => choice fuel live

/-- One value or another, by a condition. -/
def choice (fuel : Nat) (live : Bool) : Evaluation Int :=
  match fuel with
  | 0 => fail "expecting EOF"
  | fuel + 1 => do
    let condition ← disjunction fuel live
    if (← takeSign? ["?"]).isNone then return condition
    let yes ← assignment fuel (live && condition ≠ 0)
    if (← takeSign? [":"]).isNone then fail "expecting ':'"
    let no ← choice fuel (live && condition = 0)
    return if condition ≠ 0 then yes else no

/-- Values of which one has to be true. -/
def disjunction (fuel : Nat) (live : Bool) : Evaluation Int :=
  match fuel with
  | 0 => fail "expecting EOF"
  | fuel + 1 => do
    let a ← conjunction fuel live
    if (← takeSign? ["||"]).isNone then return a
    let b ← disjunction fuel (live && a = 0)
    return ofBool (a ≠ 0 || b ≠ 0)

/-- Values all of which have to be true. -/
def conjunction (fuel : Nat) (live : Bool) : Evaluation Int :=
  match fuel with
  | 0 => fail "expecting EOF"
  | fuel + 1 => do
    let a ← operation fuel live levels
    if (← takeSign? ["&&"]).isNone then return a
    let b ← conjunction fuel (live && a ≠ 0)
    return ofBool (a ≠ 0 && b ≠ 0)

/-- Operators that bind at least as strongly as the first of some levels. -/
def operation (fuel : Nat) (live : Bool) (levels : List (List String)) : Evaluation Int :=
  match fuel with
  | 0 => fail "expecting EOF"
  | fuel + 1 =>
    match levels with
    | [] => operand fuel live
    | level :: stronger => do
      let a ← operation fuel live stronger
      operateOn fuel live level stronger a

/-- Operators of one level behind their left operand. -/
def operateOn (fuel : Nat) (live : Bool) (level : List String) (stronger : List (List String))
    (a : Int) : Evaluation Int :=
  match fuel with
  | 0 => fail "expecting EOF"
  | fuel + 1 => do
    match ← takeSign? level with
    | none => return a
    | some operator =>
      let b ← operation fuel live stronger
      operateOn fuel live level stronger (← if live then apply operator a b else pure b)

/-- A value without operators of two operands. -/
def operand (fuel : Nat) (live : Bool) : Evaluation Int :=
  match fuel with
  | 0 => fail "expecting EOF"
  | fuel + 1 => do
    let p ← get
    match p.rest with
    | .number value :: rest =>
      set { p with rest }
      return value
    | .name name :: rest =>
      set { p with rest }
      if live then read name else return 0
    | _ =>
      match ← takeSign? ["(", "+", "-", "!", "~"] with
      | some "(" =>
        let value ← assignment fuel live
        if (← takeSign? [")"]).isNone then fail "expecting ')'"
        return value
      | some "-" => return wrap (-(← operand fuel live))
      | some "!" => return ofBool ((← operand fuel live) = 0)
      | some "~" => return wrap (-(← operand fuel live) - 1)
      | some _ => operand fuel live
      | none => fail "expecting primary"

end

/-- The value of an expression and what it assigns, oldest first. -/
def evaluate (known : Variables) (text : String) :
    Except Fault (Int × List (String × Int)) := do
  let rest := tokens (text.length + 1) text.toList
  let whole : Evaluation Int := do
    let value ← assignment (16 * (rest.length + 2)) true
    if (← get).rest ≠ [] then fail "expecting EOF"
    return value
  let (value, p) ← whole { text, rest, known }
  return (value, p.known.assigned.reverse)

end ContestJudge.Shell.Arithmetic
