import ContestJudge.Shell.Number
import ContestJudge.Shell.Parameter

/-!
# Conditions

The command that compares texts and numbers and asks about files. Three arguments with an operator of
two operands in the middle are always a comparison. Longer ones are read with `-a` binding more
strongly than `-o`; what looks like an operator of one operand is a text if nothing suitable follows.
-/

namespace ContestJudge.Shell

open Text

namespace Condition

/-- The operators of one operand. -/
def unaryOperators : List String :=
  ["-r", "-w", "-x", "-e", "-f", "-d", "-c", "-b", "-p", "-u", "-g", "-k", "-s", "-t", "-z", "-n",
    "-h", "-O", "-G", "-L", "-S"]

/-- The operators of two operands. -/
def binaryOperators : List String :=
  ["=", "!=", "<", ">", "-eq", "-ne", "-ge", "-gt", "-le", "-lt", "-nt", "-ot", "-ef"]

/-- The other operators. -/
def otherOperators : List String := ["!", "-a", "-o", "(", ")"]

/-- What a word is among others. -/
inductive Role where
  | operand
  | ending
  /-- An operator of one operand. -/
  | unary (operator : String)
  /-- Any other operator. -/
  | operator (text : String)
  deriving DecidableEq, Repr

/-- What the first of some words is. -/
def roleOf : List String → Role
  | [] => .ending
  | word :: rest =>
    if unaryOperators.contains word then
      let isOperand := match rest with
        | [] => true
        | [_] => false
        | next :: _ => binaryOperators.contains next
      if isOperand then .operand else .unary word
    else if binaryOperators.contains word then .operator word
    else if otherOperators.contains word then
      if word = "(" ∧ rest = [] then .operand else .operator word
    else .operand

/-- What a condition asks the system. -/
structure Questions where
  /-- What holds of a file. -/
  file : String → String → Bool
  /-- What holds of two files. -/
  files : String → String → String → Bool

/-- What is known about some files. A file that lies there can be read and written; one that is
missing may count as older than others. -/
def Questions.of (tree : FileTree) (missingIsOld : Bool) : Questions where
  file operator path :=
    let path := Path.mk (Octets.toText path)
    let entry : Option Entry := (tree.find path).toOption.map (·.2)
    let isFile := match entry with
      | some (.file ..) => true
      | some (.utility _) => true
      | _ => false
    match operator with
    | "-e" => entry.isSome
    | "-r" => entry.isSome
    | "-w" => entry.isSome
    | "-O" => entry.isSome
    | "-G" => entry.isSome
    | "-f" => isFile
    | "-d" => entry = some .directory
    | "-c" => entry = some .sink || entry = some .zeros
    | "-h" => tree.isLink path
    | "-L" => tree.isLink path
    | "-s" => match entry with
      | some (.file content _) => content ≠ []
      | some (.utility _) => true
      | some .directory => true
      | _ => false
    | "-x" => match entry with
      | some (.file _ executable) => executable
      | some (.utility _) => true
      | some .directory => true
      | _ => false
    | _ => false
  files operator a b :=
    let place := fun path => ((tree.find ⟨Octets.toText path⟩).toOption.map (·.1) : Option Place)
    match operator, place a, place b with
    | "-ef", some a, some b => a = b
    | "-nt", some _, none => missingIsOld
    | "-ot", none, some _ => missingIsOld
    | _, _, _ => false

/-- The number that an operand is. -/
def number (text : String) : Except String Int :=
  match decimal? text with
  | some n => .ok n
  | none => .error s!"Illegal number: {text}"

/-- The truth of an operator of one operand. -/
def unary (ask : Questions) (operator operand : String) : Except String Bool :=
  if operator = "-z" then .ok (operand = "")
  else if operator = "-n" then .ok (operand ≠ "")
  else if operator = "-t" then (number operand).map fun _ => false
  else .ok (ask.file operator operand)

/-- The truth of an operator of two operands. -/
def binary (ask : Questions) (operator a b : String) : Except String Bool :=
  let compare := fun (holds : Int → Int → Bool) => do return holds (← number a) (← number b)
  match operator with
  | "=" => .ok (a = b)
  | "!=" => .ok (a ≠ b)
  | "<" => .ok (a < b)
  | ">" => .ok (b < a)
  | "-eq" => compare (· == ·)
  | "-ne" => compare (· != ·)
  | "-lt" => compare fun a b => a < b
  | "-le" => compare fun a b => a ≤ b
  | "-gt" => compare fun a b => a > b
  | "-ge" => compare fun a b => a ≥ b
  | _ => .ok (ask.files operator a b)

/-- Whether a word joins two operands. -/
def isBinary (words : List String) : Bool :=
  match roleOf words with
  | .operator operator => binaryOperators.contains operator
  | _ => false

/-- A complaint, perhaps about a word. -/
def complaint (word reason : String) : String := if word = "" then reason else s!"{word}: {reason}"

mutual

/-- The truth of a disjunction, and the words from its last one on. The role of the first word may be
given. -/
def disjunction (fuel : Nat) (ask : Questions) (role : Role) (words : List String) :
    Except String (Bool × List String) :=
  match fuel with
  | 0 => .error "too many arguments"
  | fuel + 1 => do
    let (holds, rest) ← conjunction fuel ask role words
    if roleOf rest.tail = .operator "-o" then
      let next := rest.drop 2
      let (more, rest) ← disjunction fuel ask (roleOf next) next
      return (holds || more, rest)
    else return (holds, rest)

/-- The truth of a conjunction, and the words from its last one on. -/
def conjunction (fuel : Nat) (ask : Questions) (role : Role) (words : List String) :
    Except String (Bool × List String) :=
  match fuel with
  | 0 => .error "too many arguments"
  | fuel + 1 => do
    let (holds, rest) ← negation fuel ask role words
    if roleOf rest.tail = .operator "-a" then
      let next := rest.drop 2
      let (more, rest) ← conjunction fuel ask (roleOf next) next
      return (holds && more, rest)
    else return (holds, rest)

/-- The truth of what may be negated, and the words from its last one on. -/
def negation (fuel : Nat) (ask : Questions) (role : Role) (words : List String) :
    Except String (Bool × List String) :=
  match fuel with
  | 0 => .error "too many arguments"
  | fuel + 1 =>
    if role = .operator "!" then do
      let next := roleOf words.tail
      let (holds, rest) ← negation fuel ask next (if next = .ending then words else words.tail)
      return (!holds, rest)
    else primary fuel ask role words

/-- The truth of a smallest part, and the words from its last one on. -/
def primary (fuel : Nat) (ask : Questions) (role : Role) (words : List String) :
    Except String (Bool × List String) :=
  match fuel with
  | 0 => .error "too many arguments"
  | fuel + 1 => do
    let word := words.headD ""
    let rest := words.tail
    match role with
    | .ending => return (false, words)
    | .operator "(" =>
      let next := roleOf rest
      if next = .operator ")" then return (false, rest)
      let (holds, last) ← disjunction fuel ask next rest
      if roleOf last.tail ≠ .operator ")" then throw "closing paren expected"
      return (holds, last.tail)
    | .unary operator =>
      match rest with
      | [] => throw (complaint operator "argument expected")
      | operand :: _ => return (← unary ask operator operand, rest)
    | _ =>
      if isBinary rest then
        match rest with
        | operator :: operand :: after =>
          return (← binary ask operator word operand, operand :: after)
        | _ => throw (complaint (rest.headD "") "argument expected")
      else return (word ≠ "", words)

end

/-- The truth of some words. A few words mean what they most likely mean; of two signs of negation at
the start of four words only one counts. -/
def holds (ask : Questions) (words : List String) : Except String Bool :=
  match words with
  | [] => .ok false
  | [a, operator, b] =>
    if binaryOperators.contains operator then whole .operand [a, operator, b]
    else if a = "(" ∧ b = ")" then whole (roleOf [operator]) [operator]
    else if a = "!" then (few [operator, b]).map (!·)
    else whole (roleOf words) words
  | ["!", a, operator, b] =>
    (if binaryOperators.contains operator then whole .operand [a, operator, b]
      else if a = "(" ∧ b = ")" then whole (roleOf [operator]) [operator]
      else if a = "!" then few [operator, b]
      else few [a, operator, b]).map (!·)
  | ["(", a, b, ")"] => few [a, b]
  | words => whole (roleOf words) words
where
  /-- The truth of words that are left when nothing more is to be guessed. -/
  few (words : List String) : Except String Bool := whole (roleOf words) words
  /-- The truth of words all of which have to count. -/
  whole (role : Role) (words : List String) : Except String Bool := do
    let (holds, rest) ← disjunction (4 * words.length + 8) ask role words
    match rest with
    | last :: _ :: _ => throw (complaint last "unexpected operator")
    | _ => return holds

end Condition

/-- The truth of the arguments of a command that tests a condition. The bracket wants to be closed.
-/
def State.condition (s : State) (name : String) (arguments : List String) : Except String Bool :=
  if name = "[" then
    if arguments.getLast? = some "]" then Condition.holds (.of s.tree false) arguments.dropLast
    else .error "missing ]"
  else Condition.holds (.of s.tree false) arguments

end ContestJudge.Shell
