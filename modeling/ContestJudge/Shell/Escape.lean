import ContestJudge.Shell.Number

/-!
# Escapes

What a backslash and the characters behind it stand for. The shell knows few escapes; the programs of
the system also know ones for hexadecimal numbers and for characters beyond the first ones, which
have to be complete.
-/

namespace ContestJudge.Shell

/-- The character of a letter behind a backslash. -/
def escape? (isRich : Bool) (c : Char) : Option Char :=
  ([('n', '\n'), ('t', '\t'), ('\\', '\\'), ('a', '\x07'), ('b', '\x08'), ('f', '\x0c'),
    ('r', '\r'), ('v', '\x0b'), ('e', '\x1b')] ++ if isRich then [('"', '"')] else []).lookup c

/-- Splits off the value of at most so many digits. -/
def splitFew (base count : Nat) (cs : List Char) : Option (Nat × List Char) :=
  let digits := (cs.take count).takeWhile fun c => (digit? base c).isSome
  if digits = [] then none else some ((splitDigits base digits).1, cs.drop digits.length)

/-- The character of a number, as far as it fits into an octet. -/
def octet (n : Nat) : Char := Char.ofNat (n % 256)

/-- Reads what a backslash begins, from behind it on; nothing if the backslash is just itself. -/
def splitEscape (isRich : Bool) : List Char → Option (Char × List Char)
  | [] => none
  | c :: rest =>
    match escape? isRich c with
    | some e => some (e, rest)
    | none =>
      if isRich ∧ c = 'x' then (splitFew 16 2 rest).map fun (n, rest) => (octet n, rest)
      else (splitFew 8 3 (c :: rest)).map fun (n, rest) => (octet n, rest)

/-- Replaces escapes, of which octal ones may start with one more zero. The flag tells whether one of
them ends the output. -/
def unescape (isRich : Bool) : (fuel : Nat) → List Char → List Char × Bool
  | 0, _ => ([], false)
  | _ + 1, [] => ([], false)
  | _ + 1, '\\' :: 'c' :: _ => ([], true)
  | fuel + 1, '\\' :: rest =>
    let rest := match rest with
      | '0' :: d :: _ => if (digit? 8 d).isSome then rest.drop 1 else rest
      | rest => rest
    match splitEscape isRich rest with
    | some (c, rest) => add c (unescape isRich fuel rest)
    | none => add '\\' (unescape isRich fuel rest)
  | fuel + 1, c :: rest => add c (unescape isRich fuel rest)
where
  /-- Puts a character in front. -/
  add (c : Char) (rest : List Char × Bool) : List Char × Bool := (c :: rest.1, rest.2)

/-- Replaces the escapes of a text, and says whether one of them ends the output. -/
def unescapeText (isRich : Bool) (text : String) : String × Bool :=
  let (cs, ended) := unescape isRich (text.length + 1) text.toList
  (String.ofList cs, ended)

/-- The words of a line with blanks between them, where escapes are replaced if that is asked for, and
its end. -/
def echoText (isRich escapes isOpen : Bool) (words : List String) : String :=
  let text := " ".intercalate words
  let (text, ended) := if escapes then unescapeText isRich text else (text, false)
  text ++ if ended ∨ isOpen then "" else "\n"

/-- What is wrong with an escape that ought to be complete. -/
inductive EscapeFault where
  | noDigits
  /-- A number that stands for no character, as it is written. -/
  | noCharacter (source : String)
  deriving DecidableEq, Repr

/-- The wording of a fault. -/
def EscapeFault.message : EscapeFault → String
  | noDigits => "missing hexadecimal number in escape"
  | noCharacter source => s!"invalid universal character name {source}"

/-- Reads what a backslash begins in a text where escapes have to be complete, from behind it on. A
character beyond the first ones stays an escape; a backslash that begins none stands for itself, and
so does what follows it. -/
def splitStrictEscape (octalZero : Bool) (cs : List Char) :
    Except EscapeFault (List Char × List Char) :=
  match cs with
  | [] => .ok (['\\'], [])
  | 'x' :: rest =>
    match splitFew 16 2 rest with
    | some (n, rest) => .ok ([octet n], rest)
    | none => .error .noDigits
  | 'u' :: rest => universal 'u' 4 rest
  | 'U' :: rest => universal 'U' 8 rest
  | c :: rest =>
    match escape? true c with
    | some e => .ok ([e], rest)
    | none =>
      let digits := if octalZero ∧ c = '0' then rest else cs
      match splitFew 8 3 digits with
      | some (n, rest) => .ok ([octet n], rest)
      | none => .ok (if octalZero ∧ c = '0' then ['\x00'] else ['\\', c], rest)
where
  /-- Reads the number of a character. -/
  universal (letter : Char) (count : Nat) (rest : List Char) :
      Except EscapeFault (List Char × List Char) :=
    let digits := rest.take count
    if digits.length = count ∧ digits.all (fun c => (digit? 16 c).isSome) then
      let n := (splitDigits 16 digits).1
      let width := if n < 0x10000 then 4 else 8
      let shown := Nat.toDigits 16 n
      let shown := List.replicate (width - shown.length) '0' ++ shown.map Char.toUpper
      if 0xd800 ≤ n ∧ n ≤ 0xdfff then .error (.noCharacter (String.ofList ('\\' :: letter :: digits)))
      else if n < 0x80 then .ok ([octet n], rest.drop count)
      else .ok ('\\' :: (if width = 4 then 'u' else 'U') :: shown, rest.drop count)
    else .error .noDigits

end ContestJudge.Shell
