/-!
# Quoting

How names are shown in complaints. Between quotes an odd character is written as an escape; a name
may also be quoted in such a way that a shell would read it back, and then only if it has to be.
Texts are octets, of which those beyond ASCII count as odd.
-/

namespace ContestJudge.Shell

/-- Whether a character can be shown as it is. -/
def isShowable (c : Char) : Bool := ' ' ≤ c && c ≤ '~'

/-- The escape of an odd character, from behind the backslash on. -/
def escapeOf (c : Char) : List Char :=
  let letters := [('\x07', 'a'), ('\x08', 'b'), ('\x0c', 'f'), ('\n', 'n'), ('\r', 'r'), ('\t', 't'),
    ('\x0b', 'v')]
  match letters.lookup c with
  | some letter => [letter]
  | none =>
    let digits := Nat.toDigits 8 (c.toNat % 256)
    List.replicate (3 - digits.length) '0' ++ digits

/-- A text between single quotes, with escapes. -/
def quoted (text : String) : String :=
  let shown := text.toList.map fun c =>
    if c = '\x27' ∨ c = '\\' then ['\\', c]
    else if isShowable c then [c] else '\\' :: escapeOf c
  String.ofList ('\x27' :: shown.flatten ++ ['\x27'])

/-- Whether a character of a name means the same between single and double quotes, and nothing more
than itself. -/
def isTame (text : List Char) (index : Nat) (c : Char) : Bool :=
  if c = '{' ∨ c = '}' then text.length = 1
  else if c = '#' ∨ c = '~' then index = 0
  else c.isAlphanum || "%+,-./:]_ \x27".toList.contains c

/-- Whether a shell would not read a character of a name as itself without quotes. -/
def needsQuotes (text : List Char) (index : Nat) (c : Char) : Bool :=
  if c = '{' ∨ c = '}' then text.length = 1
  else if c = '#' ∨ c = '~' then index = 0
  else !isShowable c || " !\"$&()*;<=>[^\x60|?\\\x27".toList.contains c

/-- A name as a shell would read it, between quotes. -/
def shellQuoted (text : String) : String :=
  let cs := text.toList
  let isDouble := cs.contains '\x27' && cs.zipIdx.all fun (c, i) => isTame cs i c
  if isDouble then String.ofList ('"' :: cs ++ ['"'])
  else String.ofList ('\x27' :: go false cs)
where
  /-- The rest of a name, which may begin among escapes. -/
  go (inEscapes : Bool) : List Char → List Char
    | [] => ['\x27']
    | c :: rest =>
      if c = '\x27' then ['\x27', '\\', '\x27', c] ++ go false rest
      else if isShowable c then (if inEscapes then ['\x27', '\x27'] else []) ++ c :: go false rest
      else (if inEscapes then [] else ['\x27', '$', '\x27']) ++ '\\' :: escapeOf c ++ go true rest

/-- A name as a shell would read it, between quotes if that is necessary. -/
def shellWord (text : String) : String :=
  let cs := text.toList
  if cs = [] ∨ cs.zipIdx.any (fun (c, i) => needsQuotes cs i c) then shellQuoted text else text

/-- A name in front of a colon, between quotes if that is necessary. -/
def namedWord (text : String) : String :=
  if text.contains ':' then shellQuoted text else shellWord text

end ContestJudge.Shell
