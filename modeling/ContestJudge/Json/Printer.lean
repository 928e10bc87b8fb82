import ContestJudge.Json.Value
import ContestJudge.Decimal.Positional

/-!
# Printing JSON

One value in one line, or spread over lines with an indentation of two blanks.
-/

namespace ContestJudge.Json

/-- One character inside a JSON string. -/
def escapeChar (c : Char) : String :=
  if c = '"' then "\\\""
  else if c = '\\' then "\\\\"
  else if c = '\n' then "\\n"
  else if c = '\r' then "\\r"
  else if c = '\t' then "\\t"
  else if c = '\x08' then "\\b"
  else if c = '\x0c' then "\\f"
  else if c.toNat < 0x20 then
    let digits := Nat.toDigits 16 c.toNat
    "\\u" ++ String.ofList (List.replicate (4 - digits.length) '0' ++ digits)
  else c.toString

/-- A text as a JSON string. -/
def stringText (s : String) : String := "\"" ++ String.join (s.toList.map escapeChar) ++ "\""

/-- A value that is neither an array nor an object. -/
def scalarText : Json → String
  | .bool true => "true"
  | .bool false => "false"
  | .int n => toString n
  | .float x => Decimal.pointed x
  | .str s => stringText s
  | _ => "null"

mutual

/-- A value in one line. -/
def compact : Json → String
  | .arr elements => "[" ++ compactElements elements ++ "]"
  | .obj members => "\x7b" ++ compactMembers members ++ "\x7d"
  | scalar => scalarText scalar

/-- The elements of an array, with commas between them. -/
def compactElements : List Json → String
  | [] => ""
  | [element] => compact element
  | element :: rest => compact element ++ "," ++ compactElements rest

/-- The members of an object, with commas between them. -/
def compactMembers : List (String × Json) → String
  | [] => ""
  | [(name, value)] => stringText name ++ ":" ++ compact value
  | (name, value) :: rest => stringText name ++ ":" ++ compact value ++ "," ++ compactMembers rest

end

/-- The start of a line at some depth. -/
def newline (depth : Nat) : String := "\n" ++ String.ofList (List.replicate (2 * depth) ' ')

mutual

/-- A value over several lines, its first line standing at `depth`. -/
def prettyAt (depth : Nat) : Json → String
  | .arr [] => "[]"
  | .arr elements => "[" ++ prettyElements depth elements ++ newline depth ++ "]"
  | .obj [] => "\x7b\x7d"
  | .obj members => "\x7b" ++ prettyMembers depth members ++ newline depth ++ "\x7d"
  | scalar => scalarText scalar

/-- The elements of an array, one a line. -/
def prettyElements (depth : Nat) : List Json → String
  | [] => ""
  | [element] => newline (depth + 1) ++ prettyAt (depth + 1) element
  | element :: rest =>
    newline (depth + 1) ++ prettyAt (depth + 1) element ++ "," ++ prettyElements depth rest

/-- The members of an object, one a line. -/
def prettyMembers (depth : Nat) : List (String × Json) → String
  | [] => ""
  | [(name, value)] => newline (depth + 1) ++ stringText name ++ ": " ++ prettyAt (depth + 1) value
  | (name, value) :: rest =>
    newline (depth + 1) ++ stringText name ++ ": " ++ prettyAt (depth + 1) value ++ ","
      ++ prettyMembers depth rest

end

/-- A value over several lines. -/
def pretty (j : Json) : String := prettyAt 0 j

end ContestJudge.Json
