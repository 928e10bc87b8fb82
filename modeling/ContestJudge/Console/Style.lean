/-!
# Styled text on a terminal

A style is written as one escape sequence in front of the text and a reset behind it. Where the text
holds a reset of its own, the style is resumed after it.
-/

namespace ContestJudge.Console

/-- The colours in use. -/
inductive Color where
  | black
  | red
  | green
  | yellow
  | blue
  | magenta
  | cyan
  | white
  | brightBlack
  | brightRed
  | brightYellow
  | brightWhite
  | rgb (r g b : Nat)
  deriving DecidableEq, Repr

/-- The codes that select a colour for the text, with 30 as the first. -/
def Color.foreground : Color → String
  | .black => "30"
  | .red => "31"
  | .green => "32"
  | .yellow => "33"
  | .blue => "34"
  | .magenta => "35"
  | .cyan => "36"
  | .white => "37"
  | .brightBlack => "90"
  | .brightRed => "91"
  | .brightYellow => "93"
  | .brightWhite => "97"
  | .rgb r g b => s!"38;2;{r};{g};{b}"

/-- The codes that select a colour behind the text, with 40 as the first. -/
def Color.background : Color → String
  | .black => "40"
  | .red => "41"
  | .green => "42"
  | .yellow => "43"
  | .blue => "44"
  | .magenta => "45"
  | .cyan => "46"
  | .white => "47"
  | .brightBlack => "100"
  | .brightRed => "101"
  | .brightYellow => "103"
  | .brightWhite => "107"
  | .rgb r g b => s!"48;2;{r};{g};{b}"

/-- How a piece of text looks. -/
structure Style where
  bold : Bool := false
  dimmed : Bool := false
  underline : Bool := false
  background : Option Color := none
  foreground : Option Color := none
  deriving DecidableEq, Repr

/-- What the terminal can show. -/
structure Palette where
  /-- Whether styles are written at all. -/
  colors : Bool
  /-- Whether the terminal says that it shows arbitrary colours. -/
  trueColor : Bool
  /-- How many columns there are, if that can be found out. -/
  columns : Option Nat
  deriving DecidableEq, Repr

/-- The values by which a terminal says that it shows arbitrary colours. -/
def Palette.saysTrueColor (setting : Option String) : Bool :=
  setting = some "truecolor" || setting = some "24bit"

/-- Whether a variable of the environment is there and does not say no. -/
def isSetOn (environment : List (String × String)) (variableName : String) : Bool :=
  match environment.lookup variableName with
  | some value => value ≠ "0"
  | none => false

/-- What the environment says about a terminal with some columns. Styles can be forced, or be
forbidden; otherwise they are written only when there is a terminal. -/
def Palette.ofEnvironment (environment : List (String × String)) (isTerminal : Bool)
    (columns : Option Nat) : Palette where
  colors :=
    if isSetOn environment "CLICOLOR_FORCE" then true
    else if (environment.lookup "NO_COLOR").isSome then false
    else isTerminal && environment.lookup "CLICOLOR" ≠ some "0"
  trueColor := saysTrueColor (environment.lookup "COLORTERM")
  columns := columns

/-- The escape sequence that ends every style. -/
def reset : String := "\x1b[0m"

/-- The codes of a style: bold, dimmed, underlined, then the background, then the text colour. -/
def Style.codes (s : Style) : List String :=
  (if s.bold then ["1"] else []) ++ (if s.dimmed then ["2"] else [])
    ++ (if s.underline then ["4"] else [])
    ++ (s.background.map Color.background).toList ++ (s.foreground.map Color.foreground).toList

/-- The escape sequence that begins a style. -/
def Style.escape (s : Style) : String := "\x1b[" ++ ";".intercalate s.codes ++ "m"

/-- A text in a style. -/
def Style.apply (s : Style) (palette : Palette) (text : String) : String :=
  if !palette.colors ∨ s.codes.isEmpty then text
  else s.escape ++ (reset ++ s.escape).intercalate (text.splitOn reset) ++ reset

end ContestJudge.Console
