/-!
# File modes

The permissions of a file: three bits each for its owner, its group and all others, and three more.
They are given as an octal number, or as changes such as `u+x,go=r`.
-/

namespace ContestJudge.Shell.Mode

/-- The permissions that everybody has who may do everything. -/
def all : Nat := 0o777

/-- The permissions that let a file be run. -/
def running : Nat := 0o111

/-- The number that octal digits spell. -/
def octal? (digits : List Char) : Option Nat :=
  if digits ≠ [] ∧ digits.all fun c => '0' ≤ c && c ≤ '7' then
    some (digits.foldl (fun n c => n * 8 + (c.toNat - 48)) 0)
  else none

/-- The bits of those that a letter means. -/
def who? (c : Char) : Option Nat :=
  [('u', 0o4700), ('g', 0o2070), ('o', 0o1007), ('a', 0o7777)].lookup c

/-- The bits without those of another number. -/
def without (bits others : Nat) : Nat := bits ^^^ (bits &&& others)

/-- The bits that a letter grants to everybody, given the mode of a file. -/
def granted? (isDirectory : Bool) (old : Nat) (c : Char) : Option Nat :=
  match c with
  | 'r' => some 0o444
  | 'w' => some 0o222
  | 'x' => some 0o111
  | 'X' => some (if isDirectory ∨ old &&& running ≠ 0 then 0o111 else 0)
  | 's' => some 0o6000
  | 't' => some 0o1000
  | 'u' => some (old / 64 % 8 * 0o111)
  | 'g' => some (old / 8 % 8 * 0o111)
  | 'o' => some (old % 8 * 0o111)
  | _ => none

/-- The mode after one change for those that it concerns. -/
def changed (sign : Char) (concerned bits old : Nat) : Nat :=
  let bits := bits &&& concerned
  if sign = '+' then old ||| bits
  else if sign = '-' then without old bits
  else without old (concerned &&& 0o777) ||| bits

/-- The mode after the changes that some characters spell, which all concern the same. -/
def changes? (isDirectory : Bool) (concerned : Nat) : (fuel : Nat) → List Char → Nat → Option Nat
  | 0, _, _ => none
  | _ + 1, [], old => some old
  | fuel + 1, sign :: rest, old =>
    if ['+', '-', '='].contains sign then
      let (letters, rest) := rest.span fun c => !(['+', '-', '='].contains c)
      match letters.mapM (granted? isDirectory old) with
      | some bits =>
        changes? isDirectory concerned fuel rest
          (changed sign concerned (bits.foldl (· ||| ·) 0) old)
      | none => none
    else none

/-- The mode after the changes of one clause. Without a letter it concerns everybody, as far as the
mask allows. -/
def clause? (mask : Nat) (isDirectory : Bool) (old : Nat) (cs : List Char) : Option Nat :=
  let (letters, rest) := cs.span fun c => (who? c).isSome
  let named := (letters.filterMap who?).foldl (· ||| ·) 0
  let concerned := if letters = [] then without 0o7777 mask else named
  if rest = [] then none else changes? isDirectory concerned (rest.length + 1) rest old

/-- The mode of a file after the changes that a text spells. -/
def change? (text : String) (mask : Nat) (isDirectory : Bool) (old : Nat) : Option Nat :=
  match octal? text.toList with
  | some mode => if mode < 0o10000 then some mode else none
  | none => (text.splitOn ",").foldlM (fun old part => clause? mask isDirectory old part.toList) old

/-- The three letters of one digit of a mode. -/
def letters (digit : Nat) : String :=
  String.ofList ((if digit &&& 4 ≠ 0 then ['r'] else []) ++ (if digit &&& 2 ≠ 0 then ['w'] else [])
    ++ if digit &&& 1 ≠ 0 then ['x'] else [])

end ContestJudge.Shell.Mode
