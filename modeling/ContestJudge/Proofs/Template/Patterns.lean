import ContestJudge.Proofs.Fallible
import ContestJudge.Proofs.ShellWords.Reading
import ContestJudge.Proofs.Template.Braced
import ContestJudge.Proofs.Text.Numerals
import ContestJudge.Template.Arguments

/-!
# Patterns of arguments

The numbers of a case are filled into a template before it is split into words, but the words can be
had first: reading the template leaves text with places for the numbers (`piecesFrom`), and
splitting that text, where a place is read as an ordinary character is, leaves patterns
(`splitPieces`). Filling in the numbers then gives the arguments.

* `expandBracedFrom_eq` — a template is read once, before any number is known. The walk that fills
  numbers in and the one that leaves places go step by step together, so they also have the same
  fault.
* `splitFrom_fill` — splitting commutes with filling in, because a numeral is a run of ordinary
  characters, wherever it is read (`splitFrom_append_ordinary`). What the two walks share is where
  they stand; the words that they hold differ by the numbers.
* `arguments_uniform` — so the arguments of all cases are the same patterns, filled in. They are
  those into which the template is split, and it is wrong for all cases or for none.

That a numeral is at least one character long is needed too: an empty one would leave a word out
that consists of nothing but a place.
-/

namespace ContestJudge.Template

open ShellWords (State Effect splitFrom splitFrom_cons splitAfter IsOrdinary isOrdinary_of_isAlphanum
  splitFrom_append_ordinary step_of_isOrdinary effect_of_outside)

variable {batch position : Nat}

/-! ### Pieces -/

/-- A piece of a template that has been read. -/
inductive Piece where
  /-- A character that stands for itself. -/
  | text (c : Char)
  /-- The place of the batch number. -/
  | batch
  /-- The place of the position. -/
  | position
  deriving DecidableEq, Repr

/-- A text with places for numbers. -/
abbrev Pattern := List Piece

/-- What stands in the place of a piece. -/
def Piece.fill (batch position : Nat) : Piece → List Char
  | .text c => [c]
  | .batch => (toString batch).toList
  | .position => (toString position).toList

/-- The characters of a pattern with the numbers filled in. -/
def Pattern.chars (batch position : Nat) (pattern : Pattern) : List Char :=
  pattern.flatMap (Piece.fill batch position)

/-- A pattern with the numbers filled in. -/
def Pattern.fill (batch position : Nat) (pattern : Pattern) : String :=
  String.ofList (pattern.chars batch position)

/-! ### Reading a template -/

/-- The place that a name stands for. -/
def place? (name : String) : Option Piece :=
  if name = "batch_no" then some .batch
  else if name = "case_no" then some .position
  else none

/-- Reads the characters from position `pos` on. -/
def piecesFrom (pos : Nat) : BracedState → List Char → Except Fault Pattern
  | .literal, [] => .ok []
  | .name opened _, [] => .error (.unclosedBrace opened)
  | .literal, '\x7b' :: '\x7b' :: rest => do
    return .text '\x7b' :: (← piecesFrom (pos + 2) .literal rest)
  | .literal, '\x7b' :: rest => piecesFrom (pos + 1) (.name pos []) rest
  | .literal, '\x7d' :: '\x7d' :: rest => do
    return .text '\x7d' :: (← piecesFrom (pos + 2) .literal rest)
  | .literal, c :: rest =>
    if c = '\x7d' then .error (.unmatchedBrace pos)
    else do return .text c :: (← piecesFrom (pos + 1) .literal rest)
  | .name opened reversed, c :: rest =>
    if c = '\x7d' then
      let name := String.ofList reversed.reverse
      match place? name with
      | none => .error (.undefinedVariable name (opened + 1))
      | some piece => do return piece :: (← piecesFrom (pos + 1) .literal rest)
    else piecesFrom (pos + 1) (.name opened (c :: reversed)) rest

theorem caseVariables_eq (batch : Option Nat) (position : Nat) (name : String) :
    caseVariables batch position name =
      (place? name).map fun piece ↦ String.ofList (piece.fill (batch.getD 0) position) := by
  have hread (text : String) : String.ofList text.toList = text := String.ofList_toList
  unfold caseVariables Variables.ofList place?
  by_cases hbatch : name = "batch_no"
  · rw [if_pos hbatch, hbatch, Option.map_some, Piece.fill, hread]
    rfl
  rw [if_neg hbatch, List.lookup_cons, beq_false_of_ne hbatch]
  by_cases hcase : name = "case_no"
  · rw [if_pos hcase, hcase, Option.map_some, Piece.fill, hread]
    rfl
  · simp only [List.lookup_cons, if_neg hcase, beq_false_of_ne hcase]
    rfl

/-- Filling in the numbers of what follows a piece. -/
theorem map_chars_cons (batch position : Nat) (piece : Piece) (pieces : Except Fault Pattern) :
    (do return piece :: (← pieces) : Except Fault Pattern).map (Pattern.chars batch position) =
      (do return piece.fill batch position ++
        (← pieces.map (Pattern.chars batch position)) : Except Fault (List Char)) := by
  cases pieces <;> rfl

/-- **A template is read once**, before any number is known. -/
theorem expandBracedFrom_eq (batch : Option Nat) (position pos : Nat) (state : BracedState)
    (cs : List Char) :
    expandBracedFrom (caseVariables batch position) pos state cs =
      (piecesFrom pos state cs).map (Pattern.chars (batch.getD 0) position) := by
  fun_induction piecesFrom pos state cs with
  | case1 => rfl
  | case2 => rfl
  | case3 pos rest ih =>
    rw [expandBracedFrom, ih, map_chars_cons]
    rfl
  | case4 pos rest hsingle ih => rw [expandBracedFrom.eq_4 _ _ _ hsingle, ih]
  | case5 pos rest ih =>
    rw [expandBracedFrom, ih, map_chars_cons]
    rfl
  | case6 pos rest hdouble hopen hclose =>
    rw [expandBracedFrom.eq_6 _ _ _ _ hdouble hopen hclose, if_pos rfl]
    rfl
  | case7 pos c rest hdouble hopen hclose hc ih =>
    rw [expandBracedFrom.eq_6 _ _ _ _ hdouble hopen hclose, if_neg hc, ih, map_chars_cons]
    rfl
  | case8 pos opened reversed rest name hplace =>
    have hvar : caseVariables batch position (String.ofList reversed.reverse) = none := by
      rw [caseVariables_eq, hplace, Option.map_none]
    rw [expandBracedFrom_close, hvar]
    rfl
  | case9 pos opened reversed rest name piece hplace ih =>
    have hvar : caseVariables batch position (String.ofList reversed.reverse) =
        some (String.ofList (piece.fill (batch.getD 0) position)) := by
      rw [caseVariables_eq, hplace, Option.map_some]
    rw [expandBracedFrom_close, hvar, Option.elim_some, map_chars_cons, ← ih, String.toList_ofList]
  | case10 pos opened reversed c rest hc ih => rw [expandBracedFrom, if_neg hc, ih]

/-! ### Splitting a pattern -/

/-- A numeral is a run of ordinary characters. -/
theorem isOrdinary_of_mem_toString {n : Nat} {c : Char} (h : c ∈ (toString n).toList) :
    IsOrdinary c := by
  refine isOrdinary_of_isAlphanum ?_
  rw [Char.isAlphanum, Text.isDigit_of_mem_toString h, Bool.or_true]

/-- Where a piece leads when it is read, and what it does. -/
def Piece.step (st : State) : Piece → State × Effect
  | .text c => st.step c
  | .batch => st.stepOrdinary
  | .position => st.stepOrdinary

/-- The words of the rest of a pattern, where `word` holds the word begun so far in reverse. -/
def splitPieces : State → (word : Pattern) → List Piece → Option (List Pattern)
  | .between, _, [] => some []
  | .comment, _, [] => some []
  | .bare, word, [] => some [word.reverse]
  | _, _, [] => none
  | st, word, piece :: rest =>
    match piece.step st with
    | (next, .drop) => splitPieces next word rest
    | (next, .keep) => splitPieces next (piece :: word) rest
    | (next, .keepEscaped) => splitPieces next (piece :: .text '\\' :: word) rest
    | (next, .finish) => (splitPieces next [] rest).map (word.reverse :: ·)

/-- A piece is read like the characters that stand in its place. -/
theorem splitFrom_fill_append {st : State} {word rest : List Char} (piece : Piece)
    (hword : st.inWord = false → word = []) :
    splitFrom st word (piece.fill batch position ++ rest) =
      splitAfter word (piece.fill batch position) rest (piece.step st) := by
  cases piece with
  | text c => exact splitFrom_cons hword
  | batch =>
    exact splitFrom_append_ordinary hword (Text.toString_ne_nil batch)
      fun _ ↦ isOrdinary_of_mem_toString
  | position =>
    exact splitFrom_append_ordinary hword (Text.toString_ne_nil position)
      fun _ ↦ isOrdinary_of_mem_toString

/-- A piece is read like some character. -/
theorem Piece.exists_step_eq (piece : Piece) : ∃ c, ∀ st, piece.step st = State.step st c := by
  have hordinary : ∀ st, State.stepOrdinary st = st.step '0' :=
    fun st ↦ (step_of_isOrdinary (by decide) st).symm
  cases piece with
  | text c => exact ⟨c, fun _ ↦ rfl⟩
  | batch => exact ⟨'0', hordinary⟩
  | position => exact ⟨'0', hordinary⟩

/-- Adding a piece to the word begun so far. -/
theorem reverse_chars_cons (batch position : Nat) (piece : Piece) (word : Pattern) :
    (Pattern.chars batch position (piece :: word).reverse).reverse =
      (piece.fill batch position).reverse ++
        (Pattern.chars batch position word.reverse).reverse := by
  have hlast : Pattern.chars batch position (word.reverse ++ [piece]) =
      Pattern.chars batch position word.reverse ++ piece.fill batch position := by
    rw [Pattern.chars, List.flatMap_append, List.flatMap_singleton]
    rfl
  rw [List.reverse_cons, hlast, List.reverse_append]

/-- **Splitting commutes with filling in**: the words of a filled pattern are the patterns that it
is split into, filled in. -/
theorem splitFrom_fill {st : State} {word pieces : Pattern}
    (hword : st.inWord = false → word = []) :
    splitFrom st (Pattern.chars batch position word.reverse).reverse
        (Pattern.chars batch position pieces) =
      (splitPieces st word pieces).map (List.map (Pattern.chars batch position)) := by
  induction pieces generalizing st word with
  | nil =>
    have hread : (Pattern.chars batch position word.reverse).reverse.reverse =
        Pattern.chars batch position word.reverse := List.reverse_reverse _
    cases st with
    | bare => exact congrArg (some [·]) hread
    | between => rfl
    | comment => rfl
    | escape => rfl
    | single => rfl
    | double => rfl
    | doubleEscape => rfl
  | cons piece rest ih =>
    have hchars : st.inWord = false →
        (Pattern.chars batch position word.reverse).reverse = [] := by
      intro hout
      rw [hword hout]
      rfl
    obtain ⟨c, hc⟩ := piece.exists_step_eq
    have hnext : (st.step c).1.inWord = false →
        (st.step c).2 = .finish ∨ (st.step c).2 = .drop ∧ st.inWord = false := effect_of_outside
    show splitFrom st _ (piece.fill batch position ++ Pattern.chars batch position rest) = _
    rw [splitFrom_fill_append piece hchars, splitPieces]
    rw [← hc] at hnext
    generalize piece.step st = result at hnext
    obtain ⟨next, effect⟩ := result
    cases effect with
    | drop =>
      refine ih fun hout ↦ ?_
      rcases hnext hout with hfinish | ⟨-, hst⟩
      · exact nomatch hfinish
      · exact hword hst
    | keep =>
      show splitFrom next (_ ++ _) _ = _
      rw [← reverse_chars_cons]
      exact ih fun hout ↦ (hnext hout).elim nofun nofun
    | keepEscaped =>
      have hslash := reverse_chars_cons batch position (.text '\\') word
      show splitFrom next (_ ++ ((Piece.fill batch position (.text '\\')).reverse ++
        (Pattern.chars batch position word.reverse).reverse)) _ = _
      rw [← hslash, ← reverse_chars_cons]
      exact ih fun hout ↦ (hnext hout).elim nofun nofun
    | finish =>
      show (splitFrom next (Pattern.chars batch position [].reverse).reverse _).map _ =
        ((splitPieces next [] rest).map _).map _
      rw [ih fun _ ↦ rfl]
      cases splitPieces next [] rest with
      | none => rfl
      | some words =>
        exact congrArg (fun first ↦ some (first :: words.map _)) (List.reverse_reverse _)

/-! ### The arguments of a case -/

theorem split?_fill (batch position : Nat) (line : Pattern) :
    ShellWords.split? (line.fill batch position) =
      (splitPieces .between [] line).map (List.map (Pattern.fill batch position)) := by
  have hsplit : splitFrom .between (Pattern.chars batch position [].reverse).reverse
      (Pattern.chars batch position line) =
        (splitPieces .between [] line).map (List.map (Pattern.chars batch position)) :=
    splitFrom_fill fun _ ↦ rfl
  rw [ShellWords.split?, Pattern.fill, String.toList_ofList]
  show (splitFrom .between (Pattern.chars batch position [].reverse).reverse _).map _ = _
  rw [hsplit, Option.map_map]
  cases splitPieces .between [] line with
  | none => rfl
  | some patterns => exact congrArg some List.map_map

theorem arguments_eq (template : String) (batch : Option Nat) (position : Nat) :
    arguments template batch position =
      match piecesFrom 0 .literal template.toList with
      | .error fault => .error (.template fault)
      | .ok line =>
        match splitPieces .between [] line with
        | none => .error (.unbalancedQuotes (line.fill (batch.getD 0) position))
        | some patterns => .ok (patterns.map (Pattern.fill (batch.getD 0) position)) := by
  rw [arguments, expandBraced, expandBracedFrom_eq]
  cases piecesFrom 0 .literal template.toList with
  | error fault => rfl
  | ok line =>
    have hline : (Except.map String.ofList
        (Except.map (Pattern.chars (batch.getD 0) position) (.ok line)) : Except Fault String) =
          .ok (line.fill (batch.getD 0) position) := rfl
    rw [hline]
    dsimp only
    rw [split?_fill]
    cases splitPieces .between [] line <;> rfl

/-- **The numbers of a case never change how a template is read.** It is wrong for all cases, in the
same way, because it cannot be read or because what was read cannot be split into words; or its
words are the same patterns for all cases, those into which it is split before any number is known,
with the numbers filled in. Outside batches the batch number is zero. So neither whether there are
arguments nor how many depends on the case. -/
theorem arguments_uniform (template : String) :
    ((∃ fault, piecesFrom 0 .literal template.toList = .error fault ∧ ∀ batch position,
        arguments template batch position = .error (.template fault)) ∨
      ∃ line : Pattern, piecesFrom 0 .literal template.toList = .ok line ∧
        ((splitPieces .between [] line = none ∧ ∀ batch position,
            arguments template batch position =
              .error (.unbalancedQuotes (line.fill (batch.getD 0) position))) ∨
          ∃ patterns : List Pattern, splitPieces .between [] line = some patterns ∧
            ∀ batch position, arguments template batch position =
              .ok (patterns.map (Pattern.fill (batch.getD 0) position)))) ∧
    ∀ batch position batch' position',
      (arguments template batch position).toOption.map List.length =
        (arguments template batch' position').toOption.map List.length := by
  simp only [arguments_eq]
  cases piecesFrom 0 .literal template.toList with
  | error fault => exact ⟨.inl ⟨fault, rfl, fun _ _ ↦ rfl⟩, fun _ _ _ _ ↦ rfl⟩
  | ok line =>
    dsimp only
    cases hsplit : splitPieces .between [] line with
    | none => exact ⟨.inr ⟨line, rfl, .inl ⟨hsplit, fun _ _ ↦ rfl⟩⟩, fun _ _ _ _ ↦ rfl⟩
    | some patterns =>
      refine ⟨.inr ⟨line, rfl, .inr ⟨patterns, hsplit, fun _ _ ↦ rfl⟩⟩,
        fun batch position batch' position' ↦ ?_⟩
      have hlength (batch position : Nat) :
          (patterns.map (Pattern.fill batch position)).length = patterns.length :=
        List.length_map _
      show some (List.length _) = some (List.length _)
      rw [hlength, hlength]

/-- A place in quotes stays in its word, also when the numeral is long. -/
example : (piecesFrom 0 .literal "'st {batch_no}' \\{case_no}".toList).toOption.bind
    (splitPieces .between []) =
      some [[.text 's', .text 't', .text ' ', .batch], [.position]] := by decide

end ContestJudge.Template
