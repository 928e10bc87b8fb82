import ContestJudge.Template.Basic
import Mathlib.Tactic.Common

/-!
# Templates as rows of tokens

Both template languages can be told without a walk. A template is a row of tokens, each of them the
first that fits where the one before it ends, and it means what its tokens mean, one after the other
(`Language.expand`). A language is told by which token a text starts with, and by nothing else.

## Main results

* `Language.eq_expandFrom`: a walk that goes on after each token gives what the tokens mean. The
  induction over the tokens is done here, once for both languages.
* `ReadsNames.read_ofBrace`: the same for the inside of braces, where both walks do the same.
* `Language.Escapes.expands_double`: wherever it stands, a text whose special characters are written
  twice stands for itself.

## Faults

The first token that means nothing is the fault of a template, with its position in characters. A
token is given its position when the text is cut (`Language.tokensFrom`), and the walks count the
same characters, so a fault of a walk is compared with the fault of a token as it is. An opening
brace that is never closed takes all that follows into its token: nothing after it is read, and
nothing after it can be wrong.
-/

namespace ContestJudge.Template

variable {vars : Variables}

/-! ### Tokens -/

/-- A part of a template that is read as a whole. -/
inductive Token where
  /-- A character that stands for itself. -/
  | plain (c : Char)
  /-- A character written twice, which stands for itself. -/
  | doubled (c : Char)
  /-- A name in braces, after a mark. -/
  | named (mark name : List Char)
  /-- An opening brace that is never closed, after a mark and with all that follows. -/
  | unclosed (mark rest : List Char)
  /-- A closing brace that closes nothing. -/
  | unmatched
  deriving DecidableEq, Repr

namespace Token

/-- How a token is written. -/
def chars : Token → List Char
  | plain c => [c]
  | doubled c => [c, c]
  | named mark name => mark ++ '\x7b' :: (name ++ ['\x7d'])
  | unclosed mark rest => mark ++ '\x7b' :: rest
  | unmatched => ['\x7d']

/-- What a token at position `pos` means. -/
def meaning (vars : Variables) (pos : Nat) : Token → Except Fault (List Char)
  | plain c => .ok [c]
  | doubled c => .ok [c]
  | named mark name =>
    match vars (String.ofList name) with
    | none => .error (.undefinedVariable (String.ofList name) (pos + mark.length + 1))
    | some value => .ok value.toList
  | unclosed mark _ => .error (.unclosedBrace (pos + mark.length))
  | unmatched => .error (.unmatchedBrace pos)

/-- The token that an opening brace starts: a name up to the next closing brace, if there is one. -/
def ofBrace (mark rest : List Char) : Token :=
  if '\x7d' ∈ rest then named mark (rest.takeWhile (· ≠ '\x7d')) else unclosed mark rest

theorem length_chars_pos (token : Token) : 0 < token.chars.length := by
  cases token <;> simp only [chars, List.length_append, List.length_cons] <;> omega

theorem ofBrace_append {name : List Char} (hname : '\x7d' ∉ name) (mark after : List Char) :
    ofBrace mark (name ++ '\x7d' :: after) = named mark name := by
  have hopen : ∀ c ∈ name, decide (c ≠ '\x7d') = true := by
    intro c hc
    exact decide_eq_true fun h ↦ hname (h ▸ hc)
  rw [ofBrace, if_pos (List.mem_append_right _ List.mem_cons_self),
    List.takeWhile_append_of_pos hopen, List.takeWhile_cons_of_neg (by decide), List.append_nil]

/-- What follows an opening brace is a name that is closed, or has no closing brace at all. -/
theorem ofBrace_cases (mark rest : List Char) :
    (∃ name after, '\x7d' ∉ name ∧ rest = name ++ '\x7d' :: after ∧
      ofBrace mark rest = named mark name) ∨
    '\x7d' ∉ rest ∧ ofBrace mark rest = unclosed mark rest := by
  by_cases h : '\x7d' ∈ rest
  · obtain ⟨name, after, rfl, hname⟩ := List.eq_append_cons_of_mem h
    exact .inl ⟨name, after, hname, rfl, ofBrace_append hname mark after⟩
  · exact .inr ⟨h, if_neg h⟩

theorem ofBrace_starts (mark rest : List Char) :
    (ofBrace mark rest).chars <+: mark ++ '\x7b' :: rest := by
  rcases ofBrace_cases mark rest with ⟨name, after, -, rfl, htoken⟩ | ⟨-, htoken⟩
  · rw [htoken]
    exact ⟨after, by simp [chars]⟩
  · rw [htoken]
    exact List.prefix_rfl

/-- What a token at the start of a text means, and after it what a walk makes of the text behind. -/
def andThen (vars : Variables) (walk : Nat → List Char → Except Fault (List Char)) (pos : Nat)
    (cs : List Char) (token : Token) : Except Fault (List Char) := do
  return (← token.meaning vars pos) ++
    (← walk (pos + token.chars.length) (cs.drop token.chars.length))

section AndThen

variable (vars : Variables) (walk : Nat → List Char → Except Fault (List Char)) (pos : Nat)
  (c : Char) (rest : List Char)

theorem andThen_plain : (plain c).andThen vars walk pos (c :: rest) =
    do return c :: (← walk (pos + 1) rest) := rfl

theorem andThen_doubled : (doubled c).andThen vars walk pos (c :: c :: rest) =
    do return c :: (← walk (pos + 2) rest) := rfl

end AndThen

end Token

/-! ### Languages -/

/-- A template language, told by the token that a text starts with. -/
structure Language where
  /-- The first token of a text, from the first character of the text and what follows it. -/
  first : Char → List Char → Token
  /-- The text does start with it. -/
  starts : ∀ c rest, (first c rest).chars <+: c :: rest

namespace Language

variable {lang : Language} {pos : Nat} {cs value : List Char}

/-- The tokens of a text, each with its position, when the text starts at position `pos`. -/
def tokensFrom (lang : Language) (pos : Nat) : List Char → List (Nat × Token)
  | [] => []
  | c :: rest =>
    (pos, lang.first c rest) :: tokensFrom lang (pos + (lang.first c rest).chars.length)
      ((c :: rest).drop (lang.first c rest).chars.length)
termination_by cs => cs.length
decreasing_by
  -- every token takes at least one character
  have hpos := (lang.first c rest).length_chars_pos
  rw [List.length_drop, List.length_cons]
  omega

/-- What a text means that starts at position `pos`: what its tokens mean, one after the other. The
first token that means nothing is its fault. -/
def expandFrom (lang : Language) (vars : Variables) (pos : Nat) (cs : List Char) :
    Except Fault (List Char) :=
  ((lang.tokensFrom pos cs).mapM fun ((pos, token) : Nat × Token) ↦ token.meaning vars pos).map
    List.flatten

/-- What a template means. -/
def expand (lang : Language) (template : String) (vars : Variables) : Except Fault String :=
  (lang.expandFrom vars 0 template.toList).map String.ofList

/-- The tokens of a text make it up. -/
theorem flatMap_chars_tokensFrom (lang : Language) (pos : Nat) (cs : List Char) :
    (lang.tokensFrom pos cs).flatMap (·.2.chars) = cs := by
  fun_induction tokensFrom lang pos cs with
  | case1 => rfl
  | case2 pos c rest ih =>
    rw [List.flatMap_cons, ih]
    exact List.prefix_iff_eq_append.1 (lang.starts c rest)

theorem expandFrom_nil (lang : Language) (vars : Variables) (pos : Nat) :
    lang.expandFrom vars pos [] = .ok [] := by
  rw [expandFrom, tokensFrom]
  rfl

theorem expandFrom_cons (lang : Language) (vars : Variables) (pos : Nat) (c : Char)
    (rest : List Char) :
    lang.expandFrom vars pos (c :: rest) =
      (lang.first c rest).andThen vars (lang.expandFrom vars) pos (c :: rest) := by
  rw [expandFrom, tokensFrom, List.mapM_cons, Token.andThen, expandFrom]
  dsimp only
  cases (lang.first c rest).meaning vars pos with
  | error fault => rfl
  | ok value =>
    cases (lang.tokensFrom (pos + (lang.first c rest).chars.length)
      ((c :: rest).drop (lang.first c rest).chars.length)).mapM
        fun ((pos, token) : Nat × Token) ↦ token.meaning vars pos <;> rfl

/-- **A walk that goes on after each token** gives what the tokens mean. -/
theorem eq_expandFrom (walk : Nat → List Char → Except Fault (List Char))
    (hend : ∀ pos, walk pos [] = .ok [])
    (hstep : ∀ pos c rest,
      walk pos (c :: rest) = (lang.first c rest).andThen vars walk pos (c :: rest))
    (pos : Nat) (cs : List Char) : walk pos cs = lang.expandFrom vars pos cs := by
  fun_induction tokensFrom lang pos cs with
  | case1 pos => rw [hend, expandFrom_nil]
  | case2 pos c rest ih => rw [hstep, expandFrom_cons, Token.andThen, Token.andThen, ih]

/-! ### Parts of a template -/

/-- Wherever a token ends before it, a part of a template has the text `value`. -/
def Expands (lang : Language) (vars : Variables) (cs value : List Char) : Prop :=
  ∀ pos rest, lang.expandFrom vars pos (cs ++ rest) =
    (lang.expandFrom vars (pos + cs.length) rest).map (value ++ ·)

theorem expands_nil (lang : Language) (vars : Variables) : lang.Expands vars [] [] := by
  intro pos rest
  show lang.expandFrom vars pos rest = (lang.expandFrom vars pos rest).map id
  cases lang.expandFrom vars pos rest <;> rfl

theorem Expands.append {cs' value' : List Char} (h : lang.Expands vars cs value)
    (h' : lang.Expands vars cs' value') : lang.Expands vars (cs ++ cs') (value ++ value') := by
  intro pos rest
  rw [List.append_assoc, h, h', List.length_append, ← Nat.add_assoc]
  cases lang.expandFrom vars (pos + cs.length + cs'.length) rest with
  | error fault => rfl
  | ok after => exact congrArg Except.ok (List.append_assoc value value' after).symm

/-- A token has its meaning wherever it is the first, whatever follows it. -/
theorem expands_token (token : Token) {c : Char} {more : List Char}
    (hchars : token.chars = c :: more) (hfirst : ∀ rest, lang.first c (more ++ rest) = token)
    (hmeaning : ∀ pos, token.meaning vars pos = .ok value) :
    lang.Expands vars token.chars value := by
  intro pos rest
  have hbehind : (token.chars ++ rest).drop token.chars.length = rest := List.drop_left' rfl
  have hcons : token.chars ++ rest = c :: (more ++ rest) := by rw [hchars, List.cons_append]
  rw [hcons, expandFrom_cons, hfirst, Token.andThen, hmeaning, ← hcons, hbehind]
  cases lang.expandFrom vars (pos + token.chars.length) rest <;> rfl

theorem expand_of_expands {template : String} (h : lang.Expands vars template.toList value) :
    lang.expand template vars = .ok (String.ofList value) := by
  have hwhole := h 0 []
  rw [List.append_nil, expandFrom_nil] at hwhole
  rw [expand, hwhole]
  exact congrArg (fun value ↦ Except.ok (String.ofList value)) (List.append_nil value)

/-- In a language, the special characters stand for themselves when they are written twice, and all
others as they are. -/
structure Escapes (lang : Language) (special : List Char) : Prop where
  doubled : ∀ c ∈ special, ∀ rest, lang.first c (c :: rest) = .doubled c
  plain : ∀ c ∉ special, ∀ rest, lang.first c rest = .plain c

end Language

/-- A text with its special characters written twice. -/
def double (special : List Char) (text : String) : String :=
  String.ofList (text.toList.flatMap fun c ↦ if c ∈ special then [c, c] else [c])

/-- **A text with its special characters written twice stands for itself.** -/
theorem Language.Escapes.expands_double {lang : Language} {special : List Char}
    (h : lang.Escapes special) (vars : Variables) (text : String) :
    lang.Expands vars (double special text).toList text.toList := by
  rw [double, String.toList_ofList]
  induction text.toList with
  | nil => exact expands_nil lang vars
  | cons c rest ih =>
    have hfirst : lang.Expands vars (if c ∈ special then [c, c] else [c]) [c] := by
      split
      · next hc => exact expands_token (.doubled c) rfl (h.doubled c hc) fun _ ↦ rfl
      · next hc => exact expands_token (.plain c) rfl (h.plain c hc) fun _ ↦ rfl
    rw [List.flatMap_cons]
    exact hfirst.append ih

/-! ### Inside of braces -/

/-- A walk that reads a name inside of braces: up to the next closing brace, after which another walk
goes on. -/
structure ReadsNames (vars : Variables) (outside : Nat → List Char → Except Fault (List Char))
    (inside : (pos opened : Nat) → (reversed rest : List Char) → Except Fault (List Char)) :
    Prop where
  ends : ∀ pos opened reversed, inside pos opened reversed [] = .error (.unclosedBrace opened)
  closes : ∀ pos opened reversed rest, inside pos opened reversed ('\x7d' :: rest) =
    (vars (String.ofList reversed.reverse)).elim
      (.error (.undefinedVariable (String.ofList reversed.reverse) (opened + 1)))
      fun value ↦ do return value.toList ++ (← outside (pos + 1) rest)
  continues : ∀ pos opened reversed rest, ∀ c ≠ '\x7d', inside pos opened reversed (c :: rest) =
    inside (pos + 1) opened (c :: reversed) rest

namespace ReadsNames

variable {outside : Nat → List Char → Except Fault (List Char)}
  {inside : (pos opened : Nat) → (reversed rest : List Char) → Except Fault (List Char)}

theorem read (h : ReadsNames vars outside inside) {name : List Char} (hname : '\x7d' ∉ name)
    (pos opened : Nat) (reversed rest : List Char) : inside pos opened reversed (name ++ rest) =
      inside (pos + name.length) opened (name.reverse ++ reversed) rest := by
  induction name generalizing pos reversed with
  | nil => rfl
  | cons c more ih =>
    rw [List.mem_cons, not_or] at hname
    have hpos : pos + 1 + more.length = pos + (c :: more).length := by
      rw [List.length_cons]
      omega
    rw [List.cons_append, h.continues pos opened reversed _ c (Ne.symm hname.1), ih hname.2, hpos,
      List.reverse_cons, List.append_assoc, List.singleton_append]

/-- **What an opening brace starts** is read as the token that it is. -/
theorem read_ofBrace (h : ReadsNames vars outside inside) (pos : Nat) (mark rest : List Char) :
    inside (pos + mark.length + 1) (pos + mark.length) [] rest =
      (Token.ofBrace mark rest).andThen vars outside pos (mark ++ '\x7b' :: rest) := by
  -- a name that is never closed is read to the end of the text
  rcases Token.ofBrace_cases mark rest with ⟨name, after, hname, rfl, htoken⟩ | ⟨hopen, htoken⟩
  · have hchars : mark ++ '\x7b' :: (name ++ '\x7d' :: after) =
        (Token.named mark name).chars ++ after := by simp [Token.chars]
    have hpos : pos + mark.length + 1 + name.length + 1 =
        pos + (Token.named mark name).chars.length := by
      simp only [Token.chars, List.length_append, List.length_cons, List.length_nil]
      omega
    rw [htoken, h.read hname, h.closes, Token.andThen, hchars, List.drop_left' rfl, hpos,
      List.append_nil, List.reverse_reverse, Token.meaning]
    cases vars (String.ofList name) <;> rfl
  · have hend := h.read hopen (pos + mark.length + 1) (pos + mark.length) [] []
    rw [List.append_nil] at hend
    rw [htoken, hend, h.ends]
    rfl

end ReadsNames

end ContestJudge.Template
