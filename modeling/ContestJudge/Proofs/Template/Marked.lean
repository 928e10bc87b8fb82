import ContestJudge.Proofs.Template.Tokens

/-!
# Templates of marked names

The walk over a marked template is in literal text again wherever a token ends, also after a `#`
that stands for itself (`expandMarkedFrom_cons`), so it gives what the tokens mean
(`expandMarked_tokens`). A mark alone is a character, two marks are one, and a mark with a brace
opens a name; a closing brace outside of a name is a character too. So only a name that is not known
or not closed can be wrong, and the first of these is the fault.

A part of a marked template has its text whatever stands around it: a text without marks stands for
itself (`expands_of_not_mem`), and a marked name for its value (`expands_marked`). So parts one
blank apart expand to their texts one blank apart. The position is carried along for the faults
alone; a part that has a text has no fault, so it has that text at every position (`Expands`).
-/

namespace ContestJudge.Template

variable {vars : Variables} {cs value : List Char} {name text : String}

/-! ### The tokens of a marked template -/

/-- The first token of a marked text: of these, the first that fits. -/
def firstMarked : Char → List Char → Token
  | '#', '#' :: _ => .doubled '#'
  | '#', '\x7b' :: rest => .ofBrace ['#'] rest
  | c, _ => .plain c

theorem firstMarked_of_ne {c : Char} (hc : c ≠ '#') (rest : List Char) :
    firstMarked c rest = .plain c := by
  fun_cases firstMarked c rest with
  | case1 => exact absurd rfl hc
  | case2 => exact absurd rfl hc
  | case3 => rfl

/-- The language of marked templates. -/
def Language.marked : Language where
  first := firstMarked
  starts c rest := by
    fun_cases firstMarked c rest with
    | case1 rest => exact ⟨rest, rfl⟩
    | case2 rest => exact Token.ofBrace_starts ['#'] rest
    | case3 => exact ⟨rest, rfl⟩

theorem escapes_marked : Language.marked.Escapes ['#'] where
  doubled c hc rest := by
    obtain rfl := List.mem_singleton.1 hc
    rfl
  plain c hc rest := firstMarked_of_ne (mt List.mem_singleton.2 hc) rest

/-! ### The walk -/

/-- The brace that closes a name puts its value in its place. -/
theorem expandMarkedFrom_close (vars : Variables) (pos opened : Nat) (reversed rest : List Char) :
    expandMarkedFrom vars pos (.name opened reversed) ('\x7d' :: rest) =
      (vars (String.ofList reversed.reverse)).elim
        (.error (.undefinedVariable (String.ofList reversed.reverse) (opened + 1)))
        fun value ↦ do return value.toList ++ (← expandMarkedFrom vars (pos + 1) .literal rest) := by
  rw [expandMarkedFrom, if_pos rfl]
  dsimp only
  cases vars (String.ofList reversed.reverse) <;> rfl

theorem readsNames_marked (vars : Variables) :
    ReadsNames vars (expandMarkedFrom vars · .literal)
      fun pos opened reversed ↦ expandMarkedFrom vars pos (.name opened reversed) where
  ends pos opened reversed := by rw [expandMarkedFrom]
  closes := expandMarkedFrom_close vars
  continues pos opened reversed rest c hc := by rw [expandMarkedFrom, if_neg hc]

/-- The walk reads the first token of a text and is in literal text again. -/
theorem expandMarkedFrom_cons (vars : Variables) (pos : Nat) (c : Char) (rest : List Char) :
    expandMarkedFrom vars pos .literal (c :: rest) =
      (firstMarked c rest).andThen vars (expandMarkedFrom vars · .literal) pos (c :: rest) := by
  fun_cases firstMarked c rest with
  | case1 rest =>
    rw [expandMarkedFrom, if_pos rfl, expandMarkedFrom, if_pos rfl, Token.andThen_doubled]
  | case2 rest =>
    rw [expandMarkedFrom, if_pos rfl, expandMarkedFrom, if_neg (by decide), if_pos rfl]
    exact (readsNames_marked vars).read_ofBrace pos ['#'] rest
  | case3 c rest hdouble hopen =>
    rw [expandMarkedFrom, Token.andThen_plain]
    split
    · next hc =>
      subst hc
      -- the walk takes the next character along, which is read in the same way without the mark
      rcases rest with - | ⟨next, more⟩
      · rfl
      · have hmark : next ≠ '#' := fun h ↦ hdouble more rfl (h ▸ rfl)
        have hbrace : next ≠ '\x7b' := fun h ↦ hopen more rfl (h ▸ rfl)
        rw [expandMarkedFrom, if_neg hmark, expandMarkedFrom, if_neg hmark, if_neg hbrace]
        cases expandMarkedFrom vars (pos + 1 + 1) .literal more <;> rfl
    · rfl

/-- **The walk gives what the tokens mean.** -/
theorem expandMarkedFrom_eq_expandFrom (vars : Variables) (pos : Nat) (cs : List Char) :
    expandMarkedFrom vars pos .literal cs = Language.marked.expandFrom vars pos cs :=
  Language.eq_expandFrom (expandMarkedFrom vars · .literal) (fun _ ↦ rfl)
    (expandMarkedFrom_cons vars) pos cs

theorem expandMarked_eq (template : String) (vars : Variables) :
    expandMarked template vars = Language.marked.expand template vars := by
  rw [expandMarked, expandMarkedFrom_eq_expandFrom, Language.expand]

/-- **A marked template means what its tokens mean**, which make it up from left to right. So every
text can be written as a template: with each `#` twice it stands for itself. -/
theorem expandMarked_tokens (template : String) (vars : Variables) :
    (Language.marked.tokensFrom 0 template.toList).flatMap (·.2.chars) = template.toList ∧
      expandMarked template vars = Language.marked.expand template vars ∧
      ∀ text, expandMarked (double ['#'] text) vars = .ok text := by
  refine ⟨Language.flatMap_chars_tokensFrom _ 0 _, expandMarked_eq template vars, fun text ↦ ?_⟩
  rw [expandMarked_eq, Language.expand_of_expands (escapes_marked.expands_double vars text),
    String.ofList_toList]

/-- A row of marks is read in pairs, and the last one may open a name. -/
example : Language.marked.tokensFrom 0 "a###\x7bb\x7d#".toList =
    [(0, .plain 'a'), (1, .doubled '#'), (3, .named ['#'] ['b']), (7, .plain '#')] := by cbv

/-! ### Parts of a template -/

/-- Wherever it stands in literal text, a part of a template has the text `value`. -/
def Expands (vars : Variables) (cs value : List Char) : Prop :=
  ∀ pos rest, expandMarkedFrom vars pos .literal (cs ++ rest) =
    (expandMarkedFrom vars (pos + cs.length) .literal rest).map (value ++ ·)

theorem expands_iff : Expands vars cs value ↔ Language.marked.Expands vars cs value := by
  simp only [Expands, Language.Expands, expandMarkedFrom_eq_expandFrom]

theorem expands_nil (vars : Variables) : Expands vars [] [] :=
  expands_iff.2 (Language.expands_nil _ vars)

theorem Expands.append {cs' value' : List Char} (h : Expands vars cs value)
    (h' : Expands vars cs' value') : Expands vars (cs ++ cs') (value ++ value') :=
  expands_iff.2 ((expands_iff.1 h).append (expands_iff.1 h'))

/-- A text without marks stands for itself. -/
theorem expands_of_not_mem (h : '#' ∉ cs) : Expands vars cs cs := by
  induction cs with
  | nil => exact expands_nil vars
  | cons c more ih =>
    rw [List.mem_cons, not_or] at h
    have hfirst : Language.marked.Expands vars [c] [c] :=
      Language.expands_token (.plain c) rfl (firstMarked_of_ne (Ne.symm h.1)) fun _ ↦ rfl
    exact (expands_iff.2 hfirst).append (ih h.2)

/-- The characters that mark a name. -/
def marked (name : String) : List Char := '#' :: '\x7b' :: name.toList ++ ['\x7d']

/-- **A marked name stands for its value**, which is not read again. -/
theorem expands_marked (hname : '\x7d' ∉ name.toList) (hvalue : vars name = some text) :
    Expands vars (marked name) text.toList := by
  rw [expands_iff]
  refine Language.expands_token (.named ['#'] name.toList) rfl (fun rest ↦ ?_) fun pos ↦ ?_
  · rw [← Token.ofBrace_append hname ['#'] rest]
    show Token.ofBrace ['#'] (name.toList ++ ['\x7d'] ++ rest) = _
    rw [List.append_assoc, List.singleton_append]
  · rw [Token.meaning, String.ofList_toList, hvalue]

theorem expandMarked_of_expands (h : Expands vars text.toList value) :
    expandMarked text vars = .ok (String.ofList value) := by
  rw [expandMarked_eq, Language.expand_of_expands (expands_iff.1 h)]

end ContestJudge.Template
