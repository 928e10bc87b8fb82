import ContestJudge.Proofs.Template.Tokens

/-!
# Templates of braced names

A brace means something else when the next character is a brace too, so a run of braces is read in
pairs from the left; the walk over a braced template looks ahead by one character for it, and is in
literal text again wherever a token ends (`expandBracedFrom_cons`). So it gives what the tokens
mean, with the same fault at the same position (`expandBracedFrom_eq_expandFrom`).

A name ends at the first closing brace. So a name between two texts whose braces are written twice
is found again, also where a brace of the text before stands next to the one that opens the name:
the text has an even number of braces there, and they are taken in pairs first (`expands_braced`). A
name may not begin with a brace for that, as it would make another pair.

`expandBraced_tokens` states all of this for every template and every table of names.
-/

namespace ContestJudge.Template

variable {vars : Variables} {name text : String}

/-! ### The tokens of a braced template -/

/-- The first token of a braced text: of these, the first that fits. -/
def firstBraced : Char → List Char → Token
  | '\x7b', '\x7b' :: _ => .doubled '\x7b'
  | '\x7b', rest => .ofBrace [] rest
  | '\x7d', '\x7d' :: _ => .doubled '\x7d'
  | '\x7d', _ => .unmatched
  | c, _ => .plain c

/-- The characters that mean something in a braced template. -/
def braces : List Char := ['\x7b', '\x7d']

theorem mem_braces {c : Char} : c ∈ braces ↔ c = '\x7b' ∨ c = '\x7d' := by
  rw [braces, List.mem_cons, List.mem_singleton]

/-- The language of braced templates. -/
def Language.braced : Language where
  first := firstBraced
  starts c rest := by
    fun_cases firstBraced c rest with
    | case1 rest => exact ⟨rest, rfl⟩
    | case2 rest => exact Token.ofBrace_starts [] rest
    | case3 rest => exact ⟨rest, rfl⟩
    | case4 rest => exact ⟨rest, rfl⟩
    | case5 c rest => exact ⟨rest, rfl⟩

theorem escapes_braced : Language.braced.Escapes braces where
  doubled c hc rest := by
    rcases mem_braces.1 hc with rfl | rfl <;> rfl
  plain c hc rest := by
    show firstBraced c rest = .plain c
    rw [mem_braces, not_or] at hc
    fun_cases firstBraced c rest with
    | case1 => exact absurd rfl hc.1
    | case2 => exact absurd rfl hc.1
    | case3 => exact absurd rfl hc.2
    | case4 => exact absurd rfl hc.2
    | case5 => rfl

theorem firstBraced_of_head?_ne {cs : List Char} (h : cs.head? ≠ some '\x7b') :
    firstBraced '\x7b' cs = .ofBrace [] cs := by
  rcases cs with - | ⟨c, rest⟩
  · rfl
  · exact firstBraced.eq_2 _ fun _ hc ↦ h (congrArg List.head? hc)

/-! ### The walk -/

/-- The brace that closes a name puts its value in its place. -/
theorem expandBracedFrom_close (vars : Variables) (pos opened : Nat) (reversed rest : List Char) :
    expandBracedFrom vars pos (.name opened reversed) ('\x7d' :: rest) =
      (vars (String.ofList reversed.reverse)).elim
        (.error (.undefinedVariable (String.ofList reversed.reverse) (opened + 1)))
        fun value ↦ do return value.toList ++ (← expandBracedFrom vars (pos + 1) .literal rest) := by
  rw [expandBracedFrom, if_pos rfl]
  dsimp only
  cases vars (String.ofList reversed.reverse) <;> rfl

theorem readsNames_braced (vars : Variables) :
    ReadsNames vars (expandBracedFrom vars · .literal)
      fun pos opened reversed ↦ expandBracedFrom vars pos (.name opened reversed) where
  ends pos opened reversed := by rw [expandBracedFrom]
  closes := expandBracedFrom_close vars
  continues pos opened reversed rest c hc := by rw [expandBracedFrom, if_neg hc]

/-- The walk reads the first token of a text and is in literal text again. -/
theorem expandBracedFrom_cons (vars : Variables) (pos : Nat) (c : Char) (rest : List Char) :
    expandBracedFrom vars pos .literal (c :: rest) =
      (firstBraced c rest).andThen vars (expandBracedFrom vars · .literal) pos (c :: rest) := by
  fun_cases firstBraced c rest with
  | case1 rest => rw [expandBracedFrom, Token.andThen_doubled]
  | case2 rest hdouble =>
    rw [expandBracedFrom.eq_4 _ _ _ hdouble]
    exact (readsNames_braced vars).read_ofBrace pos [] rest
  | case3 rest => rw [expandBracedFrom, Token.andThen_doubled]
  | case4 rest hdouble =>
    rw [expandBracedFrom.eq_6 vars pos '\x7d' rest nofun nofun fun more _ h ↦ hdouble more h,
      if_pos rfl]
    rfl
  | case5 c rest hdouble hopen hdouble' hclose =>
    rw [expandBracedFrom.eq_6 _ _ _ _ hdouble hopen hdouble', if_neg hclose, Token.andThen_plain]

/-- **The walk gives what the tokens mean.** -/
theorem expandBracedFrom_eq_expandFrom (vars : Variables) (pos : Nat) (cs : List Char) :
    expandBracedFrom vars pos .literal cs = Language.braced.expandFrom vars pos cs :=
  Language.eq_expandFrom (expandBracedFrom vars · .literal) (fun _ ↦ rfl)
    (expandBracedFrom_cons vars) pos cs

theorem expandBraced_eq (template : String) (vars : Variables) :
    expandBraced template vars = Language.braced.expand template vars := by
  rw [expandBraced, expandBracedFrom_eq_expandFrom, Language.expand]

/-! ### Parts of a template -/

/-- A name in braces. -/
def braced (name : String) : String := "\x7b" ++ name ++ "\x7d"

/-- **A name in braces stands for its value**, which is not read again. -/
theorem expands_braced (hname : '\x7d' ∉ name.toList) (hfirst : name.toList.head? ≠ some '\x7b')
    (hvalue : vars name = some text) :
    Language.braced.Expands vars (braced name).toList text.toList := by
  have hchars : (braced name).toList = (Token.named [] name.toList).chars := by
    rw [braced, String.toList_append, String.toList_append]
    rfl
  rw [hchars]
  refine Language.expands_token (.named [] name.toList) rfl (fun rest ↦ ?_) fun pos ↦ ?_
  · have hhead : (name.toList ++ '\x7d' :: rest).head? ≠ some '\x7b' := by
      rcases hcs : name.toList with - | ⟨c, more⟩
      · exact fun h ↦ absurd (Option.some.inj h) (by decide)
      · rwa [hcs] at hfirst
    show firstBraced '\x7b' (name.toList ++ ['\x7d'] ++ rest) = _
    rw [List.append_assoc, List.singleton_append, firstBraced_of_head?_ne hhead,
      Token.ofBrace_append hname]
  · rw [Token.meaning, String.ofList_toList, hvalue]

/-- **A braced template means what its tokens mean**, which make it up from left to right. So every
text can be written as a template: with each brace twice it stands for itself, also next to a name
in braces, which stands for its value. -/
theorem expandBraced_tokens (template : String) (vars : Variables) :
    (Language.braced.tokensFrom 0 template.toList).flatMap (·.2.chars) = template.toList ∧
      expandBraced template vars = Language.braced.expand template vars ∧
      (∀ text, expandBraced (double braces text) vars = .ok text) ∧
      ∀ before name value after, '\x7d' ∉ name.toList → name.toList.head? ≠ some '\x7b' →
        vars name = some value →
          expandBraced (double braces before ++ braced name ++ double braces after) vars =
            .ok (before ++ value ++ after) := by
  have hdouble (text : String) :
      Language.braced.Expands vars (double braces text).toList text.toList :=
    escapes_braced.expands_double vars text
  refine ⟨Language.flatMap_chars_tokensFrom _ 0 _, expandBraced_eq template vars, fun text ↦ ?_,
    fun before name value after hname hfirst hvalue ↦ ?_⟩
  · rw [expandBraced_eq, Language.expand_of_expands (hdouble text), String.ofList_toList]
  · have hwhole : Language.braced.Expands vars
        (double braces before ++ braced name ++ double braces after).toList
        (before ++ value ++ after).toList := by
      simp only [String.toList_append]
      exact ((hdouble before).append (expands_braced hname hfirst hvalue)).append (hdouble after)
    rw [expandBraced_eq, Language.expand_of_expands hwhole, String.ofList_toList]

/-- A name ends at the first closing brace, also where two stand together. -/
example : Language.braced.tokensFrom 0 "\x7b\x7b\x7ba\x7d\x7d".toList =
    [(0, .doubled '\x7b'), (2, .named [] ['a']), (5, .unmatched)] := by cbv

/-- A number in literal braces: the inner braces are those of its name. -/
theorem expandBraced_tokens_nested :
    '\x7d' ∉ "case_no".toList ∧ "case_no".toList.head? ≠ some '\x7b' ∧
      Variables.ofList [("case_no", "13")] "case_no" = some "13" ∧
      expandBraced "\x7b\x7b\x7bcase_no\x7d\x7d\x7d" (.ofList [("case_no", "13")]) =
        .ok "\x7b13\x7d" := by
  have hname : '\x7d' ∉ "case_no".toList := by decide
  have hfirst : "case_no".toList.head? ≠ some '\x7b' := by decide
  have hvalue : Variables.ofList [("case_no", "13")] "case_no" = some "13" := by decide
  refine ⟨hname, hfirst, hvalue, ?_⟩
  exact (expandBraced_tokens "" _).2.2.2 "\x7b" "case_no" "13" "\x7d" hname hfirst hvalue

end ContestJudge.Template
