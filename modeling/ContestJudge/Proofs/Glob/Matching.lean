import ContestJudge.Glob.Pattern
import Mathlib.Data.List.Infix

/-!
# The rules by which a text matches

Matching is defined by the set of places of a text that a pattern has reached so far, as a list of
Booleans that every token carries on. The rules say the same without places (`Matches`): a token
takes a text to what is left of it (`Leads`), a pattern takes it through its tokens, and it matches
when nothing is left.

* `marked_advance_iff` — one token: the places that are reached next are those to which the token
  leads from a place reached before. For `*` and `**`, which run through the text once for all the
  places, it rests on what each remembers of the places behind it (`marked_spreadText_iff`,
  `marked_spreadComponents_iff`).
* `matchTokens_iff` — all tokens: a text matches just if the rules say so. This is the step lemma,
  carried through the tokens from the places reached so far to the end (`foldl_advance_iff`).

A place is told by the text that is left there (`Marked`), and not by its number. So the rules and
the places speak of the same texts, and no arithmetic comes between them. There is one place more
than there are characters (`Covers`), which every token keeps.

A component that `**` takes goes up to a slash, or is all that is left. The text need not be at the
beginning of a component when `**` comes to stand there: that a pattern writes it only between
slashes is seen to when the pattern is read.
-/

namespace ContestJudge.Glob

variable {c : Char} {cs rest text : List Char} {reached : List Bool} {token : Token}
  {tokens : List Token}

/-! ### Rules -/

/-- What a token may leave of a text. -/
inductive Leads : Token → List Char → List Char → Prop
  /-- A token for one character takes one that it stands for. -/
  | char {token : Token} {c : Char} {rest : List Char} : token.matchesChar c = true →
    Leads token (c :: rest) rest
  /-- Any text may be taken. -/
  | text {cs rest : List Char} : rest <:+ cs → Leads .anyText cs rest
  /-- No component needs to be taken. -/
  | noComponents {cs : List Char} : Leads .anyComponents cs cs
  /-- Components are taken with the slash after them. -/
  | components {cs rest : List Char} : '/' :: rest <:+ cs → Leads .anyComponents cs rest
  /-- The last component has no slash after it. -/
  | allComponents {cs : List Char} : Leads .anyComponents cs []

/-- **The texts that match some tokens.** -/
inductive Matches : List Token → List Char → Prop
  | nil : Matches [] []
  | cons {token : Token} {tokens : List Token} {cs rest : List Char} : Leads token cs rest →
    Matches tokens rest → Matches (token :: tokens) cs

/-! ### Places -/

/-- The place before `rest` is marked among the places of a text. -/
inductive Marked : (cs : List Char) → (places : List Bool) → (rest : List Char) → Prop
  | here {cs : List Char} {later : List Bool} : Marked cs (true :: later) cs
  | later {c : Char} {cs rest : List Char} {here : Bool} {later : List Bool} :
    Marked cs later rest → Marked (c :: cs) (here :: later) rest

theorem exists_marked_nil_iff {here : Bool} {P : List Char → Prop} :
    (∃ cs, Marked [] [here] cs ∧ P cs) ↔ here = true ∧ P [] := by
  constructor
  · rintro ⟨cs, hmarked, hcs⟩
    cases hmarked with
    | here => exact ⟨rfl, hcs⟩
  · rintro ⟨rfl, hnil⟩
    exact ⟨[], .here, hnil⟩

theorem exists_marked_cons_iff {here : Bool} {later : List Bool} {P : List Char → Prop} :
    (∃ cs', Marked (c :: cs) (here :: later) cs' ∧ P cs') ↔
      here = true ∧ P (c :: cs) ∨ ∃ cs', Marked cs later cs' ∧ P cs' := by
  constructor
  · rintro ⟨cs', hmarked, hcs'⟩
    cases hmarked with
    | here => exact .inl ⟨rfl, hcs'⟩
    | later hmarked => exact .inr ⟨cs', hmarked, hcs'⟩
  · rintro (⟨rfl, hcs⟩ | ⟨cs', hmarked, hcs'⟩)
    · exact ⟨c :: cs, .here, hcs⟩
    · exact ⟨cs', .later hmarked, hcs'⟩

theorem marked_nil_iff {here : Bool} : Marked [] [here] rest ↔ here = true ∧ rest = [] := by
  have hcs : (∃ cs, Marked [] [here] cs ∧ rest = cs) ↔ here = true ∧ rest = [] :=
    exists_marked_nil_iff
  rwa [exists_eq_right'] at hcs

theorem marked_cons_iff {here : Bool} {later : List Bool} :
    Marked (c :: cs) (here :: later) rest ↔
      here = true ∧ rest = c :: cs ∨ Marked cs later rest := by
  have hcs : (∃ cs', Marked (c :: cs) (here :: later) cs' ∧ rest = cs') ↔
      here = true ∧ rest = c :: cs ∨ ∃ cs', Marked cs later cs' ∧ rest = cs' :=
    exists_marked_cons_iff
  rwa [exists_eq_right', exists_eq_right'] at hcs

/-- A list of Booleans that has one for each place of a text. -/
def Covers (reached : List Bool) (cs : List Char) : Prop := reached.length = cs.length + 1

theorem Covers.exists_cons (h : Covers reached (c :: cs)) :
    ∃ here later, reached = here :: later ∧ Covers later cs := by
  obtain ⟨here, later, rfl⟩ := List.exists_cons_of_length_eq_add_one h
  exact ⟨here, later, rfl, Nat.succ.inj h⟩

theorem Covers.exists_singleton (h : Covers reached []) : ∃ here, reached = [here] :=
  List.length_eq_one_iff.1 h

/-- At the beginning, only the first place is marked. -/
theorem marked_start_iff : Marked text (true :: text.map fun _ ↦ false) rest ↔ rest = text := by
  have hmem {cs : List Char} {places : List Bool} (h : Marked cs places rest) : true ∈ places := by
    induction h with
    | here => exact List.mem_cons_self
    | later _ ih => exact List.mem_cons_of_mem _ ih
  constructor
  · intro h
    cases h with
    | here => rfl
    | later h => simpa using hmem h
  · rintro rfl
    exact .here

/-- The last place is marked just if nothing may be left. -/
theorem marked_last_iff (h : Covers reached text) :
    reached.getLast?.getD false = true ↔ Marked text reached [] := by
  induction text generalizing reached with
  | nil =>
    obtain ⟨here, rfl⟩ := h.exists_singleton
    exact (marked_nil_iff.trans (and_iff_left rfl)).symm
  | cons c cs ih =>
    obtain ⟨here, later, rfl, hlater⟩ := h.exists_cons
    obtain ⟨next, more, rfl⟩ := List.exists_cons_of_length_eq_add_one hlater
    rw [List.getLast?_cons_cons, ih hlater, marked_cons_iff]
    exact (or_iff_right fun hc ↦ by cases hc.2).symm

/-! ### One token -/

theorem leads_anyText_iff : Leads .anyText cs rest ↔ rest <:+ cs := by
  constructor
  · intro h
    cases h with
    | char h => cases h
    | text h => exact h
  · exact .text

theorem leads_anyComponents_iff :
    Leads .anyComponents cs rest ↔ rest = cs ∨ '/' :: rest <:+ cs ∨ rest = [] := by
  constructor
  · intro h
    cases h with
    | char h => cases h
    | noComponents => exact .inl rfl
    | components h => exact .inr (.inl h)
    | allComponents => exact .inr (.inr rfl)
  · rintro (rfl | h | rfl)
    · exact .noComponents
    · exact .components h
    · exact .allComponents

/-- A character is left out behind the marked places; `first` says whether the beginning counts. -/
theorem marked_chars_iff {first : Bool} (h : Covers reached text) :
    Marked text (first :: (reached.zip text).map fun (here, c) ↦ here && token.matchesChar c) rest ↔
      first = true ∧ rest = text ∨
        ∃ cs, Marked text reached cs ∧ ∃ c, token.matchesChar c = true ∧ cs = c :: rest := by
  induction text generalizing first reached with
  | nil =>
    obtain ⟨here, rfl⟩ := h.exists_singleton
    rw [exists_marked_nil_iff, List.zip_nil_right, List.map_nil, marked_nil_iff]
    simp
  | cons c cs ih =>
    obtain ⟨here, later, rfl, hlater⟩ := h.exists_cons
    rw [exists_marked_cons_iff, List.zip_cons_cons, List.map_cons, marked_cons_iff, ih hlater]
    grind

/-- What any text leaves of the marked places, if `begun` of one before them too. -/
theorem marked_spreadText_iff {begun : Bool} (h : Covers reached text) :
    Marked text (spreadText begun reached) rest ↔
      begun = true ∧ rest <:+ text ∨ ∃ cs, Marked text reached cs ∧ rest <:+ cs := by
  induction text generalizing begun reached with
  | nil =>
    obtain ⟨here, rfl⟩ := h.exists_singleton
    rw [exists_marked_nil_iff, spreadText, spreadText, marked_nil_iff, List.suffix_nil,
      Bool.or_eq_true, or_and_right]
  | cons c cs ih =>
    obtain ⟨here, later, rfl, hlater⟩ := h.exists_cons
    rw [exists_marked_cons_iff, spreadText, marked_cons_iff, ih hlater, List.suffix_cons_iff,
      Bool.or_eq_true]
    grind

/-- What any components leave of the marked places, if `begun` of one before them too. -/
theorem marked_spreadComponents_iff {begun slash : Bool} (h : Covers reached text) :
    Marked text (spreadComponents begun slash text reached) rest ↔
      begun = true ∧ (slash = true ∧ rest = text ∨ '/' :: rest <:+ text ∨ rest = []) ∨
        ∃ cs, Marked text reached cs ∧ Leads .anyComponents cs rest := by
  induction text generalizing begun slash reached with
  | nil =>
    obtain ⟨here, rfl⟩ := h.exists_singleton
    rw [exists_marked_nil_iff, spreadComponents, marked_nil_iff, leads_anyComponents_iff,
      List.suffix_nil, Bool.or_eq_true]
    grind
  | cons c cs ih =>
    obtain ⟨here, later, rfl, hlater⟩ := h.exists_cons
    have hslash : '/' :: rest = c :: cs ↔ c = '/' ∧ rest = cs := by
      rw [List.cons.injEq, eq_comm]
    rw [exists_marked_cons_iff, spreadComponents, marked_cons_iff, ih hlater,
      leads_anyComponents_iff, List.suffix_cons_iff, hslash, Bool.or_eq_true, Bool.or_eq_true,
      Bool.and_eq_true, decide_eq_true_iff]
    grind

/-- A token leaves what a character leaves, or it is one of the two that take any number. -/
theorem leads_iff_of_ne (htext : token ≠ .anyText) (hcomponents : token ≠ .anyComponents) :
    Leads token cs rest ↔ ∃ c, token.matchesChar c = true ∧ cs = c :: rest := by
  constructor
  · intro h
    cases h with
    | char h => exact ⟨_, h, rfl⟩
    | text => exact absurd rfl htext
    | noComponents => exact absurd rfl hcomponents
    | components => exact absurd rfl hcomponents
    | allComponents => exact absurd rfl hcomponents
  · rintro ⟨c, h, rfl⟩
    exact .char h

theorem advance_eq_of_ne (htext : token ≠ .anyText) (hcomponents : token ≠ .anyComponents) :
    token.advance text reached =
      false :: (reached.zip text).map fun (here, c) ↦ here && token.matchesChar c := by
  cases token with
  | anyText => exact absurd rfl htext
  | anyComponents => exact absurd rfl hcomponents
  | literal | anyChar | within | outside => rfl

/-- **One token** reaches the places to which it leads from those reached before. -/
theorem marked_advance_iff (h : Covers reached text) :
    Marked text (token.advance text reached) rest ↔
      ∃ cs, Marked text reached cs ∧ Leads token cs rest := by
  by_cases htext : token = .anyText
  · subst htext
    simp only [Token.advance, marked_spreadText_iff h, leads_anyText_iff, Bool.false_eq_true,
      false_and, false_or]
  by_cases hcomponents : token = .anyComponents
  · subst hcomponents
    simp only [Token.advance, marked_spreadComponents_iff h, Bool.false_eq_true, false_and,
      false_or]
  · simp only [advance_eq_of_ne htext hcomponents, marked_chars_iff h,
      leads_iff_of_ne htext hcomponents, Bool.false_eq_true, false_and, false_or]

theorem length_spreadText (begun : Bool) : (spreadText begun reached).length = reached.length := by
  induction reached generalizing begun with
  | nil => rfl
  | cons here later ih => rw [spreadText, List.length_cons, List.length_cons, ih]

theorem Covers.spreadComponents (h : Covers reached text) (begun slash : Bool) :
    Covers (spreadComponents begun slash text reached) text := by
  induction text generalizing begun slash reached with
  | nil =>
    obtain ⟨here, rfl⟩ := h.exists_singleton
    rfl
  | cons c cs ih =>
    obtain ⟨here, later, rfl, hlater⟩ := h.exists_cons
    exact congrArg (· + 1) (ih hlater (begun || here) (c = '/'))

theorem Covers.advance (h : Covers reached text) (token : Token) :
    Covers (token.advance text reached) text := by
  by_cases htext : token = .anyText
  · subst htext
    exact (length_spreadText false).trans h
  by_cases hcomponents : token = .anyComponents
  · subst hcomponents
    exact h.spreadComponents false false
  · have hlength : reached.length = text.length + 1 := h
    rw [advance_eq_of_ne htext hcomponents, Covers, List.length_cons, List.length_map,
      List.length_zip, hlength, Nat.min_eq_right (Nat.le_succ _)]

/-! ### All tokens -/

theorem matches_nil_iff : Matches [] cs ↔ cs = [] := by
  constructor
  · intro h
    cases h with
    | nil => rfl
  · rintro rfl
    exact .nil

theorem matches_cons_iff :
    Matches (token :: tokens) cs ↔ ∃ rest, Leads token cs rest ∧ Matches tokens rest := by
  constructor
  · intro h
    cases h with
    | cons hlead hrest => exact ⟨_, hlead, hrest⟩
  · rintro ⟨rest, hlead, hrest⟩
    exact .cons hlead hrest

/-- From the marked places, the tokens reach the end just if one of the texts left there matches. -/
theorem foldl_advance_iff (h : Covers reached text) :
    (tokens.foldl (Token.advance text) reached).getLast?.getD false = true ↔
      ∃ cs, Marked text reached cs ∧ Matches tokens cs := by
  induction tokens generalizing reached with
  | nil => simp only [List.foldl_nil, marked_last_iff h, matches_nil_iff, exists_eq_right]
  | cons token tokens ih =>
    simp only [List.foldl_cons, ih (h.advance token), marked_advance_iff h, matches_cons_iff]
    constructor
    · rintro ⟨rest, ⟨cs, hcs, hlead⟩, hrest⟩
      exact ⟨cs, hcs, rest, hlead, hrest⟩
    · rintro ⟨cs, hcs, rest, hlead, hrest⟩
      exact ⟨rest, ⟨cs, hcs, hlead⟩, hrest⟩

/-- **A text matches just if the rules say so.** -/
theorem matchTokens_iff : matchTokens tokens text = true ↔ Matches tokens text := by
  have hcovers : Covers (true :: text.map fun _ ↦ false) text :=
    congrArg (· + 1) (List.length_map _)
  rw [matchTokens, foldl_advance_iff hcovers]
  simp only [marked_start_iff, exists_eq_left]

end ContestJudge.Glob
