import ContestJudge.Proofs.ShellWords.Quoting

/-!
# The rules by which a line is read

Splitting is defined as a walk with seven states. Here it is said without them what the words of a
line are (`Reads`), as a shell's manual says it: words are separated by blanks, tabs and line ends;
a `#` where a word might begin starts a comment to the end of the line; and a word is made of parts,
each of which is a bare character, a character after a backslash, or a text in quotes (`Part`), with
the rules of double quotes for backslashes inside them (`Inside`).

* `splitFrom_eq_some_iff` — the walk finds exactly the words that the rules give, and none where
  they give none. One direction is that parts spell their words (`Parts.adds`), so it rests on what
  is known of words that are spelled (`Spells`). The other one is an induction on the line: whatever
  state the walk is in, what it finds is what the rules give for the rest of the line (`Explains`).
* `eq_split?_of_reads` — so the rules determine the function: what is shown of `split?` holds of
  every other implementation of them.

## What the rules leave out

They are the rules for words alone. A dollar sign, a star or a semicolon is a character like any
other, also in double quotes, where a backslash before some of them is taken away all the same.

A line that ends inside of quotes or right after a backslash has no words, not even those before:
there is no part that it could end in. So a line has no words for no other reason than this.

The rules do not say how a line is to be cut into words and parts, nor that this can be done in one
way only. That a line has one reading at the most follows from the walk, which is a function.
-/

namespace ContestJudge.ShellWords

/-! ### Rules -/

/-- What characters inside double quotes mean. -/
inductive Inside : List Char → List Char → Prop
  | nil : Inside [] []
  /-- Most characters stand for themselves. -/
  | plain {c : Char} {cs word : List Char} : c ≠ '"' → c ≠ '\\' → Inside cs word →
    Inside (c :: cs) (c :: word)
  /-- A few lose a backslash before them. -/
  | escaped {c : Char} {cs word : List Char} : isDoubleEscaped c = true → Inside cs word →
    Inside ('\\' :: c :: cs) (c :: word)
  /-- The end of a line is lost with the backslash before it. -/
  | continued {cs word : List Char} : Inside cs word → Inside ('\\' :: '\n' :: cs) word
  /-- Before all others a backslash stands for itself. -/
  | kept {c : Char} {cs word : List Char} : c ≠ '\n' → isDoubleEscaped c = false → Inside cs word →
    Inside ('\\' :: c :: cs) ('\\' :: c :: word)

/-- What a part of a word means. -/
inductive Part : List Char → List Char → Prop
  /-- A character that stands for itself. -/
  | bare {c : Char} : isSeparator c = false → c ≠ '"' → c ≠ '\x27' → c ≠ '\\' → Part [c] [c]
  /-- Any other character after a backslash. -/
  | escaped {c : Char} : c ≠ '\n' → Part ['\\', c] [c]
  /-- The end of a line is lost with the backslash before it. -/
  | continued : Part ['\\', '\n'] []
  /-- A text in single quotes. -/
  | single {cs : List Char} : '\x27' ∉ cs → Part ('\x27' :: (cs ++ ['\x27'])) cs
  /-- A text in double quotes. -/
  | double {cs word : List Char} : Inside cs word → Part ('"' :: (cs ++ ['"'])) word

/-- What parts mean, one after the other. -/
inductive Parts : List Char → List Char → Prop
  | nil : Parts [] []
  | cons {cs cs' word word' : List Char} : Part cs word → Parts cs' word' →
    Parts (cs ++ cs') (word ++ word')

/-- **The words of a line.** -/
inductive Reads : List Char → List (List Char) → Prop
  | nil : Reads [] []
  /-- Between words, separators mean nothing. -/
  | separator {c : Char} {cs : List Char} {words : List (List Char)} : isSeparator c = true →
    Reads cs words → Reads (c :: cs) words
  /-- A comment goes to the end of its line. -/
  | comment {cs rest : List Char} {words : List (List Char)} : '\n' ∉ cs → Reads rest words →
    Reads ('#' :: (cs ++ '\n' :: rest)) words
  /-- A comment in the last line. -/
  | lastComment {cs : List Char} : '\n' ∉ cs → Reads ('#' :: cs) []
  /-- A word goes to the next separator. -/
  | word {c : Char} {cs rest word : List Char} {words : List (List Char)} : cs ≠ [] →
    cs.head? ≠ some '#' → Parts cs word → isSeparator c = true → Reads rest words →
    Reads (cs ++ c :: rest) (word :: words)
  /-- The last word. -/
  | lastWord {cs word : List Char} : cs ≠ [] → cs.head? ≠ some '#' → Parts cs word → Reads cs [word]

variable {c : Char} {cs rest word begun : List Char} {words : List (List Char)}

/-! ### What the rules give is found -/

theorem Inside.adds (h : Inside cs word) (begun rest : List Char) :
    splitFrom .double begun (cs ++ '"' :: rest) = splitFrom .bare (word.reverse ++ begun) rest := by
  induction h generalizing begun with
  | nil => rfl
  | @plain c _ _ hquote hslash _ ih =>
    rw [List.cons_append, splitFrom, if_neg hquote, if_neg hslash, ih, List.reverse_cons,
      List.append_assoc, List.singleton_append]
  | @escaped c cs _ hescaped _ ih =>
    have hfeed : c ≠ '\n' := by
      rintro rfl
      exact absurd hescaped (by decide)
    show splitFrom .doubleEscape begun (c :: (cs ++ '"' :: rest)) = _
    rw [splitFrom, if_neg hfeed, if_pos hescaped, ih, List.reverse_cons, List.append_assoc,
      List.singleton_append]
  | continued _ ih => exact ih begun
  | @kept c cs _ hfeed hplain _ ih =>
    show splitFrom .doubleEscape begun (c :: (cs ++ '"' :: rest)) = _
    rw [splitFrom, if_neg hfeed, hplain, if_neg Bool.false_ne_true, ih, List.reverse_cons,
      List.reverse_cons, List.append_assoc, List.append_assoc]
    rfl

theorem Part.adds (h : Part cs word) (begun rest : List Char) :
    splitFrom .bare begun (cs ++ rest) = splitFrom .bare (word.reverse ++ begun) rest := by
  cases h with
  | bare hseparator hdouble hsingle hslash =>
    rw [List.singleton_append, splitFrom, hseparator, if_neg Bool.false_ne_true, if_neg hdouble,
      if_neg hsingle, if_neg hslash]
    rfl
  | @escaped c hfeed =>
    show splitFrom .escape begun (c :: rest) = _
    rw [splitFrom, if_neg hfeed]
    rfl
  | continued => rfl
  | single hquote =>
    rw [List.cons_append, List.append_assoc]
    exact splitFrom_single_append fun c hc ↦ ne_of_mem_of_not_mem hc hquote
  | double hinside =>
    rw [List.cons_append, List.append_assoc]
    exact hinside.adds begun rest

/-- **Parts add what they mean** to a word that was begun. -/
theorem Parts.adds (h : Parts cs word) (begun rest : List Char) :
    splitFrom .bare begun (cs ++ rest) = splitFrom .bare (word.reverse ++ begun) rest := by
  induction h generalizing begun with
  | nil => rfl
  | cons hpart _ ih =>
    rw [List.append_assoc, hpart.adds, ih, List.reverse_append, List.append_assoc]

theorem Part.exists_head (h : Part cs word) :
    ∃ first more, cs = first :: more ∧ isSeparator first = false := by
  cases h with
  | bare hseparator => exact ⟨_, _, rfl, hseparator⟩
  | escaped => exact ⟨_, _, rfl, by decide⟩
  | continued => exact ⟨_, _, rfl, by decide⟩
  | single => exact ⟨_, _, rfl, by decide⟩
  | double => exact ⟨_, _, rfl, by decide⟩

/-- Parts spell a word, unless they begin a comment. -/
theorem Parts.spells (h : Parts cs word) (hne : cs ≠ []) (hhead : cs.head? ≠ some '#') :
    Spells cs word where
  begins := by
    cases h with
    | nil => exact absurd rfl hne
    | cons hpart _ =>
      obtain ⟨first, more, rfl, hseparator⟩ := hpart.exists_head
      exact ⟨first, _, rfl, hseparator, fun hfirst ↦ hhead (congrArg some hfirst)⟩
  adds := h.adds

theorem splitFrom_comment_of_not_mem (h : '\n' ∉ cs) (rest : List Char) :
    splitFrom .comment [] (cs ++ rest) = splitFrom .comment [] rest := by
  induction cs with
  | nil => rfl
  | cons c cs ih =>
    obtain ⟨hc, hcs⟩ := not_or.1 (mt List.mem_cons.2 h)
    rw [List.cons_append, splitFrom, if_neg (Ne.symm hc), ih hcs]

theorem Reads.splitFrom_eq (h : Reads cs words) : splitFrom .between [] cs = some words := by
  induction h with
  | nil => rfl
  | separator hseparator _ ih => rw [splitFrom, if_pos hseparator, ih]
  | comment htext _ ih =>
    show splitFrom .comment [] (_ ++ '\n' :: _) = _
    rw [splitFrom_comment_of_not_mem htext]
    exact ih
  | @lastComment cs htext =>
    have hend := splitFrom_comment_of_not_mem htext []
    rw [List.append_nil] at hend
    exact hend
  | word hne hhead hparts hseparator _ ih =>
    rw [(hparts.spells hne hhead).splitFrom_between, splitFrom, if_pos hseparator, ih,
      List.reverse_reverse]
    rfl
  | @lastWord cs word hne hhead hparts =>
    have hend := (hparts.spells hne hhead).splitFrom_between []
    rw [List.append_nil] at hend
    rw [hend, splitFrom, List.reverse_reverse]

/-! ### What is found is what the rules give -/

/-- The rules for the rest of a word that was begun, and of its line. -/
def ReadsRest (begun cs : List Char) (words : List (List Char)) : Prop :=
  ∃ part more, Parts part more ∧
    (cs = part ∧ words = [begun.reverse ++ more] ∨
      ∃ c rest others, isSeparator c = true ∧ Reads rest others ∧ cs = part ++ c :: rest ∧
        words = (begun.reverse ++ more) :: others)

/-- A part in front is read with the rest. -/
theorem ReadsRest.cons {part more : List Char} (hpart : Part part more)
    (h : ReadsRest (more.reverse ++ begun) cs words) : ReadsRest begun (part ++ cs) words := by
  have hword (end_ : List Char) : (more.reverse ++ begun).reverse ++ end_ =
      begun.reverse ++ (more ++ end_) := by
    rw [List.reverse_append, List.reverse_reverse, List.append_assoc]
  obtain ⟨parts, end_, hparts, ⟨rfl, rfl⟩ | ⟨c, rest, others, hc, hrest, rfl, rfl⟩⟩ := h
  · exact ⟨_, _, .cons hpart hparts, .inl ⟨rfl, by rw [hword]⟩⟩
  · refine ⟨_, _, .cons hpart hparts, .inr ⟨c, rest, others, hc, hrest, ?_, by rw [hword]⟩⟩
    rw [List.append_assoc]

/-- What could be the rest of a word is a word, where one can begin. -/
theorem ReadsRest.reads (h : ReadsRest [] (c :: cs) words) (hseparator : isSeparator c = false)
    (hmark : c ≠ '#') : Reads (c :: cs) words := by
  have hhead : (c :: cs).head? ≠ some '#' := fun heq ↦ hmark (Option.some.inj heq)
  obtain ⟨part, word, hparts, ⟨rfl, rfl⟩ | ⟨c', rest, others, hc', hrest, hcs, rfl⟩⟩ := h
  · exact .lastWord (List.cons_ne_nil c cs) hhead hparts
  · rcases part with - | ⟨first, part⟩
    · obtain ⟨rfl, -⟩ := List.cons.inj hcs
      cases hc'.symm.trans hseparator
    · obtain ⟨rfl, -⟩ := List.cons.inj hcs
      rw [hcs]
      exact .word (List.cons_ne_nil c part) hhead hparts hc' hrest

/-- What the rules give for the rest of a line, in each state of the walk. -/
def Explains : State → (begun cs : List Char) → List (List Char) → Prop
  | .between, _, cs, words => Reads cs words
  | .comment, _, cs, words => '\n' ∉ cs ∧ words = [] ∨
    ∃ text rest, '\n' ∉ text ∧ cs = text ++ '\n' :: rest ∧ Reads rest words
  | .bare, begun, cs, words => ReadsRest begun cs words
  | .escape, begun, cs, words => ReadsRest begun ('\\' :: cs) words
  | .single, begun, cs, words => ∃ text rest, '\x27' ∉ text ∧ cs = text ++ '\x27' :: rest ∧
    ReadsRest (text.reverse ++ begun) rest words
  | .double, begun, cs, words => ∃ text word rest, Inside text word ∧ cs = text ++ '"' :: rest ∧
    ReadsRest (word.reverse ++ begun) rest words
  | .doubleEscape, begun, cs, words => ∃ text word rest, Inside text word ∧
    '\\' :: cs = text ++ '"' :: rest ∧ ReadsRest (word.reverse ++ begun) rest words

/-- All that the walk finds in some characters is explained. -/
def Explained (cs : List Char) : Prop :=
  ∀ {st begun words}, splitFrom st begun cs = some words → Explains st begun cs words

namespace Explained

theorem bare (h : Explained rest) (hwords : splitFrom .bare begun (c :: rest) = some words) :
    ReadsRest begun (c :: rest) words := by
  rw [splitFrom] at hwords
  split at hwords
  next hseparator =>
    obtain ⟨others, hothers, rfl⟩ := Option.map_eq_some_iff.1 hwords
    exact ⟨[], [], .nil, .inr ⟨c, rest, others, hseparator, h hothers, rfl,
      by rw [List.append_nil]⟩⟩
  next hseparator =>
  split at hwords
  next hquote =>
    obtain ⟨text, word, rest', hinside, rfl, hrest⟩ := h hwords
    rw [hquote]
    simpa using hrest.cons (.double hinside)
  next hdouble =>
  split at hwords
  next hquote =>
    obtain ⟨text, rest', htext, rfl, hrest⟩ := h hwords
    rw [hquote]
    simpa using hrest.cons (.single htext)
  next hsingle =>
  split at hwords
  next hslash =>
    rw [hslash]
    exact h hwords
  next hslash =>
    have hpart : Part [c] [c] := .bare (Bool.eq_false_iff.2 hseparator) hdouble hsingle hslash
    have hrest : ReadsRest (c :: begun) rest words := h hwords
    exact hrest.cons hpart

/-- Where a word may begin, the walk goes on as in a word, unless none does. -/
theorem between (h : Explained rest) (hwords : splitFrom .between begun (c :: rest) = some words) :
    Reads (c :: rest) words := by
  by_cases hseparator : isSeparator c = true
  · rw [splitFrom, if_pos hseparator] at hwords
    exact .separator hseparator (h hwords)
  by_cases hmark : c = '#'
  · rw [splitFrom, if_neg hseparator, if_pos hmark] at hwords
    subst hmark
    rcases h hwords with ⟨htext, rfl⟩ | ⟨text, rest', htext, rfl, hrest⟩
    · exact .lastComment htext
    · exact .comment htext hrest
  · have hbare : splitFrom .bare [] (c :: rest) = some words := by
      rw [← hwords, splitFrom, splitFrom, if_neg hseparator, if_neg hseparator, if_neg hmark]
    exact (h.bare hbare).reads (Bool.eq_false_iff.2 hseparator) hmark

theorem comment (h : Explained rest) (hwords : splitFrom .comment begun (c :: rest) = some words) :
    Explains .comment begun (c :: rest) words := by
  rw [splitFrom] at hwords
  split at hwords
  next hfeed => exact .inr ⟨[], rest, List.not_mem_nil, by rw [hfeed]; rfl, h hwords⟩
  next hfeed =>
    rcases h hwords with ⟨htext, rfl⟩ | ⟨text, rest', htext, rfl, hrest⟩
    · exact .inl ⟨List.not_mem_cons_of_ne_of_not_mem (Ne.symm hfeed) htext, rfl⟩
    · exact .inr ⟨c :: text, rest', List.not_mem_cons_of_ne_of_not_mem (Ne.symm hfeed) htext, rfl,
        hrest⟩

theorem escape (h : Explained rest) (hwords : splitFrom .escape begun (c :: rest) = some words) :
    ReadsRest begun ('\\' :: c :: rest) words := by
  rw [splitFrom] at hwords
  split at hwords
  next hfeed =>
    have hrest : ReadsRest begun rest words := h hwords
    rw [hfeed]
    exact hrest.cons .continued
  next hfeed =>
    have hrest : ReadsRest (c :: begun) rest words := h hwords
    exact hrest.cons (.escaped hfeed)

theorem single (h : Explained rest) (hwords : splitFrom .single begun (c :: rest) = some words) :
    Explains .single begun (c :: rest) words := by
  rw [splitFrom] at hwords
  split at hwords
  next hquote => exact ⟨[], rest, List.not_mem_nil, by rw [hquote]; rfl, h hwords⟩
  next hquote =>
    obtain ⟨text, rest', htext, rfl, hrest⟩ := h hwords
    exact ⟨c :: text, rest', List.not_mem_cons_of_ne_of_not_mem (Ne.symm hquote) htext, rfl,
      by simpa using hrest⟩

theorem double (h : Explained rest) (hwords : splitFrom .double begun (c :: rest) = some words) :
    Explains .double begun (c :: rest) words := by
  rw [splitFrom] at hwords
  split at hwords
  next hquote => exact ⟨[], [], rest, .nil, by rw [hquote]; rfl, h hwords⟩
  next hquote =>
  split at hwords
  next hslash =>
    rw [hslash]
    exact h hwords
  next hslash =>
    obtain ⟨text, word, rest', hinside, rfl, hrest⟩ := h hwords
    exact ⟨c :: text, c :: word, rest', .plain hquote hslash hinside, rfl, by simpa using hrest⟩

theorem doubleEscape (h : Explained rest)
    (hwords : splitFrom .doubleEscape begun (c :: rest) = some words) :
    Explains .doubleEscape begun (c :: rest) words := by
  rw [splitFrom] at hwords
  split at hwords
  next hfeed =>
    obtain ⟨text, word, rest', hinside, rfl, hrest⟩ := h hwords
    rw [hfeed]
    exact ⟨_, word, rest', .continued hinside, rfl, hrest⟩
  next hfeed =>
  split at hwords
  next hescaped =>
    obtain ⟨text, word, rest', hinside, rfl, hrest⟩ := h hwords
    exact ⟨_, c :: word, rest', .escaped hescaped hinside, rfl, by simpa using hrest⟩
  next hescaped =>
    obtain ⟨text, word, rest', hinside, rfl, hrest⟩ := h hwords
    exact ⟨_, '\\' :: c :: word, rest', .kept hfeed (Bool.eq_false_iff.2 hescaped) hinside, rfl,
      by simpa using hrest⟩

end Explained

/-- **What the walk finds is explained**, in whatever state it is. -/
theorem explained (cs : List Char) : Explained cs := by
  induction cs with
  | nil =>
    intro st begun words hwords
    cases st with
    | between =>
      cases hwords
      exact .nil
    | comment =>
      cases hwords
      exact .inl ⟨List.not_mem_nil, rfl⟩
    | bare =>
      cases hwords
      exact ⟨[], [], .nil, .inl ⟨rfl, by rw [List.append_nil]⟩⟩
    | escape => cases hwords
    | single => cases hwords
    | double => cases hwords
    | doubleEscape => cases hwords
  | cons c rest ih =>
    intro st begun words hwords
    cases st with
    | between => exact ih.between hwords
    | comment => exact ih.comment hwords
    | bare => exact ih.bare hwords
    | escape => exact ih.escape hwords
    | single => exact ih.single hwords
    | double => exact ih.double hwords
    | doubleEscape => exact ih.doubleEscape hwords

/-! ### Both together -/

/-- **Splitting follows the rules.** -/
theorem splitFrom_eq_some_iff : splitFrom .between [] cs = some words ↔ Reads cs words :=
  ⟨fun h ↦ explained cs h, Reads.splitFrom_eq⟩

theorem split?_eq_some_iff {line : String} {words : List String} :
    split? line = some words ↔ Reads line.toList (words.map String.toList) := by
  rw [← splitFrom_eq_some_iff, split?, Option.map_eq_some_iff]
  constructor
  · rintro ⟨words, hwords, rfl⟩
    rw [hwords, List.map_map]
    exact congrArg some ((List.map_id words).symm.trans
      (List.map_congr_left fun _ _ ↦ String.toList_ofList.symm))
  · intro h
    refine ⟨_, h, ?_⟩
    rw [List.map_map]
    exact (List.map_congr_left fun _ _ ↦ String.ofList_toList).trans (List.map_id words)

/-- **The rules determine the function.** -/
theorem eq_split?_of_reads {split : String → Option (List String)}
    (h : ∀ line words, split line = some words ↔ Reads line.toList (words.map String.toList)) :
    split = split? := by
  funext line
  exact Option.ext fun words ↦ (h line words).trans split?_eq_some_iff.symm

end ContestJudge.ShellWords
