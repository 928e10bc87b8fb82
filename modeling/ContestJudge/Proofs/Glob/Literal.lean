import ContestJudge.Glob.Walk
import ContestJudge.Proofs.Fallible
import ContestJudge.Proofs.Path.Within

/-!
# Texts without wildcards

Joining a directory to a pattern gives one text, and it is this text that is read. A directory whose
name holds none of the characters `?`, `*` and `[` is read as it is written: every character stands
for itself (`readTokens_append`), and the components of the text are the names of the directory
followed by the components of the pattern (`componentTexts_join`).

What is read after it is read as it would be alone (`toBool_readTokens`). Reading asks for the
character before it in one case only, where two stars must be a component of their own, and a slash
before them counts as nothing does. So whether a joined text is a pattern depends on what was joined
(`Pattern.toBool_parse_join`); where a fault is told to be does not agree, since positions count
from the beginning of the text.

A component has no slash in it, and then no character that it stands for is one
(`mem_of_literal_mem`): each literal token is a character that was read. This is what keeps a
component that is looked up from leading further than to an entry of its directory.
-/

namespace ContestJudge.Glob

open ContestJudge.Path (splitParts slashed)

/-- A text in which every character stands for itself. -/
def IsLiteral (cs : List Char) : Prop := ∀ c ∈ cs, c ≠ '?' ∧ c ≠ '*' ∧ c ≠ '['

instance (cs : List Char) : Decidable (IsLiteral cs) :=
  List.decidableBAll (fun c ↦ c ≠ '?' ∧ c ≠ '*' ∧ c ≠ '[') cs

variable {position : Nat} {before : Option Char} {seen tokens : List Token} {cs rest : List Char}
  {c : Char} {q : Pattern} {text : String}

/-! ### Reading them -/

theorem readTokens_cons (hc : c ≠ '?' ∧ c ≠ '*' ∧ c ≠ '[') :
    readTokens position before seen (c :: rest) =
      readTokens (position + 1) (some c) (.literal c :: seen) rest := by
  obtain ⟨hany, hstar, hopen⟩ := hc
  rw [readTokens]
  · exact hany
  · exact fun _ h _ ↦ hstar h
  · exact fun _ h _ ↦ hstar h
  · exact hstar
  · exact fun _ h _ ↦ hopen h
  · exact hopen

/-- **A text without wildcards is read character by character.** -/
theorem readTokens_append (h : IsLiteral cs) :
    readTokens position before seen (cs ++ rest) =
      readTokens (position + cs.length) (cs.getLast?.or before)
        ((cs.map .literal).reverse ++ seen) rest := by
  induction cs generalizing position before seen with
  | nil => rfl
  | cons c cs ih =>
    obtain ⟨hc, hcs⟩ := List.forall_mem_cons.1 h
    rw [List.cons_append, readTokens_cons hc, ih hcs, List.length_cons, List.map_cons,
      List.reverse_cons, List.append_assoc, List.getLast?_cons]
    have hlast : cs.getLast?.or (some c) = (some (cs.getLast?.getD c)).or before := by
      cases cs.getLast? <;> rfl
    rw [hlast, Nat.add_assoc, Nat.add_comm 1]
    rfl

/-! ### What does not depend on what was read before -/

section Classes

variable {inner after : List Char}

theorem readTokens_outside (h : splitClass rest = some (inner, after)) :
    readTokens position before seen ('[' :: '!' :: rest) =
      readTokens (position + inner.length + 3) (some ']')
        (.outside (classRanges inner) :: seen) after := by
  rw [readTokens]
  split
  next h' => cases h.symm.trans h'; rfl
  next h' => cases h.symm.trans h'

theorem readTokens_within (hrest : ∀ more, rest ≠ '!' :: more)
    (h : splitClass rest = some (inner, after)) :
    readTokens position before seen ('[' :: rest) =
      readTokens (position + inner.length + 2) (some ']')
        (.within (classRanges inner) :: seen) after := by
  rw [readTokens]
  · split
    next h' => cases h.symm.trans h'; rfl
    next h' => cases h.symm.trans h'
  · exact hrest

theorem readTokens_open_outside (h : splitClass rest = none) :
    readTokens position before seen ('[' :: '!' :: rest) = .error (.openClass position) := by
  rw [readTokens]
  split
  next h' => cases h.symm.trans h'
  next => rfl

theorem readTokens_open_within (hrest : ∀ more, rest ≠ '!' :: more) (h : splitClass rest = none) :
    readTokens position before seen ('[' :: rest) = .error (.openClass position) := by
  rw [readTokens]
  · split
    next h' => cases h.symm.trans h'
    next => rfl
  · exact hrest

end Classes

/-- Two stars are no component when something else is before them. -/
theorem readTokens_inside (hbefore : ¬(before = none ∨ before = some '/'))
    (hrest : ∀ more, rest ≠ '*' :: more) :
    readTokens position before seen ('*' :: '*' :: rest) =
      .error (.partialComponent (position - 1)) := by
  by_cases hnil : rest = []
  · subst hnil
    rw [readTokens, if_neg hbefore]
  by_cases hslash : ∃ more, rest = '/' :: more
  · obtain ⟨more, rfl⟩ := hslash
    rw [readTokens, if_neg hbefore]
  · rw [readTokens, if_neg hbefore]
    · exact hrest
    · exact hnil
    · exact fun more h ↦ hslash ⟨more, h⟩

/-- **What was read before** decides nothing but where a fault lies, and whether a component begins.
-/
theorem toBool_readTokens {position' : Nat} {before' : Option Char} {seen' : List Token}
    (h : (before = none ∨ before = some '/') ↔ (before' = none ∨ before' = some '/')) :
    (readTokens position before seen cs).toBool =
      (readTokens position' before' seen' cs).toBool := by
  -- only two stars ask for what is before them, and they ask just for what the two readings share
  induction position, before, seen, cs using readTokens.induct
    generalizing position' before' seen' with
  | case1 => rw [readTokens, readTokens]; rfl
  | case2 _ _ _ rest ih => rw [readTokens, readTokens]; exact ih Iff.rfl
  | case3 => rw [readTokens, readTokens]; rfl
  | case4 _ _ _ hstarts =>
    rw [readTokens, readTokens, if_pos hstarts, if_pos (h.1 hstarts)]
    rfl
  | case5 _ _ _ hstarts rest hrest ih =>
    rw [readTokens, readTokens, if_pos hstarts, if_pos (h.1 hstarts)]
    exact ih Iff.rfl
  | case6 _ _ _ rest hstars hstarts hnil hslash =>
    rw [readTokens.eq_6 _ _ _ _ hstars hnil hslash, readTokens.eq_6 _ _ _ _ hstars hnil hslash,
      if_pos hstarts, if_pos (h.1 hstarts)]
    rfl
  | case7 _ _ _ rest hstars hstarts =>
    rw [readTokens_inside hstarts hstars, readTokens_inside (mt h.2 hstarts) hstars]
    rfl
  | case8 _ _ _ rest hstars hstar ih =>
    rw [readTokens.eq_7 _ _ _ _ hstars hstar, readTokens.eq_7 _ _ _ _ hstars hstar]
    exact ih Iff.rfl
  | case9 _ _ _ rest inner after hclass _ ih =>
    rw [readTokens_outside hclass, readTokens_outside hclass]
    exact ih Iff.rfl
  | case10 _ _ _ rest hclass =>
    rw [readTokens_open_outside hclass, readTokens_open_outside hclass]
    rfl
  | case11 _ _ _ rest hrest inner after hclass _ ih =>
    rw [readTokens_within hrest hclass, readTokens_within hrest hclass]
    exact ih Iff.rfl
  | case12 _ _ _ rest hrest hclass =>
    rw [readTokens_open_within hrest hclass, readTokens_open_within hrest hclass]
    rfl
  | case13 _ _ _ c rest hany _ _ hstar _ hopen ih =>
    rw [readTokens_cons ⟨hany, hstar, hopen⟩, readTokens_cons ⟨hany, hstar, hopen⟩]
    exact ih Iff.rfl

/-! ### What a token stands for -/

theorem subset_of_splitClass {inner after : List Char} (h : splitClass cs = some (inner, after)) :
    after ⊆ cs := by
  cases cs with
  | nil => cases h
  | cons first rest =>
    rw [splitClass] at h
    split at h
    · cases h
    next close more hdrop =>
      obtain rfl : more = after := congrArg Prod.snd (Option.some.inj h)
      have hrest : close :: more ⊆ rest := hdrop ▸ (List.dropWhile_sublist _).subset
      exact fun c hc ↦ List.mem_cons_of_mem _ (hrest (List.mem_cons_of_mem _ hc))

theorem not_mem_pushComponents (h : .literal c ∉ seen) : .literal c ∉ pushComponents seen := by
  unfold pushComponents
  split
  · exact h
  · exact fun hmem ↦ h ((List.mem_cons.1 hmem).resolve_left nofun)

/-- **A character that a token stands for was read.** -/
theorem mem_of_literal_mem (h : readTokens position before seen cs = .ok tokens)
    (hc : .literal c ∈ tokens) (hseen : .literal c ∉ seen) : c ∈ cs := by
  -- A token that is no character is not the one in question.
  have hcons {token : Token} {seen : List Token} (htoken : .literal c ≠ token)
      (hseen : .literal c ∉ seen) : .literal c ∉ token :: seen :=
    fun hmem ↦ (List.mem_cons.1 hmem).elim htoken hseen
  induction position, before, seen, cs using readTokens.induct with
  | case1 =>
    rw [readTokens] at h
    obtain rfl := Except.ok.inj h
    exact absurd (List.mem_reverse.1 hc) hseen
  | case2 _ _ _ rest ih =>
    rw [readTokens] at h
    exact List.mem_cons_of_mem _ (ih h (hcons nofun hseen))
  | case3 => rw [readTokens] at h; exact nomatch h
  | case4 _ _ _ hstarts =>
    rw [readTokens, if_pos hstarts] at h
    obtain rfl := Except.ok.inj h
    exact absurd (List.mem_reverse.1 hc) (not_mem_pushComponents hseen)
  | case5 _ _ _ hstarts rest _ ih =>
    rw [readTokens, if_pos hstarts] at h
    have hrest : c ∈ rest := ih h (not_mem_pushComponents hseen)
    exact List.mem_append_right ['*', '*', '/'] hrest
  | case6 _ _ _ rest hstars hstarts hnil hslash =>
    rw [readTokens.eq_6 _ _ _ _ hstars hnil hslash, if_pos hstarts] at h
    exact nomatch h
  | case7 _ _ _ rest hstars hstarts =>
    rw [readTokens_inside hstarts hstars] at h
    exact nomatch h
  | case8 _ _ _ rest hstars hstar ih =>
    rw [readTokens.eq_7 _ _ _ _ hstars hstar] at h
    exact List.mem_cons_of_mem _ (ih h (hcons nofun hseen))
  | case9 _ _ _ rest inner after hclass _ ih =>
    rw [readTokens_outside hclass] at h
    have hafter : c ∈ after := ih h (hcons nofun hseen)
    exact List.mem_append_right ['[', '!'] (subset_of_splitClass hclass hafter)
  | case10 _ _ _ rest hclass => rw [readTokens_open_outside hclass] at h; exact nomatch h
  | case11 _ _ _ rest hrest inner after hclass _ ih =>
    rw [readTokens_within hrest hclass] at h
    have hafter : c ∈ after := ih h (hcons nofun hseen)
    exact List.mem_cons_of_mem _ (subset_of_splitClass hclass hafter)
  | case12 _ _ _ rest hrest hclass =>
    rw [readTokens_open_within hrest hclass] at h
    exact nomatch h
  | case13 _ _ _ d rest hany _ _ hstar _ hopen ih =>
    rw [readTokens_cons ⟨hany, hstar, hopen⟩] at h
    by_cases hd : c = d
    · exact hd ▸ List.mem_cons_self
    · have hne : Token.literal c ≠ .literal d := mt Token.literal.inj hd
      exact List.mem_cons_of_mem _ (ih h (hcons hne hseen))

theorem tokens_of_mapM {cs : List Char} (h : tokens.mapM Token.literal? = some cs) :
    tokens = cs.map .literal := by
  induction tokens generalizing cs with
  | nil =>
    obtain rfl := Option.some.inj h
    rfl
  | cons token rest ih =>
    rw [List.mapM_cons] at h
    obtain ⟨c, hc, h⟩ := Option.bind_eq_some_iff.1 h
    obtain ⟨cs', hcs', h⟩ := Option.bind_eq_some_iff.1 h
    obtain rfl := Option.some.inj h
    have htoken : token = .literal c := by
      cases token with
      | literal d => exact congrArg Token.literal (Option.some.inj hc)
      | _ => exact nomatch hc
    rw [List.map_cons, htoken, ih hcs']

namespace Pattern

theorem parse_eq_ok_iff :
    parse text = .ok q ↔ readTokens 0 none [] text.toList = .ok q.tokens ∧ q.text = text := by
  rw [parse, map_eq_ok_iff]
  constructor
  · rintro ⟨tokens, htokens, rfl⟩
    exact ⟨htokens, rfl⟩
  · rintro ⟨htokens, rfl⟩
    exact ⟨q.tokens, htokens, rfl⟩

/-- The pattern that a text without wildcards is. -/
def ofLiteral (text : String) : Pattern := ⟨text, text.toList.map .literal⟩

theorem parse_literal (h : IsLiteral text.toList) : parse text = .ok (ofLiteral text) := by
  refine parse_eq_ok_iff.2 ⟨?_, rfl⟩
  have hread : readTokens 0 none [] (text.toList ++ []) =
      readTokens (0 + text.toList.length) (text.toList.getLast?.or none)
        ((text.toList.map .literal).reverse ++ []) [] := readTokens_append h
  rw [List.append_nil, List.append_nil] at hread
  rw [hread, readTokens, List.reverse_reverse]
  rfl

theorem literal?_ofLiteral (text : String) : (ofLiteral text).literal? = some text := by
  have hmap (cs : List Char) : (cs.map Token.literal).mapM Token.literal? = some cs := by
    induction cs with
    | nil => rfl
    | cons c cs ih => rw [List.map_cons, List.mapM_cons, ih]; rfl
  rw [literal?, ofLiteral, hmap, Option.map_some, String.ofList_toList]

theorem tokens_of_literal? {literal : String} (h : q.literal? = some literal) :
    q.tokens = literal.toList.map .literal := by
  obtain ⟨cs, hcs, rfl⟩ := Option.map_eq_some_iff.1 h
  rw [String.toList_ofList]
  exact tokens_of_mapM hcs

theorem noSlash_of_literal? {literal : String} (h : parse text = .ok q)
    (htext : '/' ∉ text.toList) (hliteral : q.literal? = some literal) : '/' ∉ literal.toList := by
  intro hslash
  have hmem : .literal '/' ∈ q.tokens := by
    rw [tokens_of_literal? hliteral]
    exact List.mem_map_of_mem hslash
  exact htext (mem_of_literal_mem (parse_eq_ok_iff.1 h).1 hmem List.not_mem_nil)

/-- **Whether a joined text is a pattern** depends on what was joined alone. -/
theorem toBool_parse_join {joined : String} (hcs : IsLiteral cs)
    (hjoined : joined.toList = cs ++ '/' :: text.toList) :
    (parse joined).toBool = (parse text).toBool := by
  have hmap {x : Except PatternFault (List Token)} {text : String} :
      (x.map (Pattern.mk text)).toBool = x.toBool := by
    cases x <;> rfl
  have hslash : '/' ≠ '?' ∧ '/' ≠ '*' ∧ '/' ≠ '[' := by decide
  rw [parse, parse, hmap, hmap, hjoined, readTokens_append hcs, readTokens_cons hslash]
  exact toBool_readTokens (iff_of_true (.inr rfl) (.inl rfl))

end Pattern

/-! ### Components of a joined text -/

/-- The parts that count as components: an empty one at the end does not. -/
def trimParts (parts : List (List Char)) : List (List Char) :=
  if parts.getLast? = some [] then parts.dropLast else parts

theorem trimParts_append (parts : List (List Char)) {more : List (List Char)} (hmore : more ≠ []) :
    trimParts (parts ++ more) = parts ++ trimParts more := by
  rw [trimParts, List.getLast?_append_of_ne_nil _ hmore, List.dropLast_append_of_ne_nil hmore,
    trimParts]
  split <;> rfl

theorem trimParts_subset {parts : List (List Char)} : trimParts parts ⊆ parts := by
  rw [trimParts]
  split
  · exact List.dropLast_subset _
  · exact List.Subset.refl _

theorem componentTexts_eq (h : ¬(text = "" ∨ text = "/")) :
    componentTexts text =
      (trimParts (splitParts (if text.toList.head? = some '/' then text.toList.drop 1
        else text.toList))).map String.ofList := by
  rw [componentTexts, if_neg h]
  rfl

theorem componentTexts_of_relative (hroot : text.toList.head? ≠ some '/') (htext : text ≠ "") :
    componentTexts text = (trimParts (splitParts text.toList)).map String.ofList := by
  have hslash : text ≠ "/" := by
    rintro rfl
    exact hroot rfl
  rw [componentTexts_eq (not_or.2 ⟨htext, hslash⟩), if_neg hroot]

theorem componentTexts_ne_nil (hroot : text.toList.head? ≠ some '/') (htext : text ≠ "") :
    componentTexts text ≠ [] := by
  obtain ⟨c, cs, hcs⟩ := List.exists_cons_of_ne_nil (mt String.toList_eq_nil_iff.1 htext)
  obtain ⟨part, parts, hparts⟩ := List.exists_cons_of_ne_nil (Path.splitParts_ne_nil cs)
  have hc : c ≠ '/' := by
    rintro rfl
    rw [hcs] at hroot
    exact hroot rfl
  -- The first part has a character in it, so it stays even if it is the last one.
  have hfirst : splitParts text.toList = (c :: part) :: parts := by
    rw [hcs, splitParts, if_neg hc, hparts]
  rw [componentTexts_of_relative hroot htext, hfirst]
  cases parts with
  | nil => exact List.cons_ne_nil _ _
  | cons next rest =>
    rw [trimParts]
    split <;> exact List.cons_ne_nil _ _

/-- **The components of a joined text** are the names of the directory and then those of the
pattern. -/
theorem componentTexts_join {names : List String} {joined : String}
    (hnames : ∀ name ∈ names, '/' ∉ name.toList) (hne : names ≠ [] ∨ text ≠ "")
    (hjoined : joined.toList = slashed (names.map String.toList) ++ '/' :: text.toList) :
    componentTexts joined = names ++ (trimParts (splitParts text.toList)).map String.ofList := by
  -- Behind the first slash come the names, each with a slash after it, and then the pattern.
  have hbehind : ∃ cs, joined.toList = '/' :: cs ∧ cs ≠ [] ∧
      splitParts cs = names.map String.toList ++ splitParts text.toList := by
    cases names with
    | nil =>
      have htext : text.toList ≠ [] := mt String.toList_eq_nil_iff.1 (hne.resolve_left (· rfl))
      exact ⟨text.toList, hjoined, htext, rfl⟩
    | cons first rest =>
      refine ⟨first.toList ++ slashed (rest.map String.toList) ++ '/' :: text.toList, ?_, ?_, ?_⟩
      · rw [hjoined, List.map_cons, Path.slashed_cons]
        rfl
      · exact List.append_ne_nil_of_right_ne_nil _ (List.cons_ne_nil _ _)
      · obtain ⟨hfirst, hrest⟩ := List.forall_mem_cons.1 hnames
        rw [Path.splitParts_append_slash, Path.splitParts_slashed hfirst (by simpa using hrest)]
        rfl
  obtain ⟨cs, hcs, hne, hparts⟩ := hbehind
  have hjoined' : ¬(joined = "" ∨ joined = "/") := by
    rintro (rfl | rfl)
    · exact nomatch hcs
    · exact hne (List.cons.inj hcs).2.symm
  have hread : (names.map String.toList).map String.ofList = names := by
    rw [List.map_map]
    exact (List.map_congr_left fun _ _ ↦ String.ofList_toList).trans (List.map_id _)
  rw [componentTexts_eq hjoined', hcs, if_pos List.head?_cons, List.drop_one, List.tail_cons,
    hparts, trimParts_append _ (Path.splitParts_ne_nil _), List.map_append, hread]

/-- No component has a slash in it. -/
theorem noSlash_of_mem_componentTexts {component : String} (h : component ∈ componentTexts text) :
    '/' ∉ component.toList := by
  by_cases htext : text = "" ∨ text = "/"
  · rw [componentTexts, if_pos htext] at h
    obtain rfl := List.mem_singleton.1 h
    exact List.not_mem_nil
  · rw [componentTexts_eq htext] at h
    obtain ⟨part, hpart, rfl⟩ := List.mem_map.1 h
    rw [String.toList_ofList]
    exact Path.not_mem_of_mem_splitParts (trimParts_subset hpart)

end ContestJudge.Glob
