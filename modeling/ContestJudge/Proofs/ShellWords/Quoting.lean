import ContestJudge.Proofs.ShellWords.Reading
import ContestJudge.ShellWords.Quote
import Mathlib.Data.List.Forall2

/-!
# Quoted texts are read back

A text that is written as one word of a line is read back as it was, next to whatever else stands in
the line. What makes this go through any number of chunks is that each of them spells its part of
the word (`Spells`): it begins like a word does, and where a word has begun it adds just that part.

* `spells_writeChunk` — a chunk spells its characters, in each of the ways in which it may be
  written. Which ways these are is kept while a chunk grows (`Ways.Allows`): every character of it
  allows them.
* `spells_quoteFrom` — so however a text is cut into chunks, they spell it. The induction is on the
  rest of the text, and the chunk that was begun is carried along in reverse.
* `split?_intercalate` — words that are spelled and stand one blank apart are the words of the line.

In double quotes some characters get a backslash, and a backslash is read there only before those
that got one (`splitFrom_double_append`). In single quotes nothing is read at all, so a chunk in
them must not hold one. Which of the ways that all characters of a chunk allow is taken does not
matter to the reader.
-/

namespace ContestJudge.ShellWords

variable {ways : Ways} {chunk word cs more rest : List Char} {text quoted : String}

/-! ### Characters that spell a word -/

/-- Characters that add a word, or a part of one. -/
structure Spells (cs word : List Char) : Prop where
  /-- They begin neither with a blank nor with a comment. -/
  begins : ∃ first more, cs = first :: more ∧ isSeparator first = false ∧ first ≠ '#'
  adds : ∀ begun rest, splitFrom .bare begun (cs ++ rest) =
    splitFrom .bare (word.reverse ++ begun) rest

namespace Spells

theorem append {cs' word' : List Char} (h : Spells cs word) (h' : Spells cs' word') :
    Spells (cs ++ cs') (word ++ word') where
  begins := by
    obtain ⟨first, more, rfl, hfirst⟩ := h.begins
    exact ⟨first, more ++ cs', rfl, hfirst⟩
  adds begun rest := by
    rw [List.append_assoc, h.adds, h'.adds, List.reverse_append, List.append_assoc]

/-- Between words, what spells a word begins one. -/
theorem splitFrom_between (h : Spells cs word) (rest : List Char) :
    splitFrom .between [] (cs ++ rest) = splitFrom .bare word.reverse rest := by
  obtain ⟨first, more, rfl, hseparator, hmark⟩ := h.begins
  have hbare := h.adds [] rest
  rw [List.append_nil] at hbare
  rw [← hbare, List.cons_append, splitFrom, splitFrom, hseparator, if_neg Bool.false_ne_true,
    if_neg Bool.false_ne_true, if_neg hmark]

end Spells

theorem spells_of_isOrdinary (hne : cs ≠ []) (hcs : ∀ c ∈ cs, IsOrdinary c) : Spells cs cs where
  begins := by
    obtain ⟨first, more, rfl⟩ := List.exists_cons_of_ne_nil hne
    have hfirst : IsOrdinary first := hcs first List.mem_cons_self
    exact ⟨first, more, rfl, hfirst.not_isSeparator, hfirst.ne (by decide)⟩
  adds _ _ := splitFrom_append_of_keep rfl rfl hcs

/-- **Spelled words are the words of a line** in which they stand one blank apart. -/
theorem splitFrom_intercalate {css words : List (List Char)} (h : List.Forall₂ Spells css words) :
    splitFrom .between [] ([' '].intercalate css) = some words := by
  induction h with
  | nil => rfl
  | @cons cs word css words hfirst hrest ih =>
    cases hrest with
    | nil =>
      have hend := hfirst.splitFrom_between []
      rw [List.append_nil] at hend
      rw [List.intercalate_singleton, hend, splitFrom, List.reverse_reverse]
    | cons =>
      rw [List.intercalate_cons_cons, List.append_assoc, hfirst.splitFrom_between,
        List.singleton_append]
      show (splitFrom .between [] _).map (word.reverse.reverse :: ·) = _
      rw [ih, List.reverse_reverse]
      rfl

theorem split?_intercalate {quotes texts : List String}
    (h : List.Forall₂ (fun q t ↦ Spells q.toList t.toList) quotes texts) :
    split? (" ".intercalate quotes) = some texts := by
  have hread : (texts.map String.toList).map String.ofList = texts := by
    rw [List.map_map]
    exact (List.map_congr_left fun _ _ ↦ String.ofList_toList).trans (List.map_id _)
  have hspells : List.Forall₂ Spells (quotes.map String.toList) (texts.map String.toList) :=
    List.forall₂_map_left_iff.2 (List.forall₂_map_right_iff.2 h)
  have hline : (" ".intercalate quotes).toList = [' '].intercalate (quotes.map String.toList) :=
    String.toList_intercalate
  rw [split?, hline, splitFrom_intercalate hspells, Option.map_some, hread]

/-! ### Chunks -/

/-- All characters of a chunk may be written in each of these ways. -/
structure Ways.Allows (ways : Ways) (chunk : List Char) : Prop where
  bare : ways.bare = true → ∀ c ∈ chunk, IsOrdinary c
  single : ways.single = true → ∀ c ∈ chunk, c ≠ '\x27'

namespace Ways

theorem isOrdinary_of_bare {c : Char} (h : (ofChar c).bare = true) : IsOrdinary c := by
  intro hspecial
  have hnone : (specialChars.all fun special ↦ !(ofChar special).bare) = true := by decide
  have hthis : (!(ofChar c).bare) = true := List.all_eq_true.1 hnone c hspecial
  rw [h] at hthis
  exact Bool.false_ne_true hthis

theorem ne_of_single {c : Char} (h : (ofChar c).single = true) : c ≠ '\x27' := by
  rintro rfl
  exact Bool.false_ne_true h

theorem allows_ofFirst (c : Char) : (ofFirst c).Allows [c] := by
  unfold ofFirst
  split
  next hcaret =>
    constructor
    · exact nofun
    · intro _
      rw [List.forall_mem_singleton, hcaret]
      decide
  · constructor
    · intro h
      exact List.forall_mem_singleton.2 (isOrdinary_of_bare h)
    · intro h
      exact List.forall_mem_singleton.2 (ne_of_single h)

theorem Allows.cons {c : Char} (h : ways.Allows chunk) :
    (ways.inter (ofChar c)).Allows (c :: chunk) := by
  constructor
  · intro hbare
    obtain ⟨hways, hc⟩ := Bool.and_eq_true_iff.1 hbare
    exact List.forall_mem_cons.2 ⟨isOrdinary_of_bare hc, h.bare hways⟩
  · intro hsingle
    obtain ⟨hways, hc⟩ := Bool.and_eq_true_iff.1 hsingle
    exact List.forall_mem_cons.2 ⟨ne_of_single hc, h.single hways⟩

theorem Allows.reverse (h : ways.Allows chunk) : ways.Allows chunk.reverse where
  bare hbare c hc := h.bare hbare c (List.mem_reverse.1 hc)
  single hsingle c hc := h.single hsingle c (List.mem_reverse.1 hc)

end Ways

theorem splitFrom_single_append (hcs : ∀ c ∈ cs, c ≠ '\x27') :
    splitFrom .single word (cs ++ '\x27' :: rest) = splitFrom .bare (cs.reverse ++ word) rest := by
  induction cs generalizing word with
  | nil => rfl
  | cons c more ih =>
    obtain ⟨hc, hmore⟩ := List.forall_mem_cons.1 hcs
    rw [List.cons_append, splitFrom, if_neg hc, ih hmore, List.reverse_cons, List.append_assoc,
      List.singleton_append]

/-- In double quotes a backslash is read only before the characters that got one. -/
theorem splitFrom_double_append :
    splitFrom .double word
        (cs.flatMap (fun c ↦ if c = '"' ∨ c = '\\' then ['\\', c] else [c]) ++ rest) =
      splitFrom .double (cs.reverse ++ word) rest := by
  induction cs generalizing word with
  | nil => rfl
  | cons c more ih =>
    rw [List.flatMap_cons, List.append_assoc, List.reverse_cons, List.append_assoc,
      List.singleton_append, ← ih]
    split
    next hescaped =>
      rcases hescaped with rfl | rfl
      · rfl
      · rfl
    next hplain =>
      rw [not_or] at hplain
      rw [List.singleton_append, splitFrom, if_neg hplain.1, if_neg hplain.2]

theorem spells_writeChunk (hne : chunk ≠ []) (h : ways.Allows chunk) :
    Spells (writeChunk ways chunk) chunk := by
  unfold writeChunk
  split
  next hbare => exact spells_of_isOrdinary hne (h.bare hbare)
  · split
    next hsingle =>
      constructor
      · exact ⟨_, _, rfl, by decide, by decide⟩
      · intro begun rest
        rw [List.append_assoc]
        exact splitFrom_single_append (h.single hsingle)
    · constructor
      · exact ⟨_, _, rfl, by decide, by decide⟩
      · intro begun rest
        rw [doubleQuoted, List.append_assoc]
        exact splitFrom_double_append

/-! ### Whole texts -/

/-- **However a text is cut into chunks, they spell it.** -/
theorem spells_quoteFrom (hne : chunk ≠ []) (h : ways.Allows chunk) (rest : List Char) :
    Spells (quoteFrom ways chunk rest) (chunk.reverse ++ rest) := by
  induction rest generalizing ways chunk with
  | nil =>
    rw [List.append_nil]
    exact spells_writeChunk (List.reverse_ne_nil_iff.2 hne) h.reverse
  | cons c rest ih =>
    rw [quoteFrom]
    split
    · have hlonger := ih (List.cons_ne_nil c chunk) h.cons
      rwa [List.reverse_cons, List.append_assoc, List.singleton_append] at hlonger
    · have hchunk := spells_writeChunk (List.reverse_ne_nil_iff.2 hne) h.reverse
      exact hchunk.append (ih (List.cons_ne_nil c []) (Ways.allows_ofFirst c))

theorem spells_quote? (h : quote? text = some quoted) : Spells quoted.toList text.toList := by
  unfold quote? at h
  split at h
  next hempty =>
    obtain rfl := Option.some.inj h
    rw [hempty]
    constructor
    · exact ⟨_, _, rfl, by decide, by decide⟩
    · intro begun rest
      rfl
  next c rest htext =>
    split at h
    · exact nomatch h
    · obtain rfl := Option.some.inj h
      rw [String.toList_ofList, htext]
      exact spells_quoteFrom (List.cons_ne_nil c []) (Ways.allows_ofFirst c) rest

theorem exists_quote? (h : '\x00' ∉ text.toList) : ∃ quoted, quote? text = some quoted := by
  unfold quote?
  split
  · exact ⟨_, rfl⟩
  next c rest htext =>
    rw [htext, ← List.contains_iff_mem] at h
    exact ⟨_, if_neg h⟩

end ContestJudge.ShellWords
