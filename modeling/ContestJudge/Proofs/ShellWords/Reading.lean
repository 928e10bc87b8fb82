import ContestJudge.ShellWords.Split
import Mathlib.Tactic.Common

/-!
# Reading a line character by character

What a character does to a line of words depends only on where the walk stands: it leads somewhere
(`State.step`), and there it does one of four things to the word that was begun (`Effect`). That the
walk takes one such step for each character is `splitFrom_cons`.

A character that stands for itself wherever it is read is ordinary. All of them are read alike
(`step_of_isOrdinary`), so a run of them stays where the first one led, and is added if that one is
(`splitFrom_append_ordinary`). This is what numerals are put into a line for: their length changes
nothing about how the rest is read.

The walk holds the word that was begun in reverse, and holds none where no word was begun. The
second is needed where a character that means nothing between words would else end one, so it is
asked of the states that are outside of words.
-/

namespace ContestJudge.ShellWords

variable {st : State} {c : Char} {word cs rest : List Char}

/-! ### One character -/

/-- What reading a character does to the word that was begun. -/
inductive Effect where
  /-- The character belongs to no word. -/
  | drop
  /-- The character is added. -/
  | keep
  /-- The character is added after the backslash before it. -/
  | keepEscaped
  /-- The word ends. -/
  | finish
  deriving DecidableEq

/-- Where a character leads, and what it does. -/
def State.step : State → Char → State × Effect
  | .between, c =>
    if isSeparator c then (.between, .drop)
    else if c = '#' then (.comment, .drop)
    else if c = '"' then (.double, .drop)
    else if c = '\x27' then (.single, .drop)
    else if c = '\\' then (.escape, .drop)
    else (.bare, .keep)
  | .comment, c => if c = '\n' then (.between, .drop) else (.comment, .drop)
  | .bare, c =>
    if isSeparator c then (.between, .finish)
    else if c = '"' then (.double, .drop)
    else if c = '\x27' then (.single, .drop)
    else if c = '\\' then (.escape, .drop)
    else (.bare, .keep)
  | .escape, c => if c = '\n' then (.bare, .drop) else (.bare, .keep)
  | .single, c => if c = '\x27' then (.bare, .drop) else (.single, .keep)
  | .double, c =>
    if c = '"' then (.bare, .drop)
    else if c = '\\' then (.doubleEscape, .drop)
    else (.double, .keep)
  | .doubleEscape, c =>
    if c = '\n' then (.double, .drop)
    else if isDoubleEscaped c then (.double, .keep)
    else (.double, .keepEscaped)

/-- Whether a word was begun. -/
def State.inWord : State → Bool
  | .between => false
  | .comment => false
  | _ => true

/-- The words of a line after characters that had one effect together. -/
def splitAfter (word cs rest : List Char) : State × Effect → Option (List (List Char))
  | (next, .drop) => splitFrom next word rest
  | (next, .keep) => splitFrom next (cs.reverse ++ word) rest
  | (next, .keepEscaped) => splitFrom next (cs.reverse ++ '\\' :: word) rest
  | (next, .finish) => (splitFrom next [] rest).map (word.reverse :: ·)

/-- **The walk takes one step for each character.** -/
theorem splitFrom_cons (hword : st.inWord = false → word = []) :
    splitFrom st word (c :: rest) = splitAfter word [c] rest (st.step c) := by
  cases st with
  | between =>
    obtain rfl := hword rfl
    rw [splitFrom, State.step]
    split_ifs <;> rfl
  | comment => rw [splitFrom, State.step]; split_ifs <;> rfl
  | bare => rw [splitFrom, State.step]; split_ifs <;> rfl
  | escape => rw [splitFrom, State.step]; split_ifs <;> rfl
  | single => rw [splitFrom, State.step]; split_ifs <;> rfl
  | double => rw [splitFrom, State.step]; split_ifs <;> rfl
  | doubleEscape => rw [splitFrom, State.step]; split_ifs <;> rfl

/-- A step that leads out of words adds nothing to one: it ends the word, or there was none. -/
theorem effect_of_outside (h : (st.step c).1.inWord = false) :
    (st.step c).2 = .finish ∨ (st.step c).2 = .drop ∧ st.inWord = false := by
  revert h
  cases st <;> simp only [State.step] <;> split_ifs <;> simp [State.inWord]

/-! ### Ordinary characters -/

/-- The characters that mean something to the walk, somewhere. -/
def specialChars : List Char := [' ', '\t', '\n', '#', '"', '\x27', '\\', '$', '\x60']

/-- A character that stands for itself wherever it is read. -/
def IsOrdinary (c : Char) : Prop := c ∉ specialChars

instance (c : Char) : Decidable (IsOrdinary c) := inferInstanceAs (Decidable (c ∉ specialChars))

theorem IsOrdinary.ne (h : IsOrdinary c) {special : Char} (hspecial : special ∈ specialChars) :
    c ≠ special := fun heq ↦ h (heq ▸ hspecial)

theorem IsOrdinary.not_isSeparator (h : IsOrdinary c) : isSeparator c = false := by
  have hblank : c ≠ ' ' := h.ne (by decide)
  have htab : c ≠ '\t' := h.ne (by decide)
  have hfeed : c ≠ '\n' := h.ne (by decide)
  simp only [isSeparator, hblank, htab, hfeed, decide_false, Bool.or_self]

theorem IsOrdinary.not_isDoubleEscaped (h : IsOrdinary c) : isDoubleEscaped c = false := by
  have hdollar : c ≠ '$' := h.ne (by decide)
  have htick : c ≠ '\x60' := h.ne (by decide)
  have hquote : c ≠ '"' := h.ne (by decide)
  have hslash : c ≠ '\\' := h.ne (by decide)
  simp only [isDoubleEscaped, hdollar, htick, hquote, hslash, decide_false, Bool.or_self]

theorem isOrdinary_of_isAlphanum (h : c.isAlphanum = true) : IsOrdinary c := by
  intro hspecial
  have hnone : (specialChars.all fun special ↦ !special.isAlphanum) = true := by decide
  have hthis : (!c.isAlphanum) = true := List.all_eq_true.1 hnone c hspecial
  rw [h] at hthis
  exact Bool.false_ne_true hthis

/-- Where an ordinary character leads, and what it does. -/
def State.stepOrdinary : State → State × Effect
  | .between => (.bare, .keep)
  | .comment => (.comment, .drop)
  | .bare => (.bare, .keep)
  | .escape => (.bare, .keep)
  | .single => (.single, .keep)
  | .double => (.double, .keep)
  | .doubleEscape => (.double, .keepEscaped)

/-- **All ordinary characters are read alike.** -/
theorem step_of_isOrdinary (h : IsOrdinary c) (st : State) : st.step c = st.stepOrdinary := by
  have hseparator : isSeparator c = false := h.not_isSeparator
  have hescaped : isDoubleEscaped c = false := h.not_isDoubleEscaped
  have hmark : c ≠ '#' := h.ne (by decide)
  have hfeed : c ≠ '\n' := h.ne (by decide)
  have hquote : c ≠ '"' := h.ne (by decide)
  have hsingle : c ≠ '\x27' := h.ne (by decide)
  have hslash : c ≠ '\\' := h.ne (by decide)
  cases st <;>
    simp only [State.step, State.stepOrdinary, hseparator, hescaped, hmark, hfeed, hquote, hsingle,
      hslash, if_false, Bool.false_eq_true]

/-- Where an ordinary character has led, more of them are added one by one. -/
theorem splitFrom_append_of_keep (hst : st.stepOrdinary = (st, .keep)) (hin : st.inWord = true)
    (hcs : ∀ c ∈ cs, IsOrdinary c) :
    splitFrom st word (cs ++ rest) = splitFrom st (cs.reverse ++ word) rest := by
  induction cs generalizing word with
  | nil => rfl
  | cons c more ih =>
    obtain ⟨hc, hmore⟩ := List.forall_mem_cons.1 hcs
    have hword : st.inWord = false → word = [] := fun hout ↦ (nomatch hin.symm.trans hout)
    rw [List.cons_append, splitFrom_cons hword, step_of_isOrdinary hc, hst]
    show splitFrom st (c :: word) (more ++ rest) = _
    rw [ih hmore, List.reverse_cons, List.append_assoc, List.singleton_append]

theorem splitFrom_comment_append (hcs : ∀ c ∈ cs, IsOrdinary c) :
    splitFrom .comment [] (cs ++ rest) = splitFrom .comment [] rest := by
  induction cs with
  | nil => rfl
  | cons c more ih =>
    obtain ⟨hc, hmore⟩ := List.forall_mem_cons.1 hcs
    rw [List.cons_append, splitFrom_cons fun _ ↦ rfl, step_of_isOrdinary hc]
    exact ih hmore

/-- **A run of ordinary characters is read like one of them**: it leads where the first one does,
and all of them are added if that one is. -/
theorem splitFrom_append_ordinary (hword : st.inWord = false → word = []) (hne : cs ≠ [])
    (hcs : ∀ c ∈ cs, IsOrdinary c) :
    splitFrom st word (cs ++ rest) = splitAfter word cs rest st.stepOrdinary := by
  obtain ⟨c, more, rfl⟩ := List.exists_cons_of_ne_nil hne
  obtain ⟨hc, hmore⟩ := List.forall_mem_cons.1 hcs
  -- Only the first one may lead elsewhere; where it leads, the others are added or dropped.
  have hkeep {next : State} (hnext : next.stepOrdinary = (next, .keep)) (hin : next.inWord = true)
      (word : List Char) :
      splitFrom next (c :: word) (more ++ rest) =
        splitFrom next ((c :: more).reverse ++ word) rest := by
    rw [splitFrom_append_of_keep hnext hin hmore, List.reverse_cons, List.append_assoc,
      List.singleton_append]
  rw [List.cons_append, splitFrom_cons hword, step_of_isOrdinary hc]
  cases st with
  | between => exact hkeep rfl rfl word
  | comment =>
    obtain rfl := hword rfl
    exact splitFrom_comment_append hmore
  | bare => exact hkeep rfl rfl word
  | escape => exact hkeep rfl rfl word
  | single => exact hkeep rfl rfl word
  | double => exact hkeep rfl rfl word
  | doubleEscape => exact hkeep rfl rfl ('\\' :: word)

end ContestJudge.ShellWords
