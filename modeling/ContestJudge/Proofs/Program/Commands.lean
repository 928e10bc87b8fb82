import ContestJudge.Program.Build
import ContestJudge.Proofs.Fallible
import ContestJudge.Proofs.Path.Joined
import ContestJudge.Proofs.ShellWords.Quoting
import ContestJudge.Proofs.Template.Marked

/-!
# Running commands

A command template is written over paths, and three things happen to each path before a program gets
it as an argument: it is quoted, put into the template, and read out of it with the other words of
the command. The first and the last undo each other whatever the path holds, because a quoted path
spells one word (`Spells`), and the second leaves it alone, because a value is not read again
(`Expands`). So a command of plain words and names, one blank apart, gives exactly the arguments
that it shows (`finish_runs_words`).

* `bound_of_bindings` — each name stands for its paths, quoted. That quoting succeeds needs paths
  without a byte that ends a text (`exists_bindings`).
* `CommandWord.exists_quotes` — each word expands to the quoted words of its arguments. A name may
  stand for several paths, and then the one word becomes several, a blank apart.
* `commandWords_template` — so a whole command is read as its arguments. Splitting comes last, and
  this is why it cannot break a path up.

Quoting and splitting are taken for what they are: which texts spell a word is shown of the
functions (`spells_quote?`), and the functions are the ones that the rules of a shell determine
(`ShellWords.eq_split?_of_reads`).
-/

namespace ContestJudge

open ShellWords (Spells IsOrdinary spells_of_isOrdinary spells_quote? exists_quote?
  split?_intercalate)
open Template (Variables Expands marked expands_marked expands_of_not_mem expands_nil
  expandMarked_of_expands)

variable {directory : Path} {artifact : String} {sources : List Path} {vars : Variables}

/-! ### What the names stand for -/

/-- A name that a command template may use. -/
inductive CommandName where
  | directory
  | artifact
  | main
  | sources
  deriving DecidableEq, Repr

namespace CommandName

/-- How a name is written. -/
def text : CommandName → String
  | .directory => "dir"
  | .artifact => "exe"
  | .main => "main"
  | .sources => "sources"

/-- The paths that a name stands for. -/
def paths (directory : Path) (artifact : String) (sources : List Path) : CommandName → List Path
  | .directory => [directory]
  | .artifact => [directory.join ⟨artifact⟩]
  | .main => sources.head?.toList
  | .sources => sources

end CommandName

/-- Quoted paths, each as one word. -/
abbrev Quotes (quotes : List String) (paths : List Path) : Prop :=
  List.Forall₂ (fun quoted path ↦ Spells quoted.toList path.text.toList) quotes paths

/-- Each name stands for the quoted words of its paths. -/
def Bound (directory : Path) (artifact : String) (sources : List Path) (vars : Variables) : Prop :=
  ∀ name : CommandName, ∃ quotes, vars name.text = some (" ".intercalate quotes) ∧
    Quotes quotes (name.paths directory artifact sources)

/-- A shell reads the paths of a name back. -/
theorem Bound.split?_eq (h : Bound directory artifact sources vars) (name : CommandName) :
    (vars name.text).bind ShellWords.split? =
      some ((name.paths directory artifact sources).map (·.text)) := by
  obtain ⟨quotes, hvalue, hquotes⟩ := h name
  rw [hvalue]
  exact split?_intercalate (List.forall₂_map_right_iff.2 hquotes)

namespace Build

theorem spells_quotePath {path : Path} {quoted : String} (h : quotePath path = .ok quoted) :
    Spells quoted.toList path.text.toList := by
  unfold quotePath at h
  split at h
  next hquote =>
    obtain rfl := Except.ok.inj h
    exact spells_quote? hquote
  · exact nomatch h

theorem exists_quotePath {path : Path} (h : '\x00' ∉ path.text.toList) :
    ∃ quoted, quotePath path = .ok quoted := by
  obtain ⟨quoted, hquoted⟩ := exists_quote? h
  exact ⟨quoted, by rw [quotePath, hquoted]⟩

/-- **Each name stands for its paths**, quoted. -/
theorem bound_of_bindings (hne : sources ≠ [])
    (h : bindings directory artifact sources = .ok vars) :
    Bound directory artifact sources vars := by
  obtain ⟨dir, hdir, h⟩ := bind_eq_ok_iff.1 h
  obtain ⟨exe, hexe, h⟩ := bind_eq_ok_iff.1 h
  obtain ⟨words, hwords, h⟩ := bind_eq_ok_iff.1 h
  obtain rfl := Except.ok.inj h
  have hquotes : Quotes words sources := by
    have hread := forall₂_of_mapM hwords
    exact (hread.imp fun _ _ ↦ spells_quotePath).flip
  have hsingle (word : String) : " ".intercalate [word] = word := String.intercalate_singleton
  intro name
  cases name with
  | directory =>
    refine ⟨[dir], ?_, .cons (spells_quotePath hdir) .nil⟩
    rw [hsingle]
    rfl
  | artifact =>
    refine ⟨[exe], ?_, .cons (spells_quotePath hexe) .nil⟩
    rw [hsingle]
    rfl
  | main =>
    cases hquotes with
    | nil => exact absurd rfl hne
    | @cons word _ _ _ hfirst _ =>
      refine ⟨[word], ?_, .cons hfirst .nil⟩
      rw [hsingle]
      rfl
  | sources => exact ⟨words, rfl, hquotes⟩

theorem exists_bindings (hdirectory : '\x00' ∉ directory.text.toList)
    (hartifact : '\x00' ∉ (directory.join ⟨artifact⟩).text.toList)
    (hsources : ∀ source ∈ sources, '\x00' ∉ source.text.toList) :
    ∃ vars, bindings directory artifact sources = .ok vars := by
  obtain ⟨dir, hdir⟩ := exists_quotePath hdirectory
  obtain ⟨exe, hexe⟩ := exists_quotePath hartifact
  obtain ⟨words, hwords⟩ := exists_mapM fun source hsource ↦
    exists_quotePath (hsources source hsource)
  exact ⟨_, bind_eq_ok_iff.2 ⟨dir, hdir, bind_eq_ok_iff.2 ⟨exe, hexe,
    bind_eq_ok_iff.2 ⟨words, hwords, rfl⟩⟩⟩⟩

end Build

/-! ### The words of a command -/

/-- A word of a command template. -/
inductive CommandWord where
  /-- A text that stands for itself. -/
  | plain (text : String)
  /-- A marked name. -/
  | named (name : CommandName)
  deriving DecidableEq, Repr

namespace CommandWord

/-- How a word is written. -/
def text : CommandWord → String
  | .plain text => text
  | .named name => String.ofList (marked name.text)

/-- A plain word has at least one character, and all of them are ordinary. -/
def IsSound : CommandWord → Prop
  | .plain text => text ≠ "" ∧ ∀ c ∈ text.toList, IsOrdinary c
  | .named _ => True

instance : (word : CommandWord) → Decidable word.IsSound
  | .plain text => decidable_of_iff (text ≠ "" ∧ text.toList.all (fun c ↦ decide (IsOrdinary c)))
      (and_congr_right' (List.all_eq_true.trans (by simp only [decide_eq_true_iff])))
  | .named _ => inferInstanceAs (Decidable True)

/-- The arguments that a word stands for. -/
def arguments (directory : Path) (artifact : String) (sources : List Path) :
    CommandWord → List String
  | .plain text => [text]
  | .named name => (name.paths directory artifact sources).map (·.text)

/-- The template that words make up. -/
def template (words : List CommandWord) : String := " ".intercalate (words.map text)

/-- The arguments that the words of a template stand for. -/
def allArguments (directory : Path) (artifact : String) (sources : List Path)
    (words : List CommandWord) : List String :=
  words.flatMap (arguments directory artifact sources)

theorem arguments_ne_nil (hne : sources ≠ []) (word : CommandWord) :
    word.arguments directory artifact sources ≠ [] := by
  cases word with
  | plain text => exact List.cons_ne_nil _ _
  | named name =>
    obtain ⟨first, rest, rfl⟩ := List.exists_cons_of_ne_nil hne
    cases name with
    | directory => exact List.cons_ne_nil _ _
    | artifact => exact List.cons_ne_nil _ _
    | main => exact List.cons_ne_nil _ _
    | sources => exact List.cons_ne_nil _ _

/-- **Each word expands to the quoted words of its arguments.** -/
theorem exists_quotes (hbound : Bound directory artifact sources vars) {word : CommandWord}
    (hword : word.IsSound) :
    ∃ quotes, Expands vars word.text.toList (" ".intercalate quotes).toList ∧
      List.Forall₂ (fun quoted text ↦ Spells quoted.toList text.toList) quotes
        (word.arguments directory artifact sources) := by
  cases word with
  | plain text =>
    obtain ⟨hne, hordinary⟩ := hword
    have hchars : text.toList ≠ [] := mt String.toList_eq_nil_iff.1 hne
    have hmark : '#' ∉ text.toList := fun h ↦ (hordinary '#' h).ne (by decide) rfl
    refine ⟨[text], ?_, .cons (spells_of_isOrdinary hchars hordinary) .nil⟩
    rw [String.intercalate_singleton]
    exact expands_of_not_mem hmark
  | named name =>
    obtain ⟨quotes, hvalue, hquotes⟩ := hbound name
    have hclosed : '\x7d' ∉ name.text.toList := by cases name <;> decide
    refine ⟨quotes, ?_, List.forall₂_map_right_iff.2 hquotes⟩
    rw [text, String.toList_ofList]
    exact expands_marked hclosed hvalue

theorem allArguments_ne_nil (hne : sources ≠ []) {words : List CommandWord} (hwords : words ≠ []) :
    allArguments directory artifact sources words ≠ [] := by
  obtain ⟨word, rest, rfl⟩ := List.exists_cons_of_ne_nil hwords
  rw [allArguments, List.flatMap_cons]
  exact List.append_ne_nil_of_left_ne_nil (arguments_ne_nil hne word) _

/-- **A whole template expands to the quoted words of its arguments**, one blank apart. -/
theorem exists_allQuotes (hbound : Bound directory artifact sources vars) (hne : sources ≠ [])
    {words : List CommandWord} (hwords : ∀ word ∈ words, word.IsSound) :
    ∃ quotes, Expands vars (template words).toList (" ".intercalate quotes).toList ∧
      List.Forall₂ (fun quoted text ↦ Spells quoted.toList text.toList) quotes
        (allArguments directory artifact sources words) := by
  induction words with
  | nil => exact ⟨[], expands_nil vars, .nil⟩
  | cons word rest ih =>
    obtain ⟨hword, hrest⟩ := List.forall_mem_cons.1 hwords
    obtain ⟨first, hfirst, hfirstSpells⟩ := exists_quotes hbound hword
    obtain ⟨more, hmore, hmoreSpells⟩ := ih hrest
    refine ⟨first ++ more, ?_, List.rel_append hfirstSpells hmoreSpells⟩
    by_cases hend : rest = []
    · subst hend
      cases hmoreSpells
      rw [List.append_nil, template, List.map_singleton, String.intercalate_singleton]
      exact hfirst
    · have hfirstNe : first ≠ [] := by
        rintro rfl
        exact arguments_ne_nil hne word (List.forall₂_nil_left_iff.1 hfirstSpells)
      have hmoreNe : more ≠ [] := by
        rintro rfl
        exact allArguments_ne_nil hne hend (List.forall₂_nil_left_iff.1 hmoreSpells)
      have hmap : rest.map text ≠ [] := mt List.map_eq_nil_iff.1 hend
      have hblank : Expands vars [' '] [' '] := expands_of_not_mem (by decide)
      rw [template, List.map_cons, String.intercalate_cons_of_ne_nil hmap,
        String.intercalate_append_of_ne_nil hfirstNe hmoreNe, String.toList_append,
        String.toList_append, String.toList_append, String.toList_append]
      exact (hfirst.append hblank).append hmore

end CommandWord

namespace Build

open CommandWord (template allArguments allArguments_ne_nil exists_allQuotes)

/-- **A running command gives its arguments**, whatever the paths hold. -/
theorem commandWords_template (hbound : Bound directory artifact sources vars) (hne : sources ≠ [])
    {words : List CommandWord} (hwords : words ≠ []) (hsound : ∀ word ∈ words, word.IsSound) :
    ∃ program arguments,
      program :: arguments = allArguments directory artifact sources words ∧
      commandWords (template words) vars = .ok (program, arguments) := by
  obtain ⟨quotes, hexpands, hspells⟩ := exists_allQuotes hbound hne hsound
  obtain ⟨program, arguments, hall⟩ :=
    List.exists_cons_of_ne_nil (allArguments_ne_nil hne hwords)
  refine ⟨program, arguments, hall.symm, ?_⟩
  have hcommand : expand (template words) vars = .ok (" ".intercalate quotes) := by
    rw [expand, expandMarked_of_expands hexpands, String.ofList_toList]
    rfl
  refine bind_eq_ok_iff.2 ⟨" ".intercalate quotes, hcommand, ?_⟩
  rw [split?_intercalate hspells, hall]
  rfl

/-- Where files of some names are copied to. -/
def copiesOf (directory : Path) (names : List String) : List Path :=
  names.map fun name ↦ directory.join ⟨name⟩

theorem not_mem_join {name : String} (hdirectory : '\x00' ∉ directory.text.toList)
    (hname : '\x00' ∉ name.toList) : '\x00' ∉ (directory.join ⟨name⟩).text.toList := by
  intro h
  rcases Path.mem_join h with h | h | h
  · exact hdirectory h
  · exact hname h
  · exact absurd h (by decide)

/-- **What is built runs as its command shows.** For every directory, artifact and copied sources
whose names have no NUL, and every command of plain words and names, one blank apart, the names are
bound; and unless the building command fails, the result is the executable whose program and
arguments are those of the words in order: a plain word is itself, the directory, the artifact and
the main source are one argument each, their own path, and the sources are one for each of them. -/
theorem finish_runs_words {names : List String} {words : List CommandWord}
    (hdirectory : '\x00' ∉ directory.text.toList) (hartifact : '\x00' ∉ artifact.toList)
    (hnames : ∀ name ∈ names, '\x00' ∉ name.toList) (hne : names ≠ []) (hwords : words ≠ [])
    (hsound : ∀ word ∈ words, word.IsSound) :
    ∃ program arguments vars,
      program :: arguments = allArguments directory artifact (copiesOf directory names) words ∧
      bindings directory artifact (copiesOf directory names) = .ok vars ∧
      ∀ {ε : Type} (runner : CommandRunner ε) (builder : Option String) (limit : Duration)
        (w : World ε),
        finish runner ⟨builder, template words, artifact⟩ directory (copiesOf directory names)
            limit w =
          ((compile runner builder vars directory limit w).1.map
              fun _ ↦ ⟨program, arguments, some directory⟩,
            (compile runner builder vars directory limit w).2) := by
  have hcopies : copiesOf directory names ≠ [] := mt List.map_eq_nil_iff.1 hne
  have hsources : ∀ source ∈ copiesOf directory names, '\x00' ∉ source.text.toList :=
    List.forall_mem_map.2 fun name hname ↦ not_mem_join hdirectory (hnames name hname)
  obtain ⟨vars, hvars⟩ :=
    exists_bindings hdirectory (not_mem_join hdirectory hartifact) hsources
  obtain ⟨program, arguments, hall, hcommand⟩ :=
    commandWords_template (bound_of_bindings hcopies hvars) hcopies hwords hsound
  refine ⟨program, arguments, vars, hall, hvars, fun runner builder limit w ↦ ?_⟩
  rw [finish, hvars]
  dsimp only
  rw [hcommand]
  rcases compile runner builder vars directory limit w with ⟨fault | done, after⟩
  · rfl
  · rfl

/-- Names that a shell would read in many ways. -/
def oddNames : List String := ["it\x27s \"1\" #2.sh", "$x^\\\x27"]

/-- A command over all kinds of words. -/
def oddCommand : List CommandWord :=
  [.plain "/bin/sh", .named .main, .plain "-d", .named .directory, .named .sources,
    .named .artifact]

/-- What `oddCommand` runs. -/
def oddExecutable : Executable :=
  ⟨"/bin/sh", ["/b #1/it\x27s \"1\" #2.sh", "-d", "/b #1", "/b #1/it\x27s \"1\" #2.sh",
    "/b #1/$x^\\\x27", "/b #1/a out"], some ⟨"/b #1"⟩⟩

theorem finish_runs_words_odd :
    (∀ word ∈ oddCommand, word.IsSound) ∧
      ∀ {ε : Type} (runner : CommandRunner ε) (limit : Duration) (w : World ε),
        finish runner ⟨none, template oddCommand, "a out"⟩ ⟨"/b #1"⟩ (copiesOf ⟨"/b #1"⟩ oddNames)
          limit w = (.ok oddExecutable, w) := by
  have hsound : ∀ word ∈ oddCommand, word.IsSound := by decide
  refine ⟨hsound, fun runner limit w ↦ ?_⟩
  obtain ⟨program, arguments, vars, hall, -, hfinish⟩ :=
    @finish_runs_words ⟨"/b #1"⟩ "a out" oddNames oddCommand (by decide) (by decide) (by decide)
      (by decide) (by decide) hsound
  have hwords : allArguments ⟨"/b #1"⟩ "a out" (copiesOf ⟨"/b #1"⟩ oddNames) oddCommand =
      oddExecutable.program :: oddExecutable.arguments := by decide
  obtain ⟨rfl, rfl⟩ := List.cons.inj (hall.trans hwords)
  exact hfinish runner none limit w

end Build

end ContestJudge
