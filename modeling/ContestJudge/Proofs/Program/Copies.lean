import ContestJudge.Proofs.FileTree.Copying
import ContestJudge.Proofs.FileTree.Temporary
import ContestJudge.Proofs.Program.Commands

/-!
# What programs are built from

Files come from anywhere, but their copies lie side by side, under their file names alone. So files
of one name share one copy, and it holds what was copied last (`HoldsLast`). When no two files have
the same name, each source is found in its own copy by the time that the building command starts;
otherwise a program is built from the wrong file, and nothing says so.

* `filled_of_copyInto` — all copies lie under the names of the files, and nothing else has changed.
  One copy is `Receives.stored_of_copy`, and the rest is induction over the files.
* `exists_turn` — each file has its turn, with a tree before it and one after it (`Turn`). What its
  copy holds in the end depends on whether a later file has its name (`Turn.find_copy`).
* `build_from_last` — so what each recorded path of a source holds, and that the build goes on from
  that tree: the command starts in it, or the program is done if there is none.

A file may itself be one of the copies, or lie in the directory where the copies are put, so that it
is emptied before it is read. That happens to a file that is read from where its copy goes. Files
that were there before the build are not in its new directory, and keep what they hold until their
turn.

A build that fails leaves no directory behind, so nothing is said then (`settle`).
-/

namespace ContestJudge

open FileTree (Filled IsPlace Opened Receives Stored pathOf)
open Text (Bytes)

variable {t t' : FileTree} {place : Place} {name : String} {names : List String}
  {source last copy : Path} {sources extra files copies done rest : List Path} {content : Bytes}

namespace Build

/-! ### One file after the other -/

theorem join_pathOf_name (hplace : IsPlace place) (hname : Path.IsName name) :
    (pathOf place).join ⟨name⟩ = pathOf (place ++ [name]) := by
  have hjoin := FileTree.join_pathOf hplace (List.forall_mem_singleton.2 hname)
    (List.cons_ne_nil name [])
  rwa [String.intercalate_singleton] at hjoin

/-- The first of the files is copied, and then the others. -/
theorem copyInto_cons (h : Receives place t)
    (hcopy : copyInto (pathOf place) (source :: rest) t = .ok (copies, t')) :
    ∃ name between more found content executable,
      source.fileName? = some name ∧ copies = (pathOf place).join ⟨name⟩ :: more ∧
      Stored place name source found content executable t between ∧
      copyInto (pathOf place) rest between = .ok (more, t') := by
  obtain ⟨name, hname, hcopy⟩ := bind_eq_ok_iff.1 hcopy
  obtain ⟨⟨count, between⟩, hfirst, hcopy⟩ := bind_eq_ok_iff.1 hcopy
  obtain ⟨⟨more, after⟩, hrest, hresult⟩ := bind_eq_ok_iff.1 hcopy
  obtain ⟨rfl, rfl⟩ := Prod.mk.inj (Except.ok.inj hresult)
  have hnamed : source.fileName? = some name := by
    cases hsource : source.fileName? with
    | none =>
      rw [hsource] at hname
      exact nomatch hname
    | some own =>
      rw [hsource] at hname
      exact congrArg some (Except.ok.inj hname)
  have hsound := Path.isName_of_fileName? hnamed
  rw [join_pathOf_name h.isPlace hsound] at hfirst
  obtain ⟨found, content, executable, hstored⟩ :=
    h.stored_of_copy hsound (mapError_eq_ok_iff.1 hfirst)
  exact ⟨name, between, more, found, content, executable, hnamed, rfl, hstored, hrest⟩

/-- **All copies lie under the names of the files**, and nothing else has changed. -/
theorem filled_of_copyInto (h : Receives place t)
    (hcopy : copyInto (pathOf place) files t = .ok (copies, t')) :
    ∃ names, files.map Path.fileName? = names.map some ∧
      copies = copiesOf (pathOf place) names ∧ Filled place names t t' := by
  induction files generalizing t copies with
  | nil =>
    obtain ⟨rfl, rfl⟩ := Prod.mk.inj (Except.ok.inj hcopy)
    exact ⟨[], rfl, rfl, .refl h⟩
  | cons source rest ih =>
    obtain ⟨name, between, more, found, content, executable, hname, rfl, hstored, hrest⟩ :=
      copyInto_cons h hcopy
    obtain ⟨names, hnames, rfl, hfilled⟩ := ih hstored.filled.receives hrest
    refine ⟨name :: names, ?_, rfl, hstored.filled.append hfilled⟩
    rw [List.map_cons, List.map_cons, hname, hnames]

/-- **The turn of a file** to be copied: other files were copied before it, and others are after. -/
structure Turn (place : Place) (t : FileTree) (done : List Path) (source : Path) (rest : List Path)
    (t' : FileTree) where
  earlier : List String
  name : String
  later : List String
  before : FileTree
  after : FileTree
  /-- Where the file was read. -/
  found : Place
  content : Bytes
  executable : Bool
  earlierNames : done.map Path.fileName? = earlier.map some
  ownName : source.fileName? = some name
  laterNames : rest.map Path.fileName? = later.map some
  opening : Filled place earlier t before
  stored : Stored place name source found content executable before after
  closing : Filled place later after t'

theorem exists_turn (h : Receives place t)
    (hcopy : copyInto (pathOf place) (done ++ source :: rest) t = .ok (copies, t')) :
    Nonempty (Turn place t done source rest t') := by
  induction done generalizing t copies with
  | nil =>
    obtain ⟨name, after, more, found, content, executable, hname, -, hstored, hrest⟩ :=
      copyInto_cons h hcopy
    obtain ⟨later, hlater, -, hclosing⟩ := filled_of_copyInto hstored.filled.receives hrest
    exact ⟨⟨[], name, later, t, after, found, content, executable, rfl, hname, hlater, .refl h,
      hstored, hclosing⟩⟩
  | cons first done ih =>
    obtain ⟨name, between, more, found, content, executable, hname, -, hstored, hrest⟩ :=
      copyInto_cons h hcopy
    obtain ⟨turn⟩ := ih hstored.filled.receives hrest
    have hearlier : (first :: done).map Path.fileName? = (name :: turn.earlier).map some := by
      rw [List.map_cons, List.map_cons, hname, turn.earlierNames]
    exact ⟨{ turn with
      earlier := name :: turn.earlier
      earlierNames := hearlier
      opening := hstored.filled.append turn.opening }⟩

/-- No file has a name if none of the names is that one. -/
theorem not_mem_of_map (hnames : files.map Path.fileName? = names.map some)
    (h : ∀ file ∈ files, file.fileName? ≠ some name) : name ∉ names := by
  intro hmem
  have hsome : some name ∈ files.map Path.fileName? := hnames ▸ List.mem_map_of_mem hmem
  obtain ⟨file, hfile, hname⟩ := List.mem_map.1 hsome
  exact h file hfile hname

theorem ne_append_of_not_mem (h : name ∉ names) :
    ∀ other ∈ names, place ++ [name] ≠ place ++ [other] := by
  rintro other hother heq
  obtain rfl := List.singleton_inj.1 (List.append_cancel_left heq)
  exact h hother

/-- **The last file of a name is found in its copy**, unless it was read from there. -/
theorem Turn.find_copy (turn : Turn place t done source rest t') (hlast : turn.name ∉ turn.later) :
    t'.find (pathOf (place ++ [turn.name])) = .ok (place ++ [turn.name],
      .file (if turn.found = place ++ [turn.name] then [] else turn.content) turn.executable) :=
  turn.closing.find turn.stored.filled.receives turn.stored.opens (ne_append_of_not_mem hlast)

/-! ### What the copies hold -/

/-- The last of some files that has the file name of another. -/
def lastLike (files : List Path) (source : Path) : Option Path :=
  files.reverse.find? fun file ↦ file.fileName? = source.fileName?

theorem exists_append_of_lastLike (h : lastLike files source = some last) :
    ∃ done rest, files = done ++ last :: rest ∧ last.fileName? = source.fileName? ∧
      ∀ file ∈ rest, file.fileName? ≠ source.fileName? := by
  obtain ⟨hname, rest, done, hsplit, hrest⟩ := List.find?_eq_some_iff_append.1 h
  refine ⟨done.reverse, rest.reverse, ?_, of_decide_eq_true hname, fun file hfile ↦ ?_⟩
  · rw [← List.reverse_reverse files, hsplit, List.reverse_append, List.reverse_cons,
      List.append_assoc, List.singleton_append]
  · simpa using hrest file (List.mem_reverse.1 hfile)

theorem exists_lastLike (h : source ∈ files) : ∃ last, lastLike files source = some last := by
  have hsome : (lastLike files source).isSome = true :=
    List.find?_isSome.2 ⟨source, List.mem_reverse.2 h, decide_eq_true rfl⟩
  exact Option.isSome_iff_exists.1 hsome

/-- **A copy holds what was copied last** under the name of a source. -/
structure HoldsLast (place : Place) (files : List Path) (start tree : FileTree)
    (source copy : Path) : Prop where
  /-- It is a file in the directory, under the name of the source. -/
  inside : ∃ name content executable, source.fileName? = some name ∧
    copy = pathOf (place ++ [name]) ∧
    tree.find copy = .ok (place ++ [name], .file content executable)
  /-- Its bytes are those of the last file of that name. -/
  bytes : ∃ last, lastLike files source = some last ∧
    ∀ content, start.readRaw last = .ok content → tree.readRaw copy = .ok content

theorem readRaw_of_find {path : Path} {found : Place} {executable : Bool}
    (h : t.find path = .ok (found, .file content executable)) : t.readRaw path = .ok content := by
  rw [FileTree.readRaw, h]
  rfl

theorem receives_of_opened {start : FileTree} (h : Opened start place t) : Receives place t where
  isPlace := h.isPlace
  closed := h.closed
  directory := h.directory
  files name _ hentry := nomatch (h.empty [name] (List.cons_ne_nil _ _)).symm.trans hentry

/-- A file that was there before anything was copied is read from where it was. -/
theorem find_of_opened {start before : FileTree} {path : Path} {found : Place} {entry : Entry}
    (h : Opened start place t) (hfilled : Filled place names t before) (hne : entry ≠ .directory)
    (hfind : start.find path = .ok (found, entry)) :
    before.find path = .ok (found, entry) ∧ ∀ name, found ≠ place ++ [name] := by
  have hthere : start.get? found = some entry := FileTree.get?_of_find_ne_directory hne hfind
  have hother (other : String) : found ≠ place ++ [other] := by
    rintro rfl
    have hempty := h.empty [other] (List.cons_ne_nil _ _)
    rw [h.keeps _ (hthere ▸ nofun), hthere] at hempty
    exact nomatch hempty
  have hopened : t.find path = .ok (found, entry) :=
    FileTree.find_of_isWay h.current (fun p e hget _ ↦ (h.keeps p (hget ▸ nofun)).trans hget) hfind
  exact ⟨hfilled.find (receives_of_opened h) hopened fun other _ ↦ hother other, hother⟩

theorem holdsLast_of_copyInto {start : FileTree} (h : Opened start place t)
    (hcopy : copyInto (pathOf place) files t = .ok (copies, t')) (hsource : source ∈ files)
    (hname : source.fileName? = some name) :
    HoldsLast place files start t' source (pathOf (place ++ [name])) := by
  obtain ⟨last, hlast⟩ := exists_lastLike hsource
  obtain ⟨done, rest, rfl, hlike, hrest⟩ := exists_append_of_lastLike hlast
  obtain ⟨turn⟩ := exists_turn (receives_of_opened h) hcopy
  obtain rfl : turn.name = name :=
    Option.some.inj (turn.ownName.symm.trans (hlike.trans hname))
  have hfind := turn.find_copy
    (not_mem_of_map turn.laterNames fun file hfile ↦ hname ▸ hrest file hfile)
  refine ⟨⟨turn.name, _, _, hname, rfl, hfind⟩, last, hlast, fun content hread ↦ ?_⟩
  -- What could be read at the start is no copy, so it was still the same when its turn came.
  obtain ⟨⟨found, entry⟩, hstart, hcontents⟩ := bind_eq_ok_iff.1 hread
  have hne : entry ≠ .directory := by
    rintro rfl
    exact nomatch hcontents
  obtain ⟨hbefore, hfound⟩ := find_of_opened h turn.opening hne hstart
  obtain ⟨rfl, rfl⟩ := Prod.mk.inj (Except.ok.inj (hbefore.symm.trans turn.stored.read))
  obtain rfl : turn.content = content := Except.ok.inj hcontents
  rw [if_neg (hfound turn.name)] at hfind
  exact readRaw_of_find hfind

theorem reads_same_of_copyInto {start : FileTree} (h : Opened start place t)
    (hcopy : copyInto (pathOf place) files t = .ok (copies, t'))
    (hnodup : (files.map Path.fileName?).Nodup) (hsource : source ∈ files)
    (hname : source.fileName? = some name) :
    ∃ content, t'.readRaw source = .ok content ∧
      t'.readRaw (pathOf (place ++ [name])) = .ok content := by
  obtain ⟨done, rest, rfl⟩ := List.append_of_mem hsource
  obtain ⟨turn⟩ := exists_turn (receives_of_opened h) hcopy
  obtain rfl : turn.name = name := Option.some.inj (turn.ownName.symm.trans hname)
  have hnames : (turn.earlier ++ turn.name :: turn.later).Nodup := by
    rw [List.map_append, List.map_cons, turn.earlierNames, turn.ownName, turn.laterNames,
      ← List.map_cons, ← List.map_append] at hnodup
    exact hnodup.of_map
  obtain ⟨-, hlater, hdisjoint⟩ := List.nodup_append.1 hnames
  -- What the source leads to is none of the copies to come, as those were not there yet.
  have hfound : ∀ other ∈ turn.name :: turn.later, turn.found ≠ place ++ [other] := by
    intro other hother heq
    have hnew : other ∉ turn.earlier := fun hmem ↦ hdisjoint other hmem other hother rfl
    have hfree : turn.before.get? (place ++ [other]) = none :=
      (turn.opening.unchanged _ (ne_append_of_not_mem hnew)).trans
        (h.empty [other] (List.cons_ne_nil _ _))
    have hthere : turn.before.get? turn.found = some (.file turn.content turn.executable) :=
      FileTree.get?_of_find_ne_directory nofun turn.stored.read
    rw [heq, hfree] at hthere
    exact nomatch hthere
  have hread := (turn.stored.filled.append turn.closing).find turn.opening.receives
    turn.stored.read hfound
  have hcopied := turn.find_copy (List.nodup_cons.1 hlater).1
  rw [if_neg (hfound turn.name List.mem_cons_self)] at hcopied
  exact ⟨turn.content, readRaw_of_find hread, readRaw_of_find hcopied⟩

/-! ### The whole build -/

/-- The directory of a build is kept only if it succeeded. -/
def settle {ε : Type} (directory : Path) :
    Except BuildFault Executable × World ε → Except BuildFault Executable × World ε
  | (.ok executable, w) => (.ok executable, w)
  | (.error fault, w) => (.error fault, { w with files := w.files.removeTemporary directory })

/-- The file names of files and the names of their copies stand in the same order. -/
theorem exists_name {i : Nat} (hplace : IsPlace place)
    (hnames : files.map Path.fileName? = names.map some) (hsource : files[i]? = some source)
    (hcopy : (copiesOf (pathOf place) names)[i]? = some copy) :
    ∃ name, source.fileName? = some name ∧ copy = pathOf (place ++ [name]) := by
  rw [copiesOf, List.getElem?_map] at hcopy
  obtain ⟨name, hname, rfl⟩ := Option.map_eq_some_iff.1 hcopy
  have hsame : (files.map Path.fileName?)[i]? = (names.map some)[i]? := by rw [hnames]
  rw [List.getElem?_map, List.getElem?_map, hsource, hname] at hsame
  have hown : source.fileName? = some name := Option.some.inj hsame
  exact ⟨name, hown, join_pathOf_name hplace (Path.isName_of_fileName? hown)⟩

/-- Once all files are copied, what is left is to finish the build in the tree that they left. -/
theorem build_eq_settle {ε : Type} {executors : Executors} {executor : Executor}
    {language : String} {w : World ε} {directory : Path} {made tree : FileTree}
    (hexecutor : executors.get? language = some executor) (hne : sources ≠ [])
    (hmake : w.files.makeTemporary directoryName = .ok (directory, made))
    (hcopy : copyInto directory (sources ++ extra) made = .ok (copies, tree))
    (runner : CommandRunner ε) (limit : Duration) :
    build executors runner sources extra language limit w =
      settle directory
        (finish runner executor directory (copies.take sources.length) limit
          { w with files := tree }) := by
  have hsome : sources.isEmpty = false := List.isEmpty_eq_false_iff.2 hne
  rw [build, hexecutor]
  dsimp only
  rw [if_neg (Bool.eq_false_iff.1 hsome), hmake]
  dsimp only
  rw [hcopy]
  dsimp only
  rcases finish runner executor _ _ limit { w with files := tree } with ⟨fault | executable, after⟩
  · rfl
  · rfl

/-- Without a building command nothing changes any more. -/
theorem finish_snd_of_none {ε : Type} {executor : Executor} {directory : Path} {w : World ε}
    (hnone : executor.compile = none) (runner : CommandRunner ε) (limit : Duration) :
    (finish runner executor directory sources limit w).2 = w := by
  rw [finish, hnone]
  cases bindings directory executor.artifact sources with
  | error fault => rfl
  | ok vars => rfl

theorem eq_of_settle {ε : Type} {directory : Path} {executable : Executable} {after : World ε}
    {result : Except BuildFault Executable × World ε}
    (h : settle directory result = (.ok executable, after)) : result = (.ok executable, after) := by
  rcases result with ⟨fault | other, w⟩
  · exact nomatch h
  · exact h

/-- **A program is built from the last file of each name.** Once there is a directory to build in
(`FileTree.exists_makeTemporary`) and all files are copied into it, the building command starts, or the program is done if there is none, with the tree that the copies left: the
names of the templates stand for the directory and the copies of the sources in order, each copy is
a file in the directory, and it has the bytes of the last of all files with the file name of its
source. So when no two files have the same name, each source is what its own copy holds. -/
theorem build_from_last {ε : Type} {executors : Executors} {executor : Executor}
    {language : String} {w : World ε} {directory : Path} {made tree : FileTree}
    (hclosed : w.files.Closed) (htemporary : w.files.get? FileTree.temporary = some .directory)
    (hexecutor : executors.get? language = some executor) (hne : sources ≠ [])
    (hmake : w.files.makeTemporary directoryName = .ok (directory, made))
    (hcopy : copyInto directory (sources ++ extra) made = .ok (copies, tree)) :
    ∃ place copied, copied = copies.take sources.length ∧ copied.length = sources.length ∧
      tree.get? place = some .directory ∧
      (∀ (runner : CommandRunner ε) (limit : Duration),
        build executors runner sources extra language limit w =
          settle (pathOf place)
            (finish runner executor (pathOf place) copied limit { w with files := tree })) ∧
      (executor.compile = none →
        ∀ (runner : CommandRunner ε) (limit : Duration) (executable : Executable) (after : World ε),
          build executors runner sources extra language limit w = (.ok executable, after) →
            after = { w with files := tree }) ∧
      (∀ vars, bindings (pathOf place) executor.artifact copied = .ok vars →
        ∀ name : CommandName, (vars name.text).bind ShellWords.split? =
          some ((name.paths (pathOf place) executor.artifact copied).map (·.text))) ∧
      (∀ (i : Nat) (source copy : Path), sources[i]? = some source → copied[i]? = some copy →
        HoldsLast place (sources ++ extra) w.files tree source copy) ∧
      (((sources ++ extra).map Path.fileName?).Nodup →
        ∀ (i : Nat) (source copy : Path), sources[i]? = some source → copied[i]? = some copy →
          ∃ content, tree.readRaw source = .ok content ∧ tree.readRaw copy = .ok content) := by
  have hname : '/' ∉ directoryName.toList := by decide
  obtain ⟨place, rfl, hopened⟩ :=
    FileTree.opened_makeTemporary hclosed htemporary hname hmake
  obtain ⟨names, hnames, hcopies, hfilled⟩ := filled_of_copyInto (receives_of_opened hopened) hcopy
  have hlength : (copies.take sources.length).length = sources.length := by
    have hall := congrArg List.length hnames
    rw [List.length_map, List.length_map, List.length_append] at hall
    rw [List.length_take, hcopies, copiesOf, List.length_map]
    omega
  have hcopied : copies.take sources.length ≠ [] := by
    intro hnil
    rw [hnil] at hlength
    exact hne (List.length_eq_zero_iff.1 hlength.symm)
  -- Each source and its copy, with the name that they have in common.
  have hpair {i : Nat} {source copy : Path} (hsource : sources[i]? = some source)
      (hcopy : (copies.take sources.length)[i]? = some copy) :
      source ∈ sources ++ extra ∧
        ∃ name, source.fileName? = some name ∧ copy = pathOf (place ++ [name]) := by
    have hi : i < sources.length := (List.getElem?_eq_some_iff.1 hsource).1
    rw [List.getElem?_take_of_lt hi, hcopies] at hcopy
    rw [← List.getElem?_append_left hi] at hsource
    exact ⟨List.mem_of_getElem? hsource, exists_name hopened.isPlace hnames hsource hcopy⟩
  have hsettle (runner : CommandRunner ε) (limit : Duration) :=
    build_eq_settle hexecutor hne hmake hcopy runner limit
  refine ⟨place, copies.take sources.length, rfl, hlength, hfilled.receives.directory, hsettle,
    fun hnone runner limit executable after hdone ↦ ?_, fun vars hvars ↦ ?_,
    fun i source copy hsource hat ↦ ?_, fun hnodup i source copy hsource hat ↦ ?_⟩
  · have hfinish := eq_of_settle ((hsettle runner limit).symm.trans hdone)
    exact (congrArg Prod.snd hfinish).symm.trans (finish_snd_of_none hnone runner limit)
  · exact (bound_of_bindings hcopied hvars).split?_eq
  · obtain ⟨hmem, name, hname, rfl⟩ := hpair hsource hat
    exact holdsLast_of_copyInto hopened hcopy hmem hname
  · obtain ⟨hmem, name, hname, rfl⟩ := hpair hsource hat
    exact reads_same_of_copyInto hopened hcopy hnodup hmem hname

/-- Three files, two of them of one name. -/
def namesakes : FileTree where
  entries := [(["tmp"], .directory), (["s"], .directory), (["s", "a"], .directory),
    (["s", "b"], .directory), (["s", "a", "v"], .file [65] false),
    (["s", "b", "v"], .file [66] false), (["s", "b", "u"], .file [67] false)]
  current := []

/-- A language whose programs show their sources. -/
def showing : Executors := ⟨[("CAT", ⟨none, "/bin/cat #\x7bsources\x7d", "main"⟩)], by decide⟩

/-- Copies files into a new directory. -/
def copyAnew (files : List Path) (t : FileTree) : Except BuildFault (List Path × FileTree) := do
  let (directory, made) ← (t.makeTemporary directoryName).mapError .noDirectory
  copyInto directory files made

theorem build_from_last_apart : ∃ directory made copies tree,
    namesakes.makeTemporary directoryName = .ok (directory, made) ∧
      copyInto directory [⟨"/s/a/v"⟩, ⟨"/s/b/u"⟩] made = .ok (copies, tree) ∧
      ∀ (i : Nat) (source copy : Path), [⟨"/s/a/v"⟩, ⟨"/s/b/u"⟩][i]? = some source →
        (copies.take 2)[i]? = some copy →
          ∃ content, tree.readRaw source = .ok content ∧ tree.readRaw copy = .ok content := by
  have hclosed : namesakes.Closed := FileTree.closed_of_entries (by decide)
  obtain ⟨⟨copies, tree⟩, hcopied⟩ :
      ∃ result, copyAnew [⟨"/s/a/v"⟩, ⟨"/s/b/u"⟩] namesakes = .ok result :=
    toBool_eq_true_iff.1 (by decide +kernel)
  obtain ⟨⟨directory, made⟩, hmake, hcopy⟩ := bind_eq_ok_iff.1 hcopied
  have hmake := mapError_eq_ok_iff.1 hmake
  obtain ⟨-, -, rfl, -, -, -, -, -, -, hsame⟩ :=
    @build_from_last [⟨"/s/a/v"⟩, ⟨"/s/b/u"⟩] [] copies Unit showing _ "CAT" ⟨namesakes, ()⟩
      directory made tree hclosed rfl rfl (List.cons_ne_nil _ _) hmake hcopy
  exact ⟨directory, made, copies, tree, hmake, hcopy, hsame (by decide +kernel)⟩

/-- **A source is lost** when a later file has its name: its copy holds the other one. -/
theorem build_from_last_namesakes :
    (copyAnew [⟨"/s/a/v"⟩, ⟨"/s/b/v"⟩] namesakes).toOption.map
      (fun (copies, tree) ↦ (tree.readRaw ⟨"/s/a/v"⟩, copies.map tree.readRaw)) =
        some (.ok [65], [.ok [66], .ok [66]]) := by
  decide +kernel

end Build

end ContestJudge
