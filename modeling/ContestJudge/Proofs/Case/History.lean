import ContestJudge.Proofs.Case.Loading

/-!
# Data in files that change

A file may be created, overwritten, removed or made unreadable at any time, and the data of a case
may be wanted at any time. What a source answers is decided by the first call that finds a content:
before it, each call fails as the file has it at that moment and leaves the source as it was; from
then on the source holds that content, whatever becomes of the file.

Trees of files have no permissions, so histories are told by what reading a path gives, be that a
content or any fault (`Reading`). A tree is one such reading, and reading a source in a tree is
`access` at that reading (`bytes_eq_access`), so nothing here is about another function.

* `holds_of_access`, `access_of_error` — one call either makes the source hold what it answered, or
  leaves it as it was. There is no third case, in which a fault would be kept.
* `answers_ofPath` — many calls, with changes between them. The induction is on the events; once a
  call succeeds it stops, because a source that holds a content answers every later call with it
  (`Holds.answers_eq`).
-/

namespace ContestJudge

open Text (Bytes)

/-- What reading each path gives at some moment. -/
abbrev Reading := Path → Except FileFault Bytes

namespace DataSource

variable {s s' : DataSource} {read : Reading} {content : Bytes} {fault : FileFault}

/-! ### One call -/

/-- The data, and the source as it is after the access, at a moment when files read as they do. -/
def access (read : Reading) : DataSource → Except FileFault Bytes × DataSource
  | memory content => (.ok content, memory content)
  | file path (some kept) => (.ok kept, file path (some kept))
  | file path none =>
    match read path with
    | .ok content => (.ok content, file path (some content))
    | .error fault => (.error fault, file path none)

/-- In a tree files read as the tree has them. -/
theorem bytes_eq_access (files : FileTree) (s : DataSource) :
    s.bytes files = s.access files.read := by
  rcases s with content | ⟨path, - | kept⟩ <;> rfl

/-- A source **holds** a content if every call answers with it, however files read, and leaves the
source as it is. -/
def Holds (s : DataSource) (content : Bytes) : Prop :=
  ∀ read, s.access read = (.ok content, s)

theorem holds_iff : s.Holds content ↔ s.kept? = some content := by
  constructor
  · intro h
    -- a source that holds nothing fails where no file can be read
    have hfirst := congrArg Prod.fst (h fun path ↦ .error (.action .readFile path .notFound))
    rcases s with held | ⟨path, - | kept⟩
    · cases hfirst
      rfl
    · cases hfirst
    · cases hfirst
      rfl
  · intro h read
    rcases s with held | ⟨path, - | kept⟩
    · cases h
      rfl
    · cases h
    · cases h
      rfl

/-- **A call that succeeds** leaves a source that holds what it answered. -/
theorem holds_of_access (h : (s.access read).1 = .ok content) :
    (s.access read).2.Holds content := by
  rw [holds_iff]
  rcases s with held | ⟨path, - | kept⟩
  · cases h
    rfl
  · rw [access] at h ⊢
    rcases hread : read path with fault | found
    · rw [hread] at h
      cases h
    · rw [hread] at h
      cases h
      rfl
  · cases h
    rfl

/-- **A call that fails** fails as the file has it, and leaves the source as it was. -/
theorem access_of_error (h : (s.access read).1 = .error fault) :
    (s.access read).2 = s ∧ ∃ path, s = ofPath path ∧ read path = .error fault := by
  rcases s with held | ⟨path, - | kept⟩
  · cases h
  · rw [access] at h ⊢
    rcases hread : read path with found | found
    · rw [hread] at h
      cases h
      exact ⟨rfl, path, rfl, hread⟩
    · rw [hread] at h
      cases h
  · cases h

theorem Loads.holds (h : s.Loads s') (hheld : s.Holds content) : s'.Holds content :=
  holds_iff.2 (h.kept content (holds_iff.1 hheld))

/-! ### Many calls -/

/-- What happens to files and to a source. -/
inductive Event where
  /-- Files are created, overwritten, removed or made unreadable: they read otherwise from now on. -/
  | change (now : Reading)
  /-- The data is wanted. -/
  | call

/-- What a source answers, call by call. -/
def answers : DataSource → Reading → List Event → List (Except FileFault Bytes)
  | _, _, [] => []
  | s, _, .change now :: rest => s.answers now rest
  | s, read, .call :: rest => (s.access read).1 :: (s.access read).2.answers read rest

/-- How a file reads at the moment of each call. -/
def readings (path : Path) : Reading → List Event → List (Except FileFault Bytes)
  | _, [] => []
  | _, .change now :: rest => readings path now rest
  | read, .call :: rest => read path :: readings path read rest

/-- A source that holds a content answers every call with it. -/
theorem Holds.answers_eq (h : s.Holds content) (path : Path) (read : Reading)
    (events : List Event) :
    s.answers read events = (readings path read events).map fun _ ↦ .ok content := by
  induction events generalizing read with
  | nil => rfl
  | cons event rest ih =>
    cases event with
    | change now => exact ih now
    | call => rw [answers, h read, readings, List.map_cons, ih read]

/-- **A file is read once.** As long as it cannot be read, each call fails as the file has it at
that moment. The first call that finds a content answers with it, and so does every later call. -/
theorem answers_ofPath (path : Path) (read : Reading) (events : List Event) :
    ∃ failed later, readings path read events = failed ++ later ∧
      (∀ answer ∈ failed, ∃ fault, answer = .error fault) ∧
      (later = [] ∧ (ofPath path).answers read events = failed ∨
        ∃ content rest, later = .ok content :: rest ∧
          (ofPath path).answers read events =
            failed ++ .ok content :: rest.map fun _ ↦ .ok content) := by
  induction events generalizing read with
  | nil => exact ⟨[], [], rfl, nofun, .inl ⟨rfl, rfl⟩⟩
  | cons event rest ih =>
    cases event with
    | change now => exact ih now
    | call =>
      rcases hread : read path with fault | content
      · -- the source is as before, so the rest goes as if there had been no call
        obtain ⟨failed, later, hreadings, hfailed, hanswers⟩ := ih read
        have hcall : (ofPath path).access read = (.error fault, ofPath path) := by
          rw [ofPath, access, hread]
        refine ⟨.error fault :: failed, later, ?_, ?_, ?_⟩
        · rw [readings, hread, hreadings, List.cons_append]
        · exact List.forall_mem_cons.2 ⟨⟨fault, rfl⟩, hfailed⟩
        · rw [answers, hcall]
          refine hanswers.imp ?_ ?_
          · rintro ⟨hlater, heq⟩
            exact ⟨hlater, congrArg _ heq⟩
          · rintro ⟨content, more, hlater, heq⟩
            exact ⟨content, more, hlater, congrArg _ heq⟩
      · have hcall : ((ofPath path).access read).1 = .ok content := by
          rw [ofPath, access, hread]
        refine ⟨[], .ok content :: readings path read rest, ?_, nofun, .inr ⟨content, _, rfl, ?_⟩⟩
        · rw [readings, hread, List.nil_append]
        · rw [answers, hcall, (holds_of_access hcall).answers_eq path, List.nil_append]

end DataSource

end ContestJudge
