import ContestJudge.Console.Line
import ContestJudge.Proofs.Text.Numerals
import ContestJudge.Proofs.Verdict.Flags
import Mathlib.Algebra.BigOperators.Group.List.Lemmas
import Mathlib.Algebra.Ring.Nat
import Std.Data.TreeMap.Lemmas

/-!
# What the summary of a check says

The summary counts codes, and a case fails by its flags. The two agree because `accepted` is never a
flag: the reported code of a case is `accepted` exactly if the case has no flag
(`code_eq_accepted`).

## Counting

Codes are counted one by one into a map whose keys are ordered by importance. One more code counts
once more (`tally_concat`), so the map has how often each code occurs, and nothing for the others
(`getElem?_tally`); this is an induction from the end of the list, since the fold adds there. The
order of the map is that of the ranks, which tell codes apart (`rank_injective`), and so the map is
read out with the most important code first (`tallies_failureCounts`).

## Adding up

A tally of codes is also said by itself (`Tallies`): it has the codes that occur, except `accepted`,
most important first, each with the number of its occurrences. Nothing else is used of it to show
that these numbers add up to the number of failed cases (`Tallies.sum_eq`), so this holds of every
way to count.

## The line

`checkSummary_reports` puts both together, on the printed text. That the line of a check without
failures is told from the other one needs the texts themselves: they begin alike, and differ first
in a colour or, without colours, in a letter against a digit (`allPassedText_ne_someFailedText`).
-/

namespace ContestJudge

/-! ### Codes and flags -/

/-- **The reported code of a case is `accepted`** exactly if the case has no flag. -/
theorem Verdict.code_eq_accepted {v : Verdict} : v.code = .accepted ↔ v.flags.isEmpty = true := by
  refine ⟨fun hcode ↦ ?_, Flags.primary_of_isEmpty⟩
  by_contra hflags
  have hcontains : v.flags.contains v.code = true :=
    Flags.contains_primary (Bool.eq_false_iff.2 hflags)
  rw [hcode] at hcontains
  cases hcontains

namespace Record

variable {r : Record}

/-- How many cases have a flag. -/
def failures (r : Record) : Nat := r.entries.countP fun e ↦ !e.2.flags.isEmpty

theorem failures_le_size (r : Record) : r.failures ≤ r.size := List.countP_le_length

theorem failed_eq_false_iff : r.failed = false ↔ r.failures = 0 := by
  simp [failed, failures, Verdict.isAccepted, List.countP_eq_zero]

/-- A case fails exactly if its reported code is not `accepted`. -/
theorem countP_codes (r : Record) : r.codes.countP (!·.isAccepted) = r.failures := by
  rw [codes, List.countP_map, failures]
  refine List.countP_congr fun e _ ↦ ?_
  simp [Code.isAccepted, Verdict.code_eq_accepted]

end Record

namespace Code

/-! ### Codes as keys -/

theorem rank_injective : Function.Injective rank := by
  intro c d h
  cases c <;> cases d <;> first | rfl | cases h

theorem compare_eq (c d : Code) : compare c d = compare c.rank d.rank := rfl

theorem compare_eq_lt_iff {c d : Code} : compare c d = .lt ↔ c.rank < d.rank := Nat.compare_eq_lt

instance : Std.TransOrd Code where
  eq_swap {c d} := Std.OrientedOrd.eq_swap (a := c.rank) (b := d.rank)
  isLE_trans {c d e} h h' := by
    rw [compare_eq] at h h' ⊢
    exact Std.TransCmp.isLE_trans h h'

instance : Std.LawfulEqOrd Code where
  compare_self {c} := Std.ReflOrd.compare_self (a := c.rank)
  eq_of_compare {c d} h := by
    rw [compare_eq, Nat.compare_eq_eq] at h
    exact rank_injective h

end Code

namespace Console

variable {codes : List Code} {items : List (Code × Nat)}

/-! ### Tallies -/

/-- **A tally** of the codes that are not `accepted`: each that occurs is there, most important
first, with the number of its occurrences. -/
structure Tallies (codes : List Code) (items : List (Code × Nat)) : Prop where
  occurs : ∀ c, c ∈ items.map (·.1) ↔ c ∈ codes ∧ c ≠ .accepted
  ordered : items.Pairwise fun a b ↦ a.1.rank < b.1.rank
  counts : ∀ item ∈ items, item.2 = codes.count item.1 ∧ 0 < item.2

/-- One more code counts once more. -/
theorem tally_concat (codes : List Code) (code : Code) : tally (codes ++ [code]) =
    (tally codes).alter code fun count ↦ some (count.getD 0 + 1) := by
  rw [tally, List.foldl_append]
  rfl

/-- **Counting code by code** comes to how often each code occurs; a code that does not occur has no
count. -/
theorem getElem?_tally (codes : List Code) (c : Code) :
    (tally codes)[c]? = if c ∈ codes then some (codes.count c) else none := by
  induction codes using List.reverseRecOn with
  | nil => exact Std.TreeMap.getElem?_emptyc
  | append_singleton codes code ih =>
    rw [tally_concat, Std.TreeMap.getElem?_alter]
    by_cases hc : code = c
    · subst hc
      by_cases hmem : code ∈ codes
      · simp [ih, hmem]
      · simp [ih, hmem, List.count_eq_zero_of_not_mem hmem]
    · simp [ih, hc, Ne.symm hc]

theorem passedCount_tally (codes : List Code) :
    passedCount (tally codes) = codes.count .accepted := by
  rw [passedCount, Std.TreeMap.getD_eq_getD_getElem?, getElem?_tally]
  split
  · rfl
  · next hnone => exact (List.count_eq_zero_of_not_mem hnone).symm

theorem mem_failureCounts {item : Code × Nat} : item ∈ failureCounts (tally codes) ↔
    item.1 ∈ codes ∧ item.1 ≠ .accepted ∧ item.2 = codes.count item.1 := by
  obtain ⟨c, n⟩ := item
  rw [failureCounts, List.mem_filter, Std.TreeMap.mem_toList_iff_getElem?_eq_some, getElem?_tally]
  by_cases hc : c ∈ codes
  · rw [if_pos hc, Option.some.injEq, eq_comm, and_comm]
    simp [hc, Code.isAccepted]
  · simp [hc]

theorem tallies_failureCounts (codes : List Code) :
    Tallies codes (failureCounts (tally codes)) where
  occurs c := by
    rw [List.mem_map]
    constructor
    · rintro ⟨item, hitem, rfl⟩
      obtain ⟨hoccurs, hc, -⟩ := mem_failureCounts.1 hitem
      exact ⟨hoccurs, hc⟩
    · rintro ⟨hoccurs, hc⟩
      exact ⟨(c, codes.count c), mem_failureCounts.2 ⟨hoccurs, hc, rfl⟩, rfl⟩
  ordered := (Std.TreeMap.ordered_keys_toList.filter _).imp Code.compare_eq_lt_iff.1
  counts item hitem := by
    obtain ⟨hoccurs, -, hn⟩ := mem_failureCounts.1 hitem
    rw [hn]
    exact ⟨rfl, List.count_pos_iff.2 hoccurs⟩

/-- A case passes or fails. -/
theorem passedCount_add_failures (r : Record) : passedCount (tally r.codes) + r.failures = r.size := by
  have hlength : r.codes.length = r.size := List.length_map _
  have hfailures : r.failures = r.codes.countP fun c ↦ ¬(c == .accepted) = true := by
    rw [← r.countP_codes]
    refine List.countP_congr fun c _ ↦ ?_
    simp [Code.isAccepted]
  rw [passedCount_tally, List.count, hfailures, ← List.length_eq_countP_add_countP, hlength]

/-- **A tally adds up** to the number of codes that are not `accepted`. -/
theorem Tallies.sum_eq (h : Tallies codes items) :
    (items.map (·.2)).sum = codes.countP (!·.isAccepted) := by
  have hcounts : items.map (·.2) = (items.map (·.1)).map codes.count := by
    rw [List.map_map]
    exact List.map_congr_left fun item hitem ↦ (h.counts item hitem).1
  have hnodup : (items.map (·.1)).Nodup :=
    List.pairwise_map.2 (h.ordered.imp fun hlt heq ↦ absurd hlt (by rw [heq]; exact Nat.lt_irrefl _))
  -- the codes of the tally are those that occur, each once
  have hperm : (items.map (·.1)).Perm (codes.dedup.filter (!·.isAccepted)) := by
    refine (List.perm_ext_iff_of_nodup hnodup (codes.nodup_dedup.filter _)).2 fun c ↦ ?_
    rw [h.occurs, List.mem_filter, List.mem_dedup]
    simp [Code.isAccepted]
  rw [hcounts, (hperm.map _).sum_eq, List.sum_map_count_dedup_filter_eq_countP]

/-! ### The line -/

/-- The line for a check that all tests passed. -/
def allPassedText (palette : Palette) (total : Nat) : String :=
  "----- " ++ ({ foreground := some .green } : Style).apply palette s!"All {total} tests passed"
    ++ " -----\n"

/-- The line for a check that some tests failed, with how many did for each code. -/
def someFailedText (palette : Palette) (failures total : Nat) (items : List (Code × Nat)) :
    String :=
  let counts := ", ".intercalate (items.map fun (c, n) ↦ tallyItem palette c n)
  "----- " ++ (({ foreground := some .brightRed } : Style).apply palette
    s!"{failures}/{total} tests failed" ++ (" (" ++ counts ++ ")")) ++ " -----\n"

theorem exists_apply_eq {palette : Palette} {s : Style} (hcolors : palette.colors = true)
    (hcodes : s.codes.isEmpty = false) (text : String) :
    ∃ rest, s.apply palette text = s.escape ++ rest := by
  refine ⟨(reset ++ s.escape).intercalate (text.splitOn reset) ++ reset, ?_⟩
  rw [Style.apply, if_neg (by simp [hcolors, hcodes]), String.append_assoc]

/-- **The two lines cannot be taken for one another**: they begin with another colour, or, without
colours, with a letter and with a digit. -/
theorem allPassedText_ne_someFailedText (palette : Palette) (total failures whole : Nat)
    (items : List (Code × Nat)) :
    allPassedText palette total ≠ someFailedText palette failures whole items := by
  intro h
  rw [allPassedText, someFailedText, String.append_left_inj, String.append_right_inj] at h
  rcases hcolors : palette.colors with - | -
  · have hplain (s : Style) (text : String) : s.apply palette text = text :=
      if_pos (.inl (by rw [hcolors]; rfl))
    obtain ⟨digit, rest, hdigits⟩ := List.exists_cons_of_ne_nil (Text.toString_ne_nil failures)
    have hdigit : digit.isDigit = true :=
      Text.isDigit_of_mem_toString (hdigits ▸ List.mem_cons_self)
    have hheads := congrArg (·.toList.head?) h
    simp only [hplain, String.toList_append, hdigits, List.cons_append, List.head?_cons] at hheads
    obtain rfl : 'A' = digit := Option.some.inj hheads
    exact absurd hdigit (by decide)
  · obtain ⟨rest, hgreen⟩ := exists_apply_eq (s := { foreground := some .green }) hcolors rfl
      s!"All {total} tests passed"
    obtain ⟨rest', hred⟩ := exists_apply_eq (s := { foreground := some .brightRed }) hcolors rfl
      s!"{failures}/{whole} tests failed"
    have hgreenCode : ({ foreground := some .green } : Style).escape.toList =
        ['\x1b', '[', '3', '2', 'm'] := by decide
    have hredCode : ({ foreground := some .brightRed } : Style).escape.toList =
        ['\x1b', '[', '9', '1', 'm'] := by decide
    have hlist := congrArg String.toList h
    rw [hgreen, hred, String.append_assoc, String.toList_append, String.toList_append, hgreenCode,
      hredCode] at hlist
    simp at hlist

theorem text_checkSummary (palette : Palette) (r : Record) :
    (Line.checkSummary r).text palette =
      if r.failures = 0 then allPassedText palette r.size
      else someFailedText palette r.failures r.size (failureCounts (tally r.codes)) := by
  have htotal := passedCount_add_failures r
  have htext : (Line.checkSummary r).text palette = checkSummaryText palette r ++ "\n" := rfl
  have hpassed : passedCount (tally r.codes) = r.size ↔ r.failures = 0 := by omega
  have hfailures : r.size - passedCount (tally r.codes) = r.failures := by omega
  rw [htext, checkSummaryText]
  simp only [hpassed, hfailures]
  split
  · rw [allPassedText, String.append_assoc]
    rfl
  · rw [someFailedText]
    simp only [String.append_assoc]
    rfl

/-- **What the summary of a check says**, in any palette. It says that all tests passed exactly if
the record does not fail, and then how many there are. Otherwise it says how many cases have a flag,
of how many, with a tally of the reported codes, which adds up to the cases that have a flag. -/
theorem checkSummary_reports (palette : Palette) (r : Record) :
    ((∃ total, (Line.checkSummary r).text palette = allPassedText palette total) ↔
      r.failed = false) ∧
    (r.failed = false → (Line.checkSummary r).text palette = allPassedText palette r.size) ∧
    (r.failed = true → 1 ≤ r.failures ∧ r.failures ≤ r.size ∧ ∃ items,
      (Line.checkSummary r).text palette = someFailedText palette r.failures r.size items ∧
      Tallies r.codes items ∧ (items.map (·.2)).sum = r.failures) := by
  have hpassed (h : r.failed = false) :
      (Line.checkSummary r).text palette = allPassedText palette r.size := by
    rw [text_checkSummary, if_pos (Record.failed_eq_false_iff.1 h)]
  have hfailed (h : r.failed = true) : r.failures ≠ 0 ∧ (Line.checkSummary r).text palette =
      someFailedText palette r.failures r.size (failureCounts (tally r.codes)) := by
    have hne : r.failures ≠ 0 := by
      rw [← Bool.not_eq_false] at h
      exact mt Record.failed_eq_false_iff.2 h
    rw [text_checkSummary, if_neg hne]
    exact ⟨hne, rfl⟩
  refine ⟨⟨fun ⟨total, htext⟩ ↦ ?_, fun h ↦ ⟨_, hpassed h⟩⟩, hpassed, fun h ↦ ?_⟩
  · by_contra h
    rw [(hfailed (eq_true_of_ne_false h)).2] at htext
    exact allPassedText_ne_someFailedText _ _ _ _ _ htext.symm
  · obtain ⟨hne, htext⟩ := hfailed h
    have htallies := tallies_failureCounts r.codes
    exact ⟨Nat.one_le_iff_ne_zero.2 hne, r.failures_le_size, _, htext, htallies,
      htallies.sum_eq.trans r.countP_codes⟩

/-- A case that reached two limits, an accepted one, and two wrong answers. -/
def mixedRecord : Record :=
  let entry (number : Nat) (codes : List Code) : CaseId × Verdict :=
    (⟨number, none, number⟩, .ofFlags (.ofList codes) "" 1 none)
  ⟨[entry 1 [.timeLimit, .wallTimeLimit], entry 2 [], entry 3 [.wrongAnswer],
    entry 4 [.wrongAnswer]]⟩

/-- The case that reached two limits counts once. -/
theorem checkSummary_reports_mixed :
    (Line.checkSummary mixedRecord).text ⟨false, false, none⟩ =
        "----- 3/4 tests failed ( WTLE x1,  WA x2) -----\n" ∧
      ∃ items, (Line.checkSummary mixedRecord).text ⟨false, false, none⟩ =
        someFailedText ⟨false, false, none⟩ 3 4 items ∧ (items.map (·.2)).sum = 3 := by
  obtain ⟨-, -, hfailed⟩ := checkSummary_reports ⟨false, false, none⟩ mixedRecord
  obtain ⟨-, -, items, htext, -, hsum⟩ := hfailed (by decide)
  exact ⟨by decide +kernel, items, htext, hsum⟩

end Console

end ContestJudge
