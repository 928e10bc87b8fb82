import ContestJudge.Text.Display
import Mathlib.Data.List.DropRight

/-!
# Line feeds in captured output

Captured output becomes a text in two steps: it is decoded, and the blanks at its end are removed.
Decoding works through the bytes piece by piece, where a piece is a character or a malformed start
of one. No piece spans a line feed, and no other piece is decoded as one. So decoding leaves line
feeds exactly where they are (`Utf8.scan_append_feed`), and what is removed at the end takes away
just those that nothing visible follows (`feed_mem_display_iff`).

What a first byte promises is said as far as line feeds are concerned (`Utf8.Lead.Sound`), and
checked for every byte (`Utf8.Lead.sound_of_ofByte?`). After that only the ranges count: bytes that
follow a first byte are no line feeds (`Utf8.takeTails_append_feed`), and what is made of several
bytes is too great for one (`Utf8.takeTails_ge`).

Malformed bytes are shown by a mark that is neither a line feed nor a blank. So bytes that are no
text change nothing about which line feeds are shown.
-/

namespace ContestJudge.Text

namespace Utf8

/-- The byte of a line feed. -/
def feed : UInt8 := 0x0A

variable {b : UInt8} {lead : Lead} {low high : UInt8} {bytes front rest : Bytes}

/-! ### First bytes -/

/-- What a first byte promises, as far as line feeds are concerned. -/
structure Lead.Sound (b : UInt8) (lead : Lead) : Prop where
  /-- Only bytes from `0x80` on follow it. -/
  low : 0x80 ≤ lead.low
  /-- Only bytes up to `0xBF` follow it. -/
  high : lead.high ≤ 0xBF
  /-- A byte that nothing follows is a character of its own. -/
  alone : lead.tails = 0 → lead.bits = b.toNat
  /-- With the byte that follows it, any other is too great for a line feed. -/
  followed : lead.tails ≠ 0 → 0 < lead.bits ∨ 0x90 ≤ lead.low

theorem Lead.sound_of_ofByte? (h : ofByte? b = some lead) : lead.Sound b := by
  have hlow : (0x80 : UInt8) ≤ 0xA0 ∧ (0x80 : UInt8) ≤ 0x90 := by decide
  have hhigh : (0x9F : UInt8) ≤ 0xBF ∧ (0x8F : UInt8) ≤ 0xBF := by decide
  have hnarrow : (0x90 : UInt8) ≤ 0xA0 := by decide
  revert h
  unfold ofByte?
  -- one case for each row of the table that promises something
  repeat' split
  all_goals
    intro h
    cases h
  · exact ⟨UInt8.le_refl _, UInt8.le_refl _, fun _ ↦ rfl, fun h ↦ absurd rfl h⟩
  · refine ⟨UInt8.le_refl _, UInt8.le_refl _, nofun, fun _ ↦ .inl ?_⟩
    simp only [UInt8.lt_iff_toNat_lt, UInt8.reduceToNat] at *
    omega
  · exact ⟨hlow.1, UInt8.le_refl _, nofun, fun _ ↦ .inr hnarrow⟩
  · exact ⟨UInt8.le_refl _, hhigh.1, nofun, fun _ ↦ .inl (by decide)⟩
  · refine ⟨UInt8.le_refl _, UInt8.le_refl _, nofun, fun _ ↦ .inl ?_⟩
    simp only [UInt8.lt_iff_toNat_lt, UInt8.reduceToNat, ← UInt8.toNat_inj] at *
    omega
  · exact ⟨hlow.2, UInt8.le_refl _, nofun, fun _ ↦ .inr (UInt8.le_refl _)⟩
  · refine ⟨UInt8.le_refl _, UInt8.le_refl _, nofun, fun _ ↦ .inl ?_⟩
    simp only [UInt8.lt_iff_toNat_lt, UInt8.reduceToNat, ← UInt8.toNat_inj] at *
    omega
  · exact ⟨UInt8.le_refl _, hhigh.2, nofun, fun _ ↦ .inl (by decide)⟩

/-! ### Characters of several bytes -/

theorem value_ge {value : Nat} (hvalue : 0 < value ∨ 0x90 ≤ low) (hlow : low ≤ b)
    (hhigh : b ≤ high) (hmax : high ≤ 0xBF) : 16 ≤ value * 64 + b.toNat % 64 := by
  simp only [UInt8.le_iff_toNat_le, UInt8.reduceToNat] at *
  omega

/-- A character of several bytes is no line feed. -/
theorem takeTails_ge {count value result : Nat} (hvalue : 0 < value ∨ 0x90 ≤ low)
    (hmax : high ≤ 0xBF) (h : takeTails (count + 1) low high value bytes = (some result, rest)) :
    16 ≤ result := by
  induction count generalizing low high value bytes with
  | zero =>
    cases bytes with
    | nil => cases h
    | cons b bytes =>
      rw [takeTails] at h
      split at h
      · next hb =>
        rw [takeTails] at h
        cases h
        exact value_ge hvalue hb.1 hb.2 hmax
      · cases h
  | succ count ih =>
    cases bytes with
    | nil => cases h
    | cons b bytes =>
      rw [takeTails] at h
      split at h
      · next hb =>
        have hge := value_ge hvalue hb.1 hb.2 hmax
        exact ih (.inl (by omega)) (UInt8.le_refl _) h
      · cases h

/-- **No piece spans a line feed**: what follows a first byte ends before it. -/
theorem takeTails_append_feed (hlow : 0x80 ≤ low) (count : Nat) (high : UInt8) (value : Nat)
    (front rest : Bytes) :
    takeTails count low high value (front ++ feed :: rest) =
      ((takeTails count low high value front).1,
        (takeTails count low high value front).2 ++ feed :: rest) := by
  induction front generalizing count low high value with
  | nil =>
    have hfeed : ¬(low ≤ feed ∧ feed ≤ high) := by
      intro h
      have hbyte : (0x80 : UInt8) ≤ feed := UInt8.le_trans hlow h.1
      exact absurd hbyte (by decide)
    cases count with
    | zero => rfl
    | succ count => exact if_neg hfeed
  | cons b front ih =>
    cases count with
    | zero => rfl
    | succ count =>
      rw [List.cons_append, takeTails, takeTails]
      split
      · exact ih (by decide) count _ _
      · rfl

/-! ### Pieces -/

theorem next_append_feed (b : UInt8) (front rest : Bytes) :
    next b (front ++ feed :: rest) = ((next b front).1, (next b front).2 ++ feed :: rest) := by
  unfold next
  rcases hlead : Lead.ofByte? b with - | lead
  · rfl
  · simp only [takeTails_append_feed (Lead.sound_of_ofByte? hlead).low]

theorem next_feed (rest : Bytes) : next feed rest = (some '\n', rest) := rfl

theorem ofNat_eq_feed {n : Nat} (h : Char.ofNat n = '\n') : n = 10 := by
  by_cases hvalid : n.isValidChar
  · rw [Char.ofNat, dif_pos hvalid] at h
    exact congrArg Char.toNat h
  · rw [Char.ofNat, dif_neg hvalid] at h
    cases h

/-- **Only a line feed is decoded as one.** -/
theorem eq_feed_of_next (h : (next b rest).1 = some '\n') : b = feed := by
  unfold next at h
  rcases hlead : Lead.ofByte? b with - | lead
  · rw [hlead] at h
    cases h
  have hsound := Lead.sound_of_ofByte? hlead
  simp only [hlead] at h
  rcases htails : takeTails lead.tails lead.low lead.high lead.bits rest with ⟨value, rest'⟩
  rw [htails] at h
  obtain ⟨n, rfl, hn⟩ := Option.map_eq_some_iff.1 h
  obtain rfl := ofNat_eq_feed hn
  rcases hcount : lead.tails with - | count
  · rw [hcount, takeTails] at htails
    obtain ⟨hvalue, -⟩ := Prod.mk.inj htails
    have hbyte : b.toNat = 10 := (hsound.alone hcount).symm.trans (Option.some.inj hvalue)
    exact UInt8.toNat_inj.1 hbyte
  · rw [hcount] at htails
    have hge := takeTails_ge (hsound.followed (by omega)) hsound.high htails
    omega

theorem scanOnto_eq (seen : List (Option Char)) (bytes : Bytes) :
    scanOnto seen bytes = seen.reverse ++ scan bytes := by
  induction hlength : bytes.length using Nat.strong_induction_on generalizing seen bytes with
  | _ n ih =>
    cases bytes with
    | nil => simp [scanOnto, scan]
    | cons b rest =>
      have hshorter : (next b rest).2.length < n := by
        have hle := length_next_le b rest
        rw [List.length_cons] at hlength
        omega
      rw [scan, scanOnto, scanOnto, ih _ hshorter _ _ rfl, ih _ hshorter [_] _ rfl]
      simp

@[simp] theorem scan_nil : scan [] = [] := by
  rw [scan, scanOnto, List.reverse_nil]

/-- The pieces of some bytes are the first one, and then those of what follows it. -/
theorem scan_cons (b : UInt8) (rest : Bytes) :
    scan (b :: rest) = (next b rest).1 :: scan (next b rest).2 := by
  rw [scan, scanOnto, scanOnto_eq]
  rfl

/-- **Line feeds are decoded as they stand.** -/
theorem scan_append_feed (front rest : Bytes) :
    scan (front ++ feed :: rest) = scan front ++ some '\n' :: scan rest := by
  induction hlength : front.length using Nat.strong_induction_on generalizing front with
  | _ n ih =>
    cases front with
    | nil => rw [List.nil_append, scan_cons, next_feed, scan_nil, List.nil_append]
    | cons b front =>
      have hshorter : (next b front).2.length < n := by
        have hle := length_next_le b front
        rw [List.length_cons] at hlength
        omega
      rw [List.cons_append, scan_cons, next_append_feed, ih _ hshorter _ rfl, scan_cons,
        List.cons_append]

theorem takeTails_suffix (count : Nat) (low high : UInt8) (value : Nat) (bytes : Bytes) :
    (takeTails count low high value bytes).2 <:+ bytes := by
  induction bytes generalizing count low high value with
  | nil => cases count <;> exact List.suffix_refl _
  | cons b rest ih =>
    cases count with
    | zero => exact List.suffix_refl _
    | succ count =>
      rw [takeTails]
      split
      · exact (ih ..).trans (List.suffix_cons b rest)
      · exact List.suffix_refl _

theorem next_suffix (b : UInt8) (rest : Bytes) : (next b rest).2 <:+ rest := by
  unfold next
  split
  · exact List.suffix_refl _
  · exact takeTails_suffix ..

/-- A decoded line feed stands in the bytes. -/
theorem feed_mem_of_mem_scan (h : some '\n' ∈ scan bytes) : feed ∈ bytes := by
  induction hlength : bytes.length using Nat.strong_induction_on generalizing bytes with
  | _ n ih =>
    cases bytes with
    | nil =>
      rw [scan_nil] at h
      cases h
    | cons b rest =>
      rw [scan_cons] at h
      rcases List.mem_cons.1 h with hfirst | hlater
      · rw [eq_feed_of_next hfirst.symm]
        exact List.mem_cons_self
      · have hshorter : (next b rest).2.length < n := by
          have hle := length_next_le b rest
          rw [List.length_cons] at hlength
          omega
        have hmem := ih _ hshorter hlater rfl
        exact List.mem_cons_of_mem b ((next_suffix b rest).subset hmem)

theorem toList_decodeLossy (bytes : Bytes) :
    (decodeLossy bytes).toList = (scan bytes).map (·.getD replacement) := by
  rw [decodeLossy, String.toList_ofList]

/-- **Decoded text has the line feeds of the bytes**, each at its place. -/
theorem decodeLossy_append_feed (front rest : Bytes) :
    (decodeLossy (front ++ feed :: rest)).toList =
      (decodeLossy front).toList ++ '\n' :: (decodeLossy rest).toList := by
  rw [toList_decodeLossy, scan_append_feed, List.map_append, List.map_cons,
    toList_decodeLossy, toList_decodeLossy]
  rfl

theorem feed_mem_of_mem_decodeLossy (h : '\n' ∈ (decodeLossy bytes).toList) : feed ∈ bytes := by
  rw [toList_decodeLossy] at h
  obtain ⟨piece, hpiece, hfeed⟩ := List.mem_map.1 h
  refine feed_mem_of_mem_scan ?_
  cases piece with
  | none => exact absurd hfeed (by decide)
  | some c =>
    obtain rfl : c = '\n' := hfeed
    exact hpiece

end Utf8

/-! ### What is shown -/

theorem toList_trimEnd (text : String) :
    (trimEnd text).toList = text.toList.rdropWhile isBlank := by
  rw [trimEnd, String.toList_ofList]
  rfl

/-- Blanks are removed up to what is visible. -/
theorem rdropWhile_append {α : Type} {p : α → Bool} (l l' : List α) :
    (l ++ l').rdropWhile p =
      if l'.rdropWhile p = [] then l.rdropWhile p else l ++ l'.rdropWhile p := by
  unfold List.rdropWhile
  rw [List.reverse_append, List.dropWhile_append]
  simp only [List.isEmpty_iff, List.reverse_eq_nil_iff]
  split
  · rfl
  · rw [List.reverse_append, List.reverse_reverse]

theorem toList_display (bytes : Bytes) :
    (display bytes).toList = (Utf8.decodeLossy bytes).toList.rdropWhile isBlank :=
  toList_trimEnd _

theorem display_eq_empty_iff {bytes : Bytes} :
    display bytes = "" ↔ (Utf8.decodeLossy bytes).toList.rdropWhile isBlank = [] := by
  rw [← toList_display, String.toList_eq_nil_iff]

/-- A line feed is shown with what is before it, if something visible follows. -/
theorem toList_display_append_feed (front rest : Bytes) :
    (display (front ++ Utf8.feed :: rest)).toList =
      if display rest = "" then (display front).toList
      else (Utf8.decodeLossy front).toList ++ '\n' :: (display rest).toList := by
  have hfeed : ['\n'].rdropWhile isBlank = [] := by decide
  rw [toList_display, Utf8.decodeLossy_append_feed, rdropWhile_append, ← List.singleton_append,
    rdropWhile_append, hfeed]
  simp only [display_eq_empty_iff, toList_display]
  split
  · exact if_pos rfl
  · exact if_neg (List.cons_ne_nil _ _)

/-- **Which line feeds are shown**: those that something visible follows. -/
theorem feed_mem_display_iff {bytes : Bytes} :
    '\n' ∈ (display bytes).toList ↔
      ∃ front rest, bytes = front ++ Utf8.feed :: rest ∧ display rest ≠ "" := by
  constructor
  · intro h
    have hmem : Utf8.feed ∈ bytes := by
      rw [toList_display] at h
      exact Utf8.feed_mem_of_mem_decodeLossy ((List.rdropWhile_prefix _ _).subset h)
    -- nothing before the first line feed is shown as one
    obtain ⟨front, rest, rfl, hfirst⟩ := List.eq_append_cons_of_mem hmem
    refine ⟨front, rest, rfl, fun hblank ↦ ?_⟩
    rw [toList_display_append_feed, if_pos hblank, toList_display] at h
    exact hfirst (Utf8.feed_mem_of_mem_decodeLossy ((List.rdropWhile_prefix _ _).subset h))
  · rintro ⟨front, rest, rfl, hvisible⟩
    rw [toList_display_append_feed, if_neg hvisible]
    exact List.mem_append_right _ List.mem_cons_self

end ContestJudge.Text
