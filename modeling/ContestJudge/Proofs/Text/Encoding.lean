import ContestJudge.Proofs.Text.Breaks
import Mathlib.Tactic.IntervalCases

/-!
# Text that is written and read again

A text is written in UTF-8 one character after the other, in one to four bytes each. The first byte
promises what follows (`Lead.ofByte?`), and what follows keeps the promise, also where the table
narrows the range of the second byte: a character is never written in more bytes than it needs, and
no surrogate is a character. So each character is read as itself, whatever stands behind it
(`scan_encodeChar_append`), and every text as itself (`decode?_encode`).

There is a lemma for each number of bytes (`scan_two`, `scan_three`, `scan_four`), over the numbers
that take so many. In each, the first byte is looked up in the table once, and the bytes that follow
add six bits each, most of them with the whole range (`takeTails_ofNat_mod`), and the second one
with the range that the first byte leaves it (`narrowed_range`).

The other direction is not claimed: many sequences of bytes are read as one text, since what is
malformed is replaced.
-/

namespace ContestJudge.Text.Utf8

variable {low high : UInt8} {n value : Nat} {rest : Bytes}

/-! ### The bytes of a character -/

theorem toNat_ofNat_byte (h : n < 256) : (UInt8.ofNat n).toNat = n :=
  UInt8.toNat_ofNat_of_lt h

theorem ofByte?_ofNat_one (h : n ≤ 127) :
    Lead.ofByte? (UInt8.ofNat n) = some ⟨n, 0, 0x80, 0xBF⟩ := by
  have hbyte : (UInt8.ofNat n).toNat = n := toNat_ofNat_byte (by omega)
  have hlt : UInt8.ofNat n < 0x80 := by
    rw [UInt8.lt_iff_toNat_lt, hbyte]
    exact Nat.lt_succ_of_le h
  rw [Lead.ofByte?, if_pos hlt, hbyte]

/-- The first of two bytes is never one of an overlong form. -/
theorem ofByte?_ofNat_two (hlow : 2 ≤ n) (hhigh : n < 32) :
    Lead.ofByte? (UInt8.ofNat (n + 192)) = some ⟨n, 1, 0x80, 0xBF⟩ := by
  interval_cases n <;> rfl

/-- The first of three bytes narrows the second one below the first character that takes three, and
at the surrogates. -/
theorem ofByte?_ofNat_three (h : n < 16) :
    Lead.ofByte? (UInt8.ofNat (n + 224)) =
      some ⟨n, 2, if n = 0 then 0xA0 else 0x80, if n = 13 then 0x9F else 0xBF⟩ := by
  interval_cases n <;> rfl

/-- The first of four bytes narrows the second one below the first character that takes four, and
above the last character of all. -/
theorem ofByte?_ofNat_four (h : n ≤ 4) :
    Lead.ofByte? (UInt8.ofNat (n + 240)) =
      some ⟨n, 3, if n = 0 then 0x90 else 0x80, if n = 4 then 0x8F else 0xBF⟩ := by
  interval_cases n <;> rfl

/-- A following byte in its range adds six bits. -/
theorem takeTails_ofNat {count : Nat} (h : n < 64) (hlow : low.toNat ≤ n + 128)
    (hhigh : n + 128 ≤ high.toNat) :
    takeTails (count + 1) low high value (UInt8.ofNat (n + 128) :: rest) =
      takeTails count 0x80 0xBF (value * 64 + n) rest := by
  have hbyte : (UInt8.ofNat (n + 128)).toNat = n + 128 := toNat_ofNat_byte (by omega)
  have hrange : low ≤ UInt8.ofNat (n + 128) ∧ UInt8.ofNat (n + 128) ≤ high := by
    rw [UInt8.le_iff_toNat_le, UInt8.le_iff_toNat_le, hbyte]
    exact ⟨hlow, hhigh⟩
  have hbits : (n + 128) % 64 = n := by omega
  rw [takeTails, if_pos hrange, hbyte, hbits]

/-- A following byte whose range is not narrowed. -/
theorem takeTails_ofNat_mod {count : Nat} (n : Nat) :
    takeTails (count + 1) 0x80 0xBF value (UInt8.ofNat (n % 64 + 128) :: rest) =
      takeTails count 0x80 0xBF (value * 64 + n % 64) rest := by
  have hlt : n % 64 < 64 := Nat.mod_lt n (by decide)
  have hhigh : (0xBF : UInt8).toNat = 191 := rfl
  exact takeTails_ofNat hlt (Nat.le_add_left ..) (by omega)

/-- The second byte stays in its range if it does so where the first one narrows it. -/
theorem narrowed_range (first last : Nat) (narrowLow narrowHigh : UInt8) (h : n < 64)
    (hlow : first = 0 → narrowLow.toNat ≤ n + 128)
    (hhigh : first = last → n + 128 ≤ narrowHigh.toNat) :
    (if first = 0 then narrowLow else 0x80).toNat ≤ n + 128 ∧
      n + 128 ≤ (if first = last then narrowHigh else 0xBF).toNat := by
  have hwide : (0x80 : UInt8).toNat = 128 ∧ (0xBF : UInt8).toNat = 191 := ⟨rfl, rfl⟩
  constructor
  · split
    · next hfirst => exact hlow hfirst
    · omega
  · split
    · next hfirst => exact hhigh hfirst
    · omega

/-! ### Characters -/

theorem scan_of_takeTails {b : UInt8} {bits tails : Nat} {bytes : Bytes}
    (hlead : Lead.ofByte? b = some ⟨bits, tails, low, high⟩)
    (htails : takeTails tails low high bits bytes = (some n, rest)) :
    scan (b :: bytes) = some (Char.ofNat n) :: scan rest := by
  have hnext : next b bytes = (some (Char.ofNat n), rest) := by
    rw [next, hlead]
    simp only [htails, Option.map_some]
  rw [scan_cons, hnext]

theorem scan_two (hmore : 127 < n) (h : n ≤ 2047) :
    scan (UInt8.ofNat (n / 64 % 32 + 192) :: UInt8.ofNat (n % 64 + 128) :: rest) =
      some (Char.ofNat n) :: scan rest := by
  have hlead := ofByte?_ofNat_two (n := n / 64 % 32) (by omega) (by omega)
  have hbits : n / 64 % 32 * 64 + n % 64 = n := by omega
  rw [scan_of_takeTails hlead (takeTails_ofNat_mod n), hbits]

theorem scan_three (hmore : 2047 < n) (h : n ≤ 65535) (hvalid : n < 0xD800 ∨ 0xDFFF < n) :
    scan (UInt8.ofNat (n / 4096 % 16 + 224) :: UInt8.ofNat (n / 64 % 64 + 128) ::
        UInt8.ofNat (n % 64 + 128) :: rest) =
      some (Char.ofNat n) :: scan rest := by
  have hlead := ofByte?_ofNat_three (n := n / 4096 % 16) (by omega)
  have hsecond : n / 64 % 64 < 64 := Nat.mod_lt _ (by decide)
  -- below `0x800` two bytes are enough, and no character lies from `0xD800` to `0xDFFF`
  have hlow : n / 4096 % 16 = 0 → 160 ≤ n / 64 % 64 + 128 := by omega
  have hhigh : n / 4096 % 16 = 13 → n / 64 % 64 + 128 ≤ 159 := by omega
  have hrange := narrowed_range (n / 4096 % 16) 13 0xA0 0x9F hsecond hlow hhigh
  have hbits : (n / 4096 % 16 * 64 + n / 64 % 64) * 64 + n % 64 = n := by omega
  rw [scan_of_takeTails hlead ((takeTails_ofNat hsecond hrange.1 hrange.2).trans
    (takeTails_ofNat_mod n)), hbits]

theorem scan_four (hmore : 65535 < n) (h : n < 0x110000) :
    scan (UInt8.ofNat (n / 262144 % 8 + 240) :: UInt8.ofNat (n / 4096 % 64 + 128) ::
        UInt8.ofNat (n / 64 % 64 + 128) :: UInt8.ofNat (n % 64 + 128) :: rest) =
      some (Char.ofNat n) :: scan rest := by
  have hlead := ofByte?_ofNat_four (n := n / 262144 % 8) (by omega)
  have hsecond : n / 4096 % 64 < 64 := Nat.mod_lt _ (by decide)
  -- below `0x10000` three bytes are enough, and no character lies from `0x110000` on
  have hlow : n / 262144 % 8 = 0 → 144 ≤ n / 4096 % 64 + 128 := by omega
  have hhigh : n / 262144 % 8 = 4 → n / 4096 % 64 + 128 ≤ 143 := by omega
  have hrange := narrowed_range (n / 262144 % 8) 4 0x90 0x8F hsecond hlow hhigh
  have hbits :
      ((n / 262144 % 8 * 64 + n / 4096 % 64) * 64 + n / 64 % 64) * 64 + n % 64 = n := by omega
  rw [scan_of_takeTails hlead (((takeTails_ofNat hsecond hrange.1 hrange.2).trans
    (takeTails_ofNat_mod (n / 64))).trans (takeTails_ofNat_mod n)), hbits]

/-- **A character is read as itself**, whatever follows it. -/
theorem scan_encodeChar_append (c : Char) (rest : Bytes) :
    scan (String.utf8EncodeChar c ++ rest) = some c :: scan rest := by
  have hvalid : c.val.toNat < 0xD800 ∨ 0xDFFF < c.val.toNat ∧ c.val.toNat < 0x110000 := c.valid
  have hc : Char.ofNat c.val.toNat = c := Char.ofNat_toNat c
  rw [String.utf8EncodeChar]
  generalize c.val.toNat = v at hvalid hc
  subst hc
  split_ifs with hone htwo hthree
  · exact scan_of_takeTails (ofByte?_ofNat_one hone) rfl
  · exact scan_two (by omega) htwo
  · exact scan_three (by omega) hthree (by omega)
  · exact scan_four (by omega) (by omega)

/-! ### Texts -/

theorem toList_loop (bytes : ByteArray) (i : Nat) (seen : Bytes) :
    ByteArray.toList.loop bytes i seen = seen.reverse ++ bytes.data.toList.drop i := by
  fun_induction ByteArray.toList.loop bytes i seen with
  | case1 i seen h ih =>
    have hi : i < bytes.data.toList.length := h
    rw [ih, List.drop_eq_getElem_cons hi]
    simp [ByteArray.get!, h]
  | case2 i seen h =>
    have hi : bytes.data.toList.length ≤ i := Nat.le_of_not_lt h
    rw [List.drop_eq_nil_of_le hi, List.append_nil]

/-- A text is written one character after the other. -/
theorem encode_eq_flatMap (text : String) :
    encode text = text.toList.flatMap String.utf8EncodeChar := by
  conv_lhs => rw [← String.ofList_toList (s := text)]
  rw [encode, ByteArray.toList, toList_loop]
  exact List.toList_data_toByteArray

theorem scan_encode (text : String) : scan (encode text) = text.toList.map some := by
  rw [encode_eq_flatMap]
  induction text.toList with
  | nil => exact scan_nil
  | cons c cs ih => rw [List.flatMap_cons, scan_encodeChar_append, ih, List.map_cons]

/-- **A text that is written is read as itself.** -/
theorem decode?_encode (text : String) : decode? (encode text) = some text := by
  have hall (cs : List Char) : List.mapM (m := Option) id (cs.map some) = some cs := by
    induction cs with
    | nil => rfl
    | cons c cs ih => rw [List.map_cons, List.mapM_cons, ih]; rfl
  rw [decode?, scan_encode, hall, Option.map_some, String.ofList_toList]

end ContestJudge.Text.Utf8
