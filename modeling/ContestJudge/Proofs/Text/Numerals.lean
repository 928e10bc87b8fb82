import Mathlib.Tactic.Common

/-!
# Numerals

The numeral of a number is a run of digits, at least one, and it can be read back, so no other
number has it. Below zero there is a sign before it.
-/

namespace ContestJudge.Text

variable {m n : Nat} {c : Char}

theorem toList_toString (n : Nat) : (toString n).toList = Nat.toDigits 10 n := Nat.toList_repr

theorem isDigit_of_mem_toString (h : c ∈ (toString n).toList) : c.isDigit = true := by
  rw [toList_toString] at h
  exact Nat.isDigit_of_mem_toDigits (by decide) (by decide) h

theorem toString_ne_nil (n : Nat) : (toString n).toList ≠ [] := by
  rw [toList_toString]
  exact List.ne_nil_of_length_pos Nat.length_toDigits_pos

theorem eq_of_toString (h : (toString m).toList = (toString n).toList) : m = n := by
  have hread (n : Nat) : Nat.ofDigitChars 10 (toString n).toList 0 = n := by
    rw [toList_toString]
    exact Nat.ofDigitChars_toDigits (by decide) (by decide)
  rw [← hread m, h, hread]

/-- The numeral of an integer is that of a number, perhaps behind a sign. -/
theorem exists_intText (n : Int) :
    ∃ (sign : String) (m : Nat), (sign = "" ∨ sign = "-") ∧ toString n = sign ++ toString m := by
  have htext : toString n = n.repr := rfl
  rw [htext, Int.repr_eq_if]
  split
  · exact ⟨"", _, .inl rfl, String.empty_append.symm⟩
  · exact ⟨"-", _, .inr rfl, rfl⟩

end ContestJudge.Text
