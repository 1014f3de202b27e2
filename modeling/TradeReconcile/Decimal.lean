import Mathlib.Tactic.Ring

/-!
# Decimal texts of natural numbers

What a reader of digits needs to know about the texts that `toString` writes: their
characters are digits, their value is the number and they are no longer than it needs.
-/

namespace Decimal

/-- The digits of a number are digits. -/
theorem toDigits_isDigit (number : Nat) : ∀ c ∈ Nat.toDigits 10 number, c.isDigit = true :=
  fun _ member => Nat.isDigit_of_mem_toDigits (by decide) (by decide) member

/-- The text of an integer: its sign and the digits of its magnitude. -/
theorem toString_toList (number : Int) :
    (toString number).toList =
      (if number < 0 then ['-'] else []) ++ Nat.toDigits 10 number.natAbs := by
  cases number with
  | ofNat magnitude =>
    rw [if_neg (by simp)]
    change magnitude.repr.toList = _
    simp
  | negSucc magnitude =>
    rw [if_pos (Int.negSucc_lt_zero magnitude)]
    change ("-" ++ (magnitude + 1).repr).toList = _
    simp

/-- A digit takes one byte. -/
theorem digitChar_utf8Size {digit : Nat} (below : digit < 10) : digit.digitChar.utf8Size = 1 := by
  revert digit
  decide

/-- The text of a number below a power of ten takes as many bytes as digits. -/
theorem repr_utf8ByteSize {number digits : Nat} (positive : 0 < digits)
    (below : number < 10 ^ digits) : number.repr.utf8ByteSize ≤ digits := by
  induction digits generalizing number with
  | zero => omega
  | succ digits inductionHypothesis =>
    by_cases small : number < 10
    · rw [Nat.repr_of_lt small, String.utf8ByteSize_singleton, digitChar_utf8Size small]
      omega
    · have first : number / 10 < 10 ^ digits := by
        rw [Nat.pow_succ] at below
        omega
      have some : 0 < digits := by
        by_contra none
        obtain rfl : digits = 0 := by omega
        omega
      have rest := inductionHypothesis some first
      rw [Nat.repr_of_ge (by omega), String.utf8ByteSize_append, String.utf8ByteSize_singleton,
        digitChar_utf8Size (Nat.mod_lt _ (by decide))]
      omega

/-- Two digits with a leading zero. -/
theorem padded_toList {value : Nat} (below : value < 100) :
    ((if value < 10 then "0" else "") ++ toString value).toList =
      [(value / 10).digitChar, (value % 10).digitChar] := by
  by_cases small : value < 10
  · have quotient : value / 10 = 0 := by omega
    have remainder : value % 10 = value := by omega
    rw [if_pos small, quotient, remainder]
    simp [Nat.toDigits_of_lt_base small]
  · rw [if_neg small]
    simp [Nat.toDigits_of_base_le (show 1 < 10 by decide) (Nat.le_of_not_lt small),
      Nat.toDigits_of_lt_base (show value / 10 < 10 by omega)]

end Decimal
