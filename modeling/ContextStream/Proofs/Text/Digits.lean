import ContextStream.Text.Hex
import Mathlib.Algebra.Order.Ring.Nat

/-!
# Digits tell the number

An integer is written in its decimal digits, with a minus in front of them when it is
negative. A hexadecimal digit is read as it is written, and digits of a fixed number tell
every number that has no more of them.
-/

namespace ContextStream.Text

theorem toList_toString_ofNat (n : Nat) : (toString (Int.ofNat n)).toList = Nat.toDigits 10 n :=
  Nat.toList_repr

theorem toList_toString_negSucc (n : Nat) :
    (toString (Int.negSucc n)).toList = '-' :: Nat.toDigits 10 (n + 1) := by
  rw [← Nat.toList_repr]
  exact String.toList_append

namespace Hex

/-- Digits are read as they are written. -/
theorem value?_digit {n : Nat} (small : n < 16) : value? (digit n) = some n := by
  revert n
  decide

theorem value?_lt {c : Char} {n : Nat} (is : value? c = some n) : n < 16 := by
  unfold value? at is
  split at is
  · next digit =>
      cases is
      have within : c.toNat ≤ 57 := UInt32.le_iff_toNat_le.mp digit.2
      omega
  · split at is
    · next small =>
        cases is
        have within : c.toNat ≤ 102 := UInt32.le_iff_toNat_le.mp small.2
        omega
    · split at is
      · next large =>
          cases is
          have within : c.toNat ≤ 70 := UInt32.le_iff_toNat_le.mp large.2
          omega
      · cases is

@[simp]
theorem length_fixed (width n : Nat) : (fixed width n).length = width := by
  induction width generalizing n with
  | zero => rfl
  | succ width ih => simp [fixed, ih]

/-- The number that digits tell, the most significant first. -/
def number? (digits : List Char) : Option Nat :=
  digits.foldlM (fun n c => (value? c).map (16 * n + ·)) 0

theorem number?_concat (digits : List Char) (c : Char) :
    number? (digits ++ [c]) = (number? digits).bind fun n => (value? c).map (16 * n + ·) := by
  simp [number?, List.foldlM_append]

/-- Digits tell every number that has no more of them. -/
theorem number?_fixed {width n : Nat} (small : n < 16 ^ width) :
    number? (fixed width n) = some n := by
  induction width generalizing n with
  | zero =>
      rw [Nat.pow_zero, Nat.lt_one_iff] at small
      rw [small]
      rfl
  | succ width ih =>
      have front : n / 16 < 16 ^ width := Nat.div_lt_of_lt_mul (Nat.pow_succ' ▸ small)
      rw [fixed, number?_concat, ih front, value?_digit (Nat.mod_lt n (by decide))]
      simp [Nat.div_add_mod]

/-- The digits in lower case. -/
def lowerDigits : List Char :=
  ['0', '1', '2', '3', '4', '5', '6', '7', '8', '9', 'a', 'b', 'c', 'd', 'e', 'f']

theorem digit_mem_lowerDigits {n : Nat} (small : n < 16) : digit n ∈ lowerDigits := by
  revert n
  decide

theorem mem_lowerDigits_of_mem_fixed {width n : Nat} {c : Char} (cMem : c ∈ fixed width n) :
    c ∈ lowerDigits := by
  induction width generalizing n with
  | zero => cases cMem
  | succ width ih =>
      rcases List.mem_append.mp cMem with inFront | last
      · exact ih inFront
      · obtain rfl := List.mem_singleton.mp last
        exact digit_mem_lowerDigits (Nat.mod_lt n (by decide))

end Hex

end ContextStream.Text
