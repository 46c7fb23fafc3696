import ContextStream.Decimal.Shortest
import Mathlib.Tactic.Common

/-!
# Shortest decimals

The shortest decimal that reads back as a positive number has digits other than zero: zero
itself is below the interval around the number.
-/

namespace ContextStream.Decimal

/-- What is nearest to the number is in the interval. -/
theorem Interval.contains_of_nearest? {interval : Interval} {count : Nat}
    (found : interval.nearest? = some count) : interval.contains count = true := by
  simp only [nearest?] at found
  split at found
  · next lower upper =>
      split at found
      · exact Option.some.inj found ▸ lower
      · exact Option.some.inj found ▸ upper
      · rw [← Option.some.inj found]
        rcases Nat.mod_two_eq_zero_or_one (interval.value / interval.denominator) with even | odd
        · rwa [even]
        · rwa [odd]
  · next lower _ => exact Option.some.inj found ▸ lower
  · next _ upper => exact Option.some.inj found ▸ upper
  · cases found

theorem Interval.not_contains_zero {interval : Interval} (positive : 0 < interval.lower) :
    interval.contains 0 = false := by
  simp [contains, Nat.ne_of_gt positive]

theorem Binary.lower_interval_pos {x : Binary} (positive : x.significand ≠ 0) (scale : Int) :
    0 < (x.interval scale).lower := by
  have ends : 0 < 4 * x.significand - if x.narrowBelow then 1 else 2 := by
    split <;> omega
  exact Nat.mul_pos ends (Nat.mul_pos (Nat.pow_pos (by decide)) (Nat.pow_pos (by decide)))

/-- A positive number is not written as zero. -/
theorem Binary.digits_shortest_ne_zero {x : Binary} (positive : x.significand ≠ 0) :
    x.shortest.digits ≠ 0 := by
  simp only [shortest]
  cases found : List.findSome? _ (List.range 24) with
  | none =>
      have exact (base n : Nat) (some? : 0 < base) : Nat.pow base n ≠ 0 :=
        Nat.ne_of_gt (Nat.pow_pos some?)
      exact Nat.mul_ne_zero (Nat.mul_ne_zero positive (exact 2 _ (by decide)))
        (exact 5 _ (by decide))
  | some shortest =>
      obtain ⟨step, -, onGrid⟩ := List.exists_of_findSome?_eq_some found
      obtain ⟨count, nearest, rfl⟩ := Option.map_eq_some_iff.mp onGrid
      intro zero
      have contained := Interval.contains_of_nearest? nearest
      rw [show count = 0 from zero,
        Interval.not_contains_zero (lower_interval_pos positive _)] at contained
      cases contained

end ContextStream.Decimal
