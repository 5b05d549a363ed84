import Mathlib.Data.Nat.Basic
import Mathlib.Algebra.Order.Ring.Nat
import Mathlib.Algebra.Order.BigOperators.Group.List

/-!
# Floor

Floors of scaled naturals, `x * n / d`, compared through cross products.

This module depends only on the natural numbers.
-/

namespace Floor

variable {x y n d m e k : Nat}

/-- Scaling by a smaller fraction and from a smaller amount gives a smaller floor. -/
theorem scale_le_scale (hd : 0 < d) (he : 0 < e) (hxy : x ≤ y) (hnm : n * e ≤ m * d) :
    x * n / d ≤ y * m / e := by
  rw [Nat.le_div_iff_mul_le he]
  refine Nat.le_of_mul_le_mul_right (c := d) ?_ hd
  calc x * n / d * e * d = x * n / d * d * e := Nat.mul_right_comm _ _ _
    _ ≤ x * n * e := Nat.mul_le_mul_right e (Nat.div_mul_le_self _ _)
    _ = x * (n * e) := Nat.mul_assoc _ _ _
    _ ≤ y * (m * d) := Nat.mul_le_mul hxy hnm
    _ = y * m * d := (Nat.mul_assoc _ _ _).symm

/-- A fraction of at least one does not shrink an amount. -/
theorem le_scale (hd : 0 < d) (h : d ≤ n) : x ≤ x * n / d := by
  rw [Nat.le_div_iff_mul_le hd]
  exact Nat.mul_le_mul_left x h

/-- A fraction of at most one does not grow it. -/
theorem scale_le (h : n ≤ d) : x * n / d ≤ x := by
  rcases Nat.eq_zero_or_pos d with rfl | hd
  · rw [Nat.div_zero]
    exact Nat.zero_le x
  · calc x * n / d ≤ x * d / d := Nat.div_le_div_right (Nat.mul_le_mul_left x h)
      _ = x := Nat.mul_div_cancel x hd

/-- Comparing with a rounded-up quotient is comparing with the product. -/
theorem le_ceil_iff (hd : 0 < d) (hk : 0 < k) : k ≤ (x + (d - 1)) / d ↔ (k - 1) * d < x := by
  rw [Nat.le_div_iff_mul_le hd]
  obtain ⟨j, rfl⟩ : ∃ j, k = j + 1 := ⟨k - 1, by omega⟩
  rw [Nat.add_sub_cancel, Nat.add_mul, Nat.one_mul]
  generalize j * d = p
  omega

/-- The floor is below an amount exactly when the product is. -/
theorem scale_lt_iff (hd : 0 < d) : x * n / d < k ↔ x * n < k * d := Nat.div_lt_iff_lt_mul hd

/-- Floors of parts add up to at most the floor of the whole. -/
theorem sum_scale_le (l : List Nat) : (l.map fun x => x * n / d).sum ≤ l.sum * n / d := by
  induction l with
  | nil => simp
  | cons x l ih =>
      rw [List.map_cons, List.sum_cons, List.sum_cons, Nat.add_mul]
      exact Nat.le_trans (Nat.add_le_add_left ih _) (Nat.div_add_div_le_add_div)

end Floor
