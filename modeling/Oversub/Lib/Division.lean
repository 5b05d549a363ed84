import Mathlib.Algebra.Order.Floor.Div
import Mathlib.Tactic.Ring

/-!
# Oversub.Lib.Division

Wide division by hand: the product of two numbers of two digits, column by
column (`product_eq`), and restoring division, which takes the dividend bit by
bit and keeps the remainder below the divisor (`divide_spec`).
-/

namespace Division

/-! ## The product of two-digit numbers -/

section

variable (B a₀ a₁ b₀ b₁ : Nat)

/-- The middle column, with the carry of the lowest one. -/
def middle : Nat := a₀ * b₀ / B + a₀ * b₁ % B + a₁ * b₀ % B

/-- The two low digits. -/
def low : Nat := middle B a₀ a₁ b₀ b₁ % B * B + a₀ * b₀ % B

/-- The two high digits. -/
def high : Nat := a₁ * b₁ + a₀ * b₁ / B + a₁ * b₀ / B + middle B a₀ a₁ b₀ b₁ / B

theorem product_eq : (B * a₁ + a₀) * (B * b₁ + b₀) =
    high B a₀ a₁ b₀ b₁ * (B * B) + low B a₀ a₁ b₀ b₁ := by
  have h₀ := Nat.div_add_mod (a₀ * b₀) B
  have h₁ := Nat.div_add_mod (a₀ * b₁) B
  have h₂ := Nat.div_add_mod (a₁ * b₀) B
  have hmid := Nat.div_add_mod (middle B a₀ a₁ b₀ b₁) B
  calc (B * a₁ + a₀) * (B * b₁ + b₀)
      = a₁ * b₁ * (B * B) + (a₀ * b₁ + a₁ * b₀) * B + a₀ * b₀ := by ring
    _ = a₁ * b₁ * (B * B) + (B * (a₀ * b₁ / B) + a₀ * b₁ % B + (B * (a₁ * b₀ / B) + a₁ * b₀ % B)) * B +
          (B * (a₀ * b₀ / B) + a₀ * b₀ % B) := by rw [h₀, h₁, h₂]
    _ = (a₁ * b₁ + a₀ * b₁ / B + a₁ * b₀ / B) * (B * B) + middle B a₀ a₁ b₀ b₁ * B + a₀ * b₀ % B := by
        unfold middle
        ring
    _ = (a₁ * b₁ + a₀ * b₁ / B + a₁ * b₀ / B) * (B * B) +
          (B * (middle B a₀ a₁ b₀ b₁ / B) + middle B a₀ a₁ b₀ b₁ % B) * B + a₀ * b₀ % B := by rw [hmid]
    _ = high B a₀ a₁ b₀ b₁ * (B * B) + low B a₀ a₁ b₀ b₁ := by
        unfold high low
        ring

end

variable {B a₀ a₁ b₀ b₁ : Nat}

/-- The high digits of a product of two-digit numbers are two digits. -/
theorem high_lt (ha : B * a₁ + a₀ < B * B) (hb : B * b₁ + b₀ < B * B) :
    high B a₀ a₁ b₀ b₁ < B * B := by
  have hprod := product_eq B a₀ a₁ b₀ b₁
  have hlt : (B * a₁ + a₀) * (B * b₁ + b₀) < B * B * (B * B) := Nat.mul_lt_mul'' ha hb
  have hpos : 0 < B * B := Nat.zero_lt_of_lt ha
  refine Nat.lt_of_mul_lt_mul_right (a := B * B) ?_
  omega

/-! ## Restoring division -/

variable {d lo n rem quot : Nat}

/-- The next `n` bits of `lo`, the highest first. -/
def divide (d lo : Nat) : Nat → Nat → Nat → Nat × Nat
  | 0, rem, quot => (quot, rem)
  | n + 1, rem, quot =>
      let rem := 2 * rem + lo / 2 ^ n % 2
      if d ≤ rem then divide d lo n (rem - d) (2 * quot + 1) else divide d lo n rem (2 * quot)

/-- Quotient and remainder stay those of the bits taken so far. -/
theorem divide_spec (hrem : rem < d) :
    (divide d lo n rem quot).1 * d + (divide d lo n rem quot).2 =
        (quot * d + rem) * 2 ^ n + lo % 2 ^ n ∧
      (divide d lo n rem quot).2 < d := by
  induction n generalizing rem quot with
  | zero => simp [divide, Nat.mod_one, hrem]
  | succ n ih =>
      have hbit : lo % 2 ^ (n + 1) = lo % 2 ^ n + 2 ^ n * (lo / 2 ^ n % 2) := Nat.mod_pow_succ
      have htwo : 2 ^ (n + 1) = 2 * 2 ^ n := Nat.pow_succ'
      have hlt : lo / 2 ^ n % 2 < 2 := Nat.mod_lt _ (by decide)
      rw [divide]
      by_cases h : d ≤ 2 * rem + lo / 2 ^ n % 2
      · rw [if_pos h]
        have hstep := @ih (2 * rem + lo / 2 ^ n % 2 - d) (2 * quot + 1) (by omega)
        have hsub : (2 * quot + 1) * d + (2 * rem + lo / 2 ^ n % 2 - d) =
            2 * (quot * d + rem) + lo / 2 ^ n % 2 := by
          have hexpand : (2 * quot + 1) * d = 2 * (quot * d) + d := by ring
          omega
        refine ⟨?_, hstep.2⟩
        rw [hstep.1, hsub, hbit, htwo]
        ring
      · rw [if_neg h]
        have hstep := @ih (2 * rem + lo / 2 ^ n % 2) (2 * quot) (by omega)
        refine ⟨?_, hstep.2⟩
        rw [hstep.1, hbit, htwo]
        ring

/-- **Restoring division** of `hi` and the `n` bits of `lo` behind it. -/
theorem divide_eq (hhi : rem < d) : divide d lo n rem 0 =
    ((rem * 2 ^ n + lo % 2 ^ n) / d, (rem * 2 ^ n + lo % 2 ^ n) % d) := by
  obtain ⟨hsum, hlt⟩ := @divide_spec d lo n rem 0 hhi
  rw [Nat.zero_mul, Nat.zero_add] at hsum
  have hpos : 0 < d := Nat.zero_lt_of_lt hhi
  rw [← hsum]
  refine Prod.ext ?_ ?_
  · rw [Nat.mul_comm, Nat.mul_add_div hpos, Nat.div_eq_of_lt hlt, Nat.add_zero]
  · rw [Nat.mul_comm, Nat.mul_add_mod, Nat.mod_eq_of_lt hlt]

/-! ## Rounding up -/

/-- The ceiling is the floor, and one more where a remainder is left. -/
theorem ceilDiv_eq {m : Nat} (hd : 0 < d) :
    m ⌈/⌉ d = if m % d = 0 then m / d else m / d + 1 := by
  have hsplit := Nat.div_add_mod m d
  have hlt := Nat.mod_lt m hd
  rw [Nat.ceilDiv_eq_add_pred_div]
  by_cases h : m % d = 0
  · have hval : m + d - 1 = d * (m / d) + (d - 1) := by omega
    have hsmall : (d - 1) / d = 0 := Nat.div_eq_of_lt (by omega)
    rw [if_pos h, hval, Nat.mul_add_div hd, hsmall, Nat.add_zero]
  · have hval : m + d - 1 = d * (m / d + 1) + (m % d - 1) := by
      rw [Nat.mul_add, Nat.mul_one]
      omega
    have hsmall : (m % d - 1) / d = 0 := Nat.div_eq_of_lt (by omega)
    rw [if_neg h, hval, Nat.mul_add_div hd, hsmall, Nat.add_zero]

end Division
