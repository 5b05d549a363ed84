import Mathlib.Algebra.GroupWithZero.Nat

/-!
# Oversub.Checked

Checked integer arithmetic for capacity math (`checked.hpp`, `checked.cpp`).

The helpers of the source are functions on `UInt64`.  The engine is written
over an `Arith`: the same operations on naturals, together with the range of
results that can be represented.  `Arith.u64` is the machine's 64-bit
arithmetic (it agrees with the helpers, see `addChecked_toNat` and its
siblings) and `Arith.nat` is exact arithmetic without a bound, so that the
two evaluations can be compared.
-/

namespace Oversub

def u64Max : Nat := 2 ^ 64 - 1

def kPpmScale : Nat := 1000000
def kMaxRatioTerm : Nat := 1000000
def kHardMaxCapacityUnits : Nat := 2 ^ 48
def kHardMaxTicks : Nat := 2 ^ 62

/-! ## The helpers on machine words -/

def addChecked (a b : UInt64) : Option UInt64 :=
  if a > UInt64.ofNat u64Max - b then none else some (a + b)

def addSat (a b : UInt64) : UInt64 := (addChecked a b).getD (UInt64.ofNat u64Max)

def mulChecked (a b : UInt64) : Option UInt64 :=
  if a ≠ 0 ∧ b > UInt64.ofNat u64Max / a then none else some (a * b)

/-- `floor(a * b / d)` through the 128-bit product, which is exact. -/
def mulDivFloor (a b d : UInt64) : Option UInt64 :=
  if d = 0 then none
  else if a = 0 ∨ b = 0 then some 0
  else
    let quotient := a.toNat * b.toNat / d.toNat
    if quotient > u64Max then none else some (UInt64.ofNat quotient)

def mulDivFloorSat (a b d : UInt64) : UInt64 := (mulDivFloor a b d).getD (UInt64.ofNat u64Max)

/-- `ceil(a * b / d)`: the floor, plus one when the division leaves a remainder. -/
def mulDivCeil (a b d : UInt64) : Option UInt64 :=
  if d = 0 then none
  else if a = 0 ∨ b = 0 then some 0
  else
    let quotient := a.toNat * b.toNat / d.toNat
    if quotient > u64Max then none
    else if a.toNat * b.toNat % d.toNat = 0 then some (UInt64.ofNat quotient)
    else addChecked (UInt64.ofNat quotient) 1

/-! ## Ratios -/

structure Ratio where
  num : UInt64 := 1
  den : UInt64 := 1
  deriving DecidableEq

/-- The cross products are plain 64-bit products. -/
def ratioGe (a b : Ratio) : Bool := a.num * b.den ≥ b.num * a.den

def ratioLe (a b : Ratio) : Bool := ratioGe b a
def ratioGt (a b : Ratio) : Bool := !ratioGe b a
def ratioLt (a b : Ratio) : Bool := !ratioGe a b

def ratioToString (r : Ratio) : String := toString r.num.toNat ++ ":" ++ toString r.den.toNat

/-! ## Arithmetic with a range -/

/-- The integer operations of an evaluation: `fits n` says that the result
`n` can be represented and `wrap` is what a plain operation leaves of it.
Every 64-bit word fits. -/
structure Arith where
  fits : Nat → Bool
  wrap : Nat → Nat
  fits_mono : ∀ {m n : Nat}, m ≤ n → fits n = true → fits m = true
  fits_toNat : ∀ x : UInt64, fits x.toNat = true
  wrap_of_fits : ∀ {n : Nat}, fits n = true → wrap n = n

namespace Arith

/-- The machine's arithmetic: results below `2 ^ 64`. -/
def u64 : Arith where
  fits n := n < 2 ^ 64
  wrap n := n % 2 ^ 64
  fits_mono hmn hn := by simp only [decide_eq_true_eq] at hn ⊢; omega
  fits_toNat x := by simpa using x.toNat_lt
  wrap_of_fits hn := Nat.mod_eq_of_lt (by simpa using hn)

/-- Exact arithmetic: every natural is represented. -/
def nat : Arith where
  fits _ := true
  wrap n := n
  fits_mono _ h := h
  fits_toNat _ := rfl
  wrap_of_fits _ := rfl

variable (A : Arith)

def addChecked (a b : Nat) : Option Nat := if A.fits (a + b) then some (a + b) else none

def addSat (a b : Nat) : Nat := (A.addChecked a b).getD u64Max

def mulDivFloor (a b d : Nat) : Option Nat :=
  if d = 0 then none else if A.fits (a * b / d) then some (a * b / d) else none

def mulDivFloorSat (a b d : Nat) : Nat := (A.mulDivFloor a b d).getD u64Max

def mulDivCeil (a b d : Nat) : Option Nat :=
  if d = 0 then none
  else if A.fits (a * b / d) then
    if a * b % d = 0 then some (a * b / d) else A.addChecked (a * b / d) 1
  else none

/-- `value * ppm / 1e6`. -/
def ppmOf (value ppm : Nat) : Option Nat := A.mulDivFloor value ppm kPpmScale

def ratioGe (a b : Ratio) : Bool :=
  decide (A.wrap (b.num.toNat * a.den.toNat) ≤ A.wrap (a.num.toNat * b.den.toNat))

def ratioGt (a b : Ratio) : Bool := !A.ratioGe b a
def ratioLt (a b : Ratio) : Bool := !A.ratioGe a b

def ratioPpm (r : Ratio) : Nat :=
  if r.den = 0 then u64Max else A.mulDivFloorSat r.num.toNat kPpmScale r.den.toNat

/-! ## What the operations return -/

variable {A : Arith} {a b c d n : Nat}

theorem fits_of_lt (h : n < 2 ^ 64) : A.fits n = true := by
  have hn := A.fits_toNat (UInt64.ofNat n)
  rwa [UInt64.toNat_ofNat', Nat.mod_eq_of_lt h] at hn

theorem fits_zero : A.fits 0 = true := fits_of_lt (by decide)

theorem u64_fits_iff : u64.fits n = true ↔ n < 2 ^ 64 := decide_eq_true_iff

@[simp] theorem nat_fits (n : Nat) : nat.fits n = true := rfl

theorem addChecked_eq_some : A.addChecked a b = some c ↔ A.fits (a + b) = true ∧ c = a + b := by
  unfold addChecked
  split
  next h => simp only [h, true_and, Option.some.injEq, eq_comm]
  next h => simp only [h, false_and, reduceCtorEq]

theorem addChecked_eq_none : A.addChecked a b = none ↔ ¬ A.fits (a + b) = true := by
  unfold addChecked
  split
  next h => exact iff_of_false (Option.some_ne_none _) fun hn => hn h
  next h => exact iff_of_true rfl h

theorem addSat_of_fits (h : A.fits (a + b) = true) : A.addSat a b = a + b := by
  simp [addSat, addChecked, h]

theorem addSat_of_not_fits (h : ¬ A.fits (a + b) = true) : A.addSat a b = u64Max := by
  simp [addSat, addChecked, h]

/-- A saturating sum vanishes only when both terms do. -/
theorem addSat_eq_zero : A.addSat a b = 0 ↔ a = 0 ∧ b = 0 := by
  by_cases h : A.fits (a + b) = true
  · rw [addSat_of_fits h]; omega
  · rw [addSat_of_not_fits h]
    constructor
    · intro h0; exact absurd h0 (by decide)
    · rintro ⟨rfl, rfl⟩; exact absurd fits_zero h

/-- A saturating sum is the exact sum as long as it stays below the maximum. -/
theorem addSat_le_iff (hn : n < u64Max) : A.addSat a b ≤ n ↔ a + b ≤ n := by
  by_cases h : A.fits (a + b) = true
  · rw [addSat_of_fits h]
  · rw [addSat_of_not_fits h]
    have hbig : ¬ a + b < 2 ^ 64 := fun hlt => h (fits_of_lt hlt)
    have hmax : u64Max < 2 ^ 64 := by decide
    omega

/-- A saturating sum over a list. -/
def sumSat (A : Arith) (l : List Nat) : Nat := l.foldl A.addSat 0

theorem foldl_addSat_le_iff {s : Nat} {l : List Nat} (hn : n < u64Max) :
    l.foldl A.addSat s ≤ n ↔ s + l.sum ≤ n := by
  induction l generalizing s with
  | nil => simp
  | cons x l ih =>
      rw [List.foldl_cons, ih, List.sum_cons]
      by_cases h : s + x ≤ n
      · have hfit : A.fits (s + x) = true :=
          fits_of_lt (Nat.lt_of_le_of_lt h (Nat.lt_of_lt_of_le hn (by decide)))
        rw [addSat_of_fits hfit, Nat.add_assoc]
      · have hsat : ¬ A.addSat s x ≤ n := fun hle => h ((addSat_le_iff hn).mp hle)
        omega

theorem sumSat_le_iff {l : List Nat} (hn : n < u64Max) : A.sumSat l ≤ n ↔ l.sum ≤ n := by
  rw [sumSat, foldl_addSat_le_iff hn, Nat.zero_add]

theorem sumSat_eq_zero {l : List Nat} : A.sumSat l = 0 ↔ ∀ x ∈ l, x = 0 := by
  rw [← Nat.le_zero, sumSat_le_iff (by decide), Nat.le_zero, List.sum_eq_zero_iff_forall_eq_nat]

theorem sumSat_concat {l : List Nat} {x : Nat} : A.sumSat (l ++ [x]) = A.addSat (A.sumSat l) x := by
  rw [sumSat, List.foldl_append, List.foldl_cons, List.foldl_nil, sumSat]

theorem mulDivFloor_eq_some :
    A.mulDivFloor a b d = some c ↔ d ≠ 0 ∧ A.fits (a * b / d) = true ∧ c = a * b / d := by
  unfold mulDivFloor
  split
  next hd => simp only [hd, ne_eq, not_true, false_and, reduceCtorEq]
  next hd =>
    split
    next h => simp only [hd, h, ne_eq, not_false_iff, true_and, Option.some.injEq, eq_comm]
    next h => simp only [h, false_and, and_false, reduceCtorEq]

theorem mulDivCeil_eq_some (h : A.mulDivCeil a b d = some c) :
    d ≠ 0 ∧ c = (a * b + (d - 1)) / d := by
  unfold mulDivCeil at h
  split at h
  · contradiction
  next hd =>
    refine ⟨hd, ?_⟩
    have hpos : 0 < d := Nat.pos_of_ne_zero hd
    split at h
    · split at h
      next hrem =>
        obtain rfl := Option.some.inj h
        obtain ⟨q, hq⟩ := Nat.dvd_of_mod_eq_zero hrem
        rw [hq, Nat.mul_div_cancel_left q hpos, Nat.mul_add_div hpos]
        rw [Nat.div_eq_of_lt (by omega), Nat.add_zero]
      next hrem =>
        obtain ⟨_, rfl⟩ := addChecked_eq_some.mp h
        have hsplit := Nat.div_add_mod (a * b) d
        have hlt := Nat.mod_lt (a * b) hpos
        have hval : a * b + (d - 1) = d * (a * b / d + 1) + (a * b % d - 1) := by
          rw [Nat.mul_add, Nat.mul_one]
          generalize d * (a * b / d) = e at hsplit ⊢
          omega
        have hsmall : (a * b % d - 1) / d = 0 := Nat.div_eq_of_lt (by omega)
        rw [hval, Nat.mul_add_div hpos, hsmall, Nat.add_zero]
    · contradiction

/-- `mul_div_ceil` only fails on results beyond 64 bits. -/
theorem mulDivCeil_eq_none (hd : d ≠ 0) (h : A.mulDivCeil a b d = none) :
    2 ^ 64 ≤ a * b / d + 1 := by
  refine Nat.le_of_not_lt fun hlt => ?_
  have hq : A.fits (a * b / d) = true := fits_of_lt (by omega)
  have hq1 : A.fits (a * b / d + 1) = true := fits_of_lt (by omega)
  unfold mulDivCeil addChecked at h
  simp only [hd, hq, hq1, if_true, if_false] at h
  split at h <;> contradiction

end Arith

/-! ## The machine's arithmetic is the helpers' -/

theorem addChecked_toNat (a b : UInt64) :
    (addChecked a b).map UInt64.toNat = Arith.u64.addChecked a.toNat b.toNat := by
  have ha := a.toNat_lt
  have hb := b.toNat_lt
  have hmax : (UInt64.ofNat u64Max).toNat = u64Max := UInt64.toNat_ofNat_of_lt (by decide)
  have hsub : (UInt64.ofNat u64Max - b).toNat = u64Max - b.toNat := by
    rw [UInt64.toNat_sub_of_le _ _ (by rw [UInt64.le_iff_toNat_le, hmax]; unfold u64Max; omega), hmax]
  unfold addChecked Arith.addChecked
  simp only [gt_iff_lt, UInt64.lt_iff_toNat_lt, hsub, Arith.u64_fits_iff]
  unfold u64Max
  by_cases h : a.toNat + b.toNat < 2 ^ 64
  · rw [if_neg (by omega), if_pos h, Option.map_some, UInt64.toNat_add, Nat.mod_eq_of_lt h]
  · rw [if_pos (by omega), if_neg h, Option.map_none]

theorem addSat_eq (m n : Nat) :
    Arith.u64.addSat m n = if m + n < 2 ^ 64 then m + n else u64Max := by
  by_cases h : m + n < 2 ^ 64
  · rw [if_pos h, Arith.addSat_of_fits (Arith.fits_of_lt h)]
  · rw [if_neg h, Arith.addSat_of_not_fits (mt Arith.u64_fits_iff.mp h)]

theorem addSat_toNat (a b : UInt64) : (addSat a b).toNat = Arith.u64.addSat a.toNat b.toNat := by
  rw [Arith.addSat, ← addChecked_toNat, addSat]
  cases addChecked a b with
  | none => exact UInt64.toNat_ofNat_of_lt (by decide)
  | some c => rfl

theorem mulChecked_toNat (a b : UInt64) : (mulChecked a b).map UInt64.toNat =
    if a.toNat * b.toNat < 2 ^ 64 then some (a.toNat * b.toNat) else none := by
  have hmax : (UInt64.ofNat u64Max).toNat = u64Max := UInt64.toNat_ofNat_of_lt (by decide)
  have hzero : a = 0 ↔ a.toNat = 0 := by rw [← UInt64.toNat_inj]; rfl
  have hover : a.toNat ≠ 0 → (u64Max / a.toNat < b.toNat ↔ u64Max < a.toNat * b.toNat) := fun ha => by
    rw [Nat.div_lt_iff_lt_mul (Nat.pos_of_ne_zero ha), Nat.mul_comm]
  unfold mulChecked
  simp only [gt_iff_lt, UInt64.lt_iff_toNat_lt, UInt64.toNat_div, hmax, ne_eq, hzero]
  by_cases ha : a.toNat = 0
  · rw [if_neg fun h => h.1 ha, ha, Nat.zero_mul, if_pos (by decide), Option.map_some, UInt64.toNat_mul, ha,
      Nat.zero_mul, Nat.zero_mod]
  · simp only [ha, not_false_eq_true, true_and, hover ha]
    unfold u64Max
    by_cases h : a.toNat * b.toNat < 2 ^ 64
    · rw [if_neg (by omega), if_pos h, Option.map_some, UInt64.toNat_mul, Nat.mod_eq_of_lt h]
    · rw [if_pos (by omega), if_neg h, Option.map_none]

theorem mulDivFloor_toNat (a b d : UInt64) :
    (mulDivFloor a b d).map UInt64.toNat = Arith.u64.mulDivFloor a.toNat b.toNat d.toNat := by
  have hzero : ∀ x : UInt64, x = 0 ↔ x.toNat = 0 := fun x => by rw [← UInt64.toNat_inj]; rfl
  unfold mulDivFloor Arith.mulDivFloor
  simp only [hzero, Arith.u64_fits_iff, u64Max]
  split
  · rfl
  · split
    next h =>
      have hprod : a.toNat * b.toNat = 0 := Nat.mul_eq_zero.mpr h
      simp [hprod]
    · generalize a.toNat * b.toNat / d.toNat = q
      by_cases hq : q < 2 ^ 64
      · have hle : ¬ q > 2 ^ 64 - 1 := by omega
        simp only [hle, hq, if_true, if_false, Option.map_some, UInt64.toNat_ofNat',
          Nat.mod_eq_of_lt]
      · have hgt : q > 2 ^ 64 - 1 := by omega
        simp only [hgt, hq, if_true, if_false, Option.map_none]

theorem mulDivFloorSat_toNat (a b d : UInt64) :
    (mulDivFloorSat a b d).toNat = Arith.u64.mulDivFloorSat a.toNat b.toNat d.toNat := by
  rw [Arith.mulDivFloorSat, ← mulDivFloor_toNat, mulDivFloorSat]
  cases mulDivFloor a b d with
  | none => exact UInt64.toNat_ofNat_of_lt (by decide)
  | some c => rfl

theorem mulDivCeil_toNat (a b d : UInt64) :
    (mulDivCeil a b d).map UInt64.toNat = Arith.u64.mulDivCeil a.toNat b.toNat d.toNat := by
  have hzero : ∀ x : UInt64, x = 0 ↔ x.toNat = 0 := fun x => by rw [← UInt64.toNat_inj]; rfl
  unfold mulDivCeil Arith.mulDivCeil
  simp only [hzero, Arith.u64_fits_iff, u64Max]
  split
  · rfl
  · split
    next h =>
      have hprod : a.toNat * b.toNat = 0 := Nat.mul_eq_zero.mpr h
      simp [hprod]
    · generalize a.toNat * b.toNat / d.toNat = q
      by_cases hq : q < 2 ^ 64
      · have hle : ¬ q > 2 ^ 64 - 1 := by omega
        have hval : (UInt64.ofNat q).toNat = q := by rw [UInt64.toNat_ofNat', Nat.mod_eq_of_lt hq]
        simp only [hle, hq, if_true, if_false]
        split
        · rw [Option.map_some, hval]
        · rw [addChecked_toNat, hval]; rfl
      · have hgt : q > 2 ^ 64 - 1 := by omega
        simp only [hgt, hq, if_true, if_false, Option.map_none]

theorem ratioGe_eq (a b : Ratio) : ratioGe a b = Arith.u64.ratioGe a b := by
  simp only [ratioGe, Arith.ratioGe, ge_iff_le, UInt64.le_iff_toNat_le, UInt64.toNat_mul]
  rfl

/-! ## Ratios in range -/

/-- Terms within the ratio bound: cross products cannot overflow. -/
structure Ratio.Bounded (r : Ratio) : Prop where
  num_le : r.num.toNat ≤ kMaxRatioTerm
  den_le : r.den.toNat ≤ kMaxRatioTerm
  den_pos : 0 < r.den.toNat

theorem Ratio.bounded_one : Ratio.Bounded { num := 1, den := 1 } :=
  ⟨by decide, by decide, by decide⟩

namespace Arith

variable {A : Arith} {r s : Ratio}

/-- On bounded terms the comparison is the comparison of the fractions. -/
theorem ratioGe_iff (hr : r.Bounded) (hs : s.Bounded) :
    A.ratioGe r s = true ↔ s.num.toNat * r.den.toNat ≤ r.num.toNat * s.den.toNat := by
  have hle : ∀ {x y : Nat}, x ≤ kMaxRatioTerm → y ≤ kMaxRatioTerm → A.wrap (x * y) = x * y := by
    intro x y hx hy
    refine A.wrap_of_fits (fits_of_lt ?_)
    calc x * y ≤ kMaxRatioTerm * kMaxRatioTerm := Nat.mul_le_mul hx hy
      _ < 2 ^ 64 := by decide
  unfold ratioGe
  rw [hle hs.num_le hr.den_le, hle hr.num_le hs.den_le, decide_eq_true_eq]

end Arith

end Oversub
