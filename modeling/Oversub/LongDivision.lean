import Mathlib.Data.Nat.Bitwise
import Oversub.Checked
import Oversub.Lib.Division

/-!
# Oversub.LongDivision

The portable multiply-divide (`checked.cpp`): a 128-bit product over 32-bit
limbs and a division bit by bit, on 64-bit words throughout.  It is the
reference for the 128-bit path, which `Oversub.Checked` models.
-/

namespace Oversub

open Division

/-! ## The code -/

/-- The low half of a word, `x & 0xFFFFFFFF`. -/
def lowLimb (x : UInt64) : UInt64 := x &&& 0xFFFFFFFF

/-- Its high half, `x >> 32`. -/
def highLimb (x : UInt64) : UInt64 := x >>> 32

/-- The carry column of the schoolbook product. -/
def middleColumn (a b : UInt64) : UInt64 :=
  highLimb (lowLimb a * lowLimb b) + lowLimb (lowLimb a * highLimb b) + lowLimb (highLimb a * lowLimb b)

/-- The schoolbook product: its high and its low word. -/
def schoolbookProduct (a b : UInt64) : UInt64 × UInt64 :=
  let p00 := lowLimb a * lowLimb b
  let p01 := lowLimb a * highLimb b
  let p10 := highLimb a * lowLimb b
  let p11 := highLimb a * highLimb b
  let mid := middleColumn a b
  (p11 + highLimb p01 + highLimb p10 + highLimb mid, lowLimb p00 ||| (mid <<< 32))

/-- The loop over the bits of `lo` below `bit`: quotient and remainder. -/
def divisionLoop (d lo : UInt64) : Nat → UInt64 → UInt64 → UInt64 × UInt64
  | 0, rem, quot => (quot, rem)
  | bit + 1, rem, quot =>
      let carry := rem >>> 63
      let rem := (rem <<< 1) ||| ((lo >>> UInt64.ofNat bit) &&& 1)
      let quot := quot <<< 1
      if carry ≠ 0 ∨ rem ≥ d then divisionLoop d lo bit (rem - d) (quot ||| 1)
      else divisionLoop d lo bit rem quot

/-- The high and the low word of a product. -/
def productWords (a b : UInt64) : UInt64 × UInt64 :=
  match mulChecked a b with
  | some lo => (0, lo)
  | none => schoolbookProduct a b

/-- `long_division_ex`: quotient and remainder of `a * b` by `d`. -/
def longDivisionEx (a b d : UInt64) : Option (UInt64 × UInt64) :=
  if d = 0 then none
  else
    let (hi, lo) := productWords a b
    if hi = 0 then some (lo / d, lo % d)
    else if hi ≥ d then none    -- the quotient does not fit
    else some (divisionLoop d lo 64 hi 0)

def mulDivFloorReference (a b d : UInt64) : Option UInt64 := (longDivisionEx a b d).map Prod.fst

/-- `mul_div_ceil` on a platform without 128-bit arithmetic. -/
def mulDivCeilPortable (a b d : UInt64) : Option UInt64 :=
  if d = 0 then none
  else if a = 0 ∨ b = 0 then some 0
  else
    match longDivisionEx a b d with
    | none => none
    | some (q, rem) => if rem = 0 then some q else addChecked q 1

/-! ## Words as numbers -/

section

variable {x y : UInt64}

@[simp] theorem toNat_lowLimb : (lowLimb x).toNat = x.toNat % 2 ^ 32 := by
  rw [lowLimb, UInt64.toNat_and]
  exact Nat.and_two_pow_sub_one_eq_mod x.toNat 32

@[simp] theorem toNat_highLimb : (highLimb x).toNat = x.toNat / 2 ^ 32 := by
  rw [highLimb, UInt64.toNat_shiftRight, Nat.shiftRight_eq_div_pow]
  rfl

theorem lowLimb_lt : (lowLimb x).toNat < 2 ^ 32 := by
  rw [toNat_lowLimb]
  omega

theorem highLimb_lt : (highLimb x).toNat < 2 ^ 32 := by
  have hx := x.toNat_lt
  rw [toNat_highLimb]
  omega

/-- The product of two halves fits a word. -/
theorem toNat_mul_limb (hx : x.toNat < 2 ^ 32) (hy : y.toNat < 2 ^ 32) :
    (x * y).toNat = x.toNat * y.toNat := by
  have hlt : x.toNat * y.toNat < 2 ^ 32 * 2 ^ 32 := Nat.mul_lt_mul'' hx hy
  rw [UInt64.toNat_mul, Nat.mod_eq_of_lt (by omega)]

/-- A limb beside another one in a word. -/
theorem toNat_or_limb (hx : x.toNat < 2 ^ 32) :
    (x ||| (y <<< 32)).toNat = y.toNat % 2 ^ 32 * 2 ^ 32 + x.toNat := by
  have hshift : (y <<< 32).toNat = (y.toNat % 2 ^ 32) <<< 32 := by
    rw [UInt64.toNat_shiftLeft, Nat.shiftLeft_eq, Nat.shiftLeft_eq]
    exact Nat.mul_mod_mul_right (2 ^ 32) y.toNat (2 ^ 32)
  rw [UInt64.toNat_or, hshift, Nat.or_comm, ← Nat.shiftLeft_add_eq_or_of_lt hx, Nat.shiftLeft_eq]

/-- A word shifted by one, with a new lowest bit. -/
theorem toNat_push_bit (hy : y.toNat < 2) : ((x <<< 1) ||| y).toNat = 2 * x.toNat % 2 ^ 64 + y.toNat := by
  have hshift : (x <<< 1).toNat = (x.toNat % 2 ^ 63) <<< 1 := by
    rw [UInt64.toNat_shiftLeft, Nat.shiftLeft_eq, Nat.shiftLeft_eq]
    exact Nat.mul_mod_mul_right 2 x.toNat (2 ^ 63)
  rw [UInt64.toNat_or, hshift, ← Nat.shiftLeft_add_eq_or_of_lt (by simpa using hy), Nat.shiftLeft_eq]
  omega

theorem toNat_carry : x >>> 63 ≠ 0 ↔ 2 ^ 63 ≤ x.toNat := by
  have hval : (x >>> 63).toNat = x.toNat / 2 ^ 63 := by
    rw [UInt64.toNat_shiftRight, Nat.shiftRight_eq_div_pow]
    rfl
  rw [ne_eq, ← UInt64.toNat_inj, hval]
  have hzero : (0 : UInt64).toNat = 0 := rfl
  rw [hzero]
  omega

theorem toNat_bit {bit : Nat} (hbit : bit < 64) :
    ((x >>> UInt64.ofNat bit) &&& 1).toNat = x.toNat / 2 ^ bit % 2 := by
  have hval : (UInt64.ofNat bit).toNat % 64 = bit := by
    rw [UInt64.toNat_ofNat']
    omega
  rw [UInt64.toNat_and, UInt64.toNat_shiftRight, hval, Nat.shiftRight_eq_div_pow]
  exact Nat.and_one_is_mod _

end

/-! ## The product -/

theorem middleColumn_toNat (a b : UInt64) : (middleColumn a b).toNat =
    middle (2 ^ 32) (lowLimb a).toNat (highLimb a).toNat (lowLimb b).toNat (highLimb b).toNat := by
  have h00 := toNat_mul_limb (@lowLimb_lt a) (@lowLimb_lt b)
  have h01 := toNat_mul_limb (@lowLimb_lt a) (@highLimb_lt b)
  have h10 := toNat_mul_limb (@highLimb_lt a) (@lowLimb_lt b)
  have hcarry := @highLimb_lt (lowLimb a * lowLimb b)
  rw [middle, ← h00, ← h01, ← h10, middleColumn, UInt64.toNat_add, UInt64.toNat_add]
  simp only [toNat_highLimb, toNat_lowLimb] at hcarry ⊢
  omega

/-- **The schoolbook product** is exact. -/
theorem schoolbookProduct_eq (a b : UInt64) :
    (schoolbookProduct a b).1.toNat * 2 ^ 64 + (schoolbookProduct a b).2.toNat = a.toNat * b.toNat := by
  have hdigits (x : UInt64) : 2 ^ 32 * (highLimb x).toNat + (lowLimb x).toNat = x.toNat := by
    rw [toNat_highLimb, toNat_lowLimb]
    exact Nat.div_add_mod _ _
  have hprod := product_eq (2 ^ 32) (lowLimb a).toNat (highLimb a).toNat (lowLimb b).toNat (highLimb b).toNat
  have hfit : high (2 ^ 32) (lowLimb a).toNat (highLimb a).toNat (lowLimb b).toNat (highLimb b).toNat <
      2 ^ 32 * 2 ^ 32 := by
    refine high_lt ?_ ?_
    · rw [hdigits]
      exact a.toNat_lt
    · rw [hdigits]
      exact b.toNat_lt
  rw [hdigits, hdigits] at hprod
  have hlo : (schoolbookProduct a b).2.toNat =
      low (2 ^ 32) (lowLimb a).toNat (highLimb a).toNat (lowLimb b).toNat (highLimb b).toNat := by
    unfold schoolbookProduct
    rw [toNat_or_limb lowLimb_lt, middleColumn_toNat, @toNat_lowLimb (lowLimb a * lowLimb b),
      toNat_mul_limb lowLimb_lt lowLimb_lt, low]
  have hcolumns : high (2 ^ 32) (lowLimb a).toNat (highLimb a).toNat (lowLimb b).toNat (highLimb b).toNat =
      (highLimb a * highLimb b).toNat + (highLimb (lowLimb a * highLimb b)).toNat +
        (highLimb (highLimb a * lowLimb b)).toNat + (highLimb (middleColumn a b)).toNat := by
    rw [high, @toNat_highLimb (lowLimb a * highLimb b), @toNat_highLimb (highLimb a * lowLimb b),
      @toNat_highLimb (middleColumn a b), middleColumn_toNat, toNat_mul_limb highLimb_lt highLimb_lt,
      toNat_mul_limb lowLimb_lt highLimb_lt, toNat_mul_limb highLimb_lt lowLimb_lt]
  have hhi : (schoolbookProduct a b).1.toNat =
      high (2 ^ 32) (lowLimb a).toNat (highLimb a).toNat (lowLimb b).toNat (highLimb b).toNat := by
    unfold schoolbookProduct
    rw [hcolumns] at hfit ⊢
    rw [UInt64.toNat_add, UInt64.toNat_add, UInt64.toNat_add]
    omega
  have hbase : 2 ^ 32 * 2 ^ 32 = 2 ^ 64 := by decide
  rw [hlo, hhi, hprod, hbase]

/-! ## The division -/

section

variable {d lo rem quot : UInt64} {n : Nat}

/-- The loop is restoring division: the bit shifted out of the remainder stands
for the sixty-fifth one, and the quotient has room for the bits to come. -/
theorem divisionLoop_toNat (hn : n ≤ 64) (hrem : rem.toNat < d.toNat)
    (hquot : (quot.toNat + 1) * 2 ^ n ≤ 2 ^ 64) :
    ((divisionLoop d lo n rem quot).1.toNat, (divisionLoop d lo n rem quot).2.toNat) =
      divide d.toNat lo.toNat n rem.toNat quot.toNat := by
  induction n generalizing rem quot with
  | zero => rfl
  | succ n ih =>
      have hd := d.toNat_lt
      have hbit := @toNat_bit lo n (by omega)
      have hbit2 : lo.toNat / 2 ^ n % 2 < 2 := Nat.mod_lt _ (by decide)
      have hroom : (2 * quot.toNat + 2) * 2 ^ n ≤ 2 ^ 64 := by
        rw [Nat.pow_succ'] at hquot
        calc (2 * quot.toNat + 2) * 2 ^ n = (quot.toNat + 1) * (2 * 2 ^ n) := by ring
          _ ≤ 2 ^ 64 := hquot
      have hsmall : 2 * quot.toNat + 2 ≤ 2 ^ 64 :=
        (Nat.le_mul_of_pos_right _ (Nat.two_pow_pos n)).trans hroom
      have hnext := @toNat_push_bit rem ((lo >>> UInt64.ofNat n) &&& 1) (by rw [hbit]; exact hbit2)
      rw [hbit] at hnext
      have hone : (quot <<< 1 ||| 1).toNat = 2 * quot.toNat + 1 := by
        have hpush := @toNat_push_bit quot 1 (by decide)
        have hval : (1 : UInt64).toNat = 1 := rfl
        omega
      have hzero : (quot <<< 1).toNat = 2 * quot.toNat := by
        have hval : (1 : UInt64).toNat % 64 = 1 := rfl
        rw [UInt64.toNat_shiftLeft, Nat.shiftLeft_eq, hval]
        omega
      have htest : (rem >>> 63 ≠ 0 ∨ (rem <<< 1 ||| ((lo >>> UInt64.ofNat n) &&& 1)) ≥ d) ↔
          d.toNat ≤ 2 * rem.toNat + lo.toNat / 2 ^ n % 2 := by
        rw [toNat_carry, ge_iff_le, UInt64.le_iff_toNat_le, hnext]
        omega
      rw [divisionLoop, divide]
      by_cases h : d.toNat ≤ 2 * rem.toNat + lo.toNat / 2 ^ n % 2
      · have hsub : ((rem <<< 1 ||| ((lo >>> UInt64.ofNat n) &&& 1)) - d).toNat =
            2 * rem.toNat + lo.toNat / 2 ^ n % 2 - d.toNat := by
          rw [UInt64.toNat_sub, hnext]
          omega
        rw [if_pos (htest.mpr h), if_pos h, ← hsub, ← hone]
        refine ih (by omega) (by omega) ?_
        rw [hone]
        exact hroom
      · have hshift : (rem <<< 1 ||| ((lo >>> UInt64.ofNat n) &&& 1)).toNat =
            2 * rem.toNat + lo.toNat / 2 ^ n % 2 := by
          omega
        rw [if_neg (mt htest.mp h), if_neg h, ← hshift, ← hzero]
        refine ih (by omega) (by omega) ?_
        rw [hzero]
        exact (Nat.mul_le_mul_right _ (by omega)).trans hroom

end

theorem productWords_eq (a b : UInt64) :
    (productWords a b).1.toNat * 2 ^ 64 + (productWords a b).2.toNat = a.toNat * b.toNat := by
  have hmul := mulChecked_toNat a b
  unfold productWords
  cases hchecked : mulChecked a b with
  | none => exact schoolbookProduct_eq a b
  | some lo =>
      rw [hchecked, Option.map_some] at hmul
      split at hmul
      next hlt =>
        have hlo : lo.toNat = a.toNat * b.toNat := Option.some.inj hmul
        simpa using hlo
      next => cases hmul

/-- **The long division** gives the exact quotient and remainder, or fails
where the divisor is zero or the quotient does not fit a word. -/
theorem longDivisionEx_toNat (a b d : UInt64) :
    (longDivisionEx a b d).map (fun r => (r.1.toNat, r.2.toNat)) =
      if d.toNat = 0 ∨ 2 ^ 64 ≤ a.toNat * b.toNat / d.toNat then none
      else some (a.toNat * b.toNat / d.toNat, a.toNat * b.toNat % d.toNat) := by
  have hzero (x : UInt64) : x = 0 ↔ x.toNat = 0 := by
    rw [← UInt64.toNat_inj]
    rfl
  have hwords := productWords_eq a b
  unfold longDivisionEx
  generalize productWords a b = words at hwords ⊢
  obtain ⟨hi, lo⟩ := words
  dsimp only at hwords ⊢
  have hlo := lo.toNat_lt
  by_cases hd : d = 0
  · rw [if_pos hd, if_pos (.inl ((hzero d).mp hd)), Option.map_none]
  · have hpos : 0 < d.toNat := Nat.pos_of_ne_zero (mt (hzero d).mpr hd)
    rw [if_neg hd]
    by_cases hhi : hi = 0
    · have hprod : lo.toNat = a.toNat * b.toNat := by
        rw [(hzero hi).mp hhi] at hwords
        omega
      have hfit : lo.toNat / d.toNat < 2 ^ 64 := (Nat.div_le_self _ _).trans_lt hlo
      rw [if_pos hhi, ← hprod, if_neg (by omega), Option.map_some, UInt64.toNat_div, UInt64.toNat_mod]
    · rw [if_neg hhi]
      by_cases hge : hi ≥ d
      · have hbig : 2 ^ 64 ≤ a.toNat * b.toNat / d.toNat := by
          have hle := UInt64.le_iff_toNat_le.mp hge
          rw [Nat.le_div_iff_mul_le hpos, ← hwords]
          calc 2 ^ 64 * d.toNat ≤ hi.toNat * 2 ^ 64 := by omega
            _ ≤ hi.toNat * 2 ^ 64 + lo.toNat := Nat.le_add_right _ _
        rw [if_pos hge, if_pos (.inr hbig), Option.map_none]
      · have hlt : hi.toNat < d.toNat := by
          rw [ge_iff_le, UInt64.le_iff_toNat_le] at hge
          omega
        have hsmall : a.toNat * b.toNat / d.toNat < 2 ^ 64 := by
          rw [Nat.div_lt_iff_lt_mul hpos, ← hwords]
          omega
        have hrun := @divisionLoop_toNat d lo hi 0 64 (Nat.le_refl _) hlt (by decide)
        have hdivide := @divide_eq d.toNat lo.toNat 64 hi.toNat hlt
        rw [Nat.mod_eq_of_lt hlo, hwords] at hdivide
        rw [if_neg hge, if_neg (by omega), Option.map_some]
        exact congrArg some (hrun.trans hdivide)

/-! ## Multiply-divide -/

theorem mulDivFloorReference_toNat (a b d : UInt64) :
    (mulDivFloorReference a b d).map UInt64.toNat = Arith.u64.mulDivFloor a.toNat b.toNat d.toNat := by
  have hlong := congrArg (Option.map Prod.fst) (longDivisionEx_toNat a b d)
  rw [Option.map_map] at hlong
  rw [mulDivFloorReference, Option.map_map]
  refine hlong.trans ?_
  unfold Arith.mulDivFloor
  simp only [Arith.u64_fits_iff]
  by_cases hd : d.toNat = 0
  · rw [if_pos (.inl hd), if_pos hd, Option.map_none]
  · rw [if_neg hd]
    by_cases h : 2 ^ 64 ≤ a.toNat * b.toNat / d.toNat
    · rw [if_pos (.inr h), if_neg (by omega), Option.map_none]
    · rw [if_neg (by omega), if_pos (by omega), Option.map_some]

theorem option_map_toNat_inj {x y : Option UInt64} (h : x.map UInt64.toNat = y.map UInt64.toNat) : x = y :=
  Option.map_injective (fun _ _ => UInt64.toNat_inj.mp) h

/-- The reference and the 128-bit path agree. -/
theorem mulDivFloorReference_eq (a b d : UInt64) : mulDivFloorReference a b d = mulDivFloor a b d :=
  option_map_toNat_inj ((mulDivFloorReference_toNat a b d).trans (mulDivFloor_toNat a b d).symm)

theorem mulDivCeilPortable_toNat (a b d : UInt64) :
    (mulDivCeilPortable a b d).map UInt64.toNat = Arith.u64.mulDivCeil a.toNat b.toNat d.toNat := by
  have hzero (x : UInt64) : x = 0 ↔ x.toNat = 0 := by
    rw [← UInt64.toNat_inj]
    rfl
  have hlong := longDivisionEx_toNat a b d
  unfold mulDivCeilPortable Arith.mulDivCeil
  simp only [hzero, Arith.u64_fits_iff]
  by_cases hd : d.toNat = 0
  · rw [if_pos hd, if_pos hd, Option.map_none]
  · rw [if_neg hd, if_neg hd]
    by_cases hab : a.toNat = 0 ∨ b.toNat = 0
    · have hprod : a.toNat * b.toNat = 0 := Nat.mul_eq_zero.mpr hab
      simp [hab, hprod]
    · rw [if_neg hab]
      by_cases h : a.toNat * b.toNat / d.toNat < 2 ^ 64
      · rw [if_neg (by omega)] at hlong
        rw [if_pos h]
        obtain ⟨⟨q, rem⟩, hr, hval⟩ := Option.map_eq_some_iff.mp hlong
        obtain ⟨hq, hrem⟩ := Prod.mk.inj hval
        dsimp only at hq hrem
        rw [hr, ← hq, ← hrem]
        dsimp only
        by_cases hnone : rem.toNat = 0
        · rw [if_pos hnone, if_pos hnone, Option.map_some]
        · rw [if_neg hnone, if_neg hnone, addChecked_toNat]
          rfl
      · rw [if_pos (by omega), Option.map_eq_none_iff] at hlong
        rw [if_neg h, hlong, Option.map_none]

theorem mulDivCeilPortable_eq (a b d : UInt64) : mulDivCeilPortable a b d = mulDivCeil a b d :=
  option_map_toNat_inj ((mulDivCeilPortable_toNat a b d).trans (mulDivCeil_toNat a b d).symm)

/-- A rounded quotient by `d`, where it is defined and fits a word. -/
def wordQuotient (d : UInt64) (quotient : Nat) : Option Nat :=
  if d.toNat = 0 ∨ 2 ^ 64 ≤ quotient then none else some quotient

theorem mulDivFloor_eq_wordQuotient (a b d : UInt64) :
    Arith.u64.mulDivFloor a.toNat b.toNat d.toNat = wordQuotient d (a.toNat * b.toNat / d.toNat) := by
  unfold Arith.mulDivFloor wordQuotient
  simp only [Arith.u64_fits_iff]
  by_cases hd : d.toNat = 0
  · rw [if_pos hd, if_pos (.inl hd)]
  · by_cases h : a.toNat * b.toNat / d.toNat < 2 ^ 64
    · rw [if_neg hd, if_pos h, if_neg (by omega)]
    · rw [if_neg hd, if_neg h, if_pos (.inr (by omega))]

theorem mulDivCeil_eq_wordQuotient (a b d : UInt64) :
    Arith.u64.mulDivCeil a.toNat b.toNat d.toNat = wordQuotient d (a.toNat * b.toNat ⌈/⌉ d.toNat) := by
  unfold Arith.mulDivCeil wordQuotient Arith.addChecked
  simp only [Arith.u64_fits_iff]
  by_cases hd : d.toNat = 0
  · rw [if_pos hd, if_pos (.inl hd)]
  · rw [if_neg hd, ceilDiv_eq (Nat.pos_of_ne_zero hd)]
    generalize a.toNat * b.toNat / d.toNat = q
    by_cases hrem : a.toNat * b.toNat % d.toNat = 0
    · simp only [hrem, if_true]
      by_cases h : q < 2 ^ 64
      · rw [if_pos h, if_neg (by omega)]
      · rw [if_neg h, if_pos (.inr (by omega))]
    · simp only [hrem, if_false]
      by_cases h : q + 1 < 2 ^ 64
      · rw [if_pos (by omega), if_pos h, if_neg (by omega)]
      · simp only [h, if_false, ite_self]
        rw [if_pos (.inr (by omega))]

/-- What a word quotient says of the word that holds it. -/
theorem of_wordQuotient {d : UInt64} {quotient : Nat} {r : Option UInt64}
    (h : r.map UInt64.toNat = wordQuotient d quotient) :
    (r = none ↔ d = 0 ∨ 2 ^ 64 ≤ quotient) ∧ ∀ q, r = some q → q.toNat = quotient := by
  have hzero : d = 0 ↔ d.toNat = 0 := by
    rw [← UInt64.toNat_inj]
    rfl
  unfold wordQuotient at h
  rw [hzero]
  split at h
  next hnone =>
    rw [Option.map_eq_none_iff] at h
    rw [h]
    exact ⟨iff_of_true rfl hnone, nofun⟩
  next hsome =>
    obtain ⟨q, hq, hval⟩ := Option.map_eq_some_iff.mp h
    rw [hq]
    refine ⟨iff_of_false (Option.some_ne_none q) hsome, fun q' hq' => ?_⟩
    rw [← Option.some.inj hq', hval]

/-- **Multiply-divide is exact**: the portable division fails only where the
divisor is zero or the floor does not fit, and is the floor otherwise, as on the
128-bit path; the same of the ceiling, on both paths. -/
theorem mulDiv_exact (a b d : UInt64) :
    (mulDivFloorReference a b d = none ↔ d = 0 ∨ 2 ^ 64 ≤ a.toNat * b.toNat / d.toNat) ∧
    (∀ q, mulDivFloorReference a b d = some q → q.toNat = a.toNat * b.toNat / d.toNat) ∧
    mulDivFloor a b d = mulDivFloorReference a b d ∧
    (mulDivCeil a b d = none ↔ d = 0 ∨ 2 ^ 64 ≤ a.toNat * b.toNat ⌈/⌉ d.toNat) ∧
    (∀ q, mulDivCeil a b d = some q → q.toNat = a.toNat * b.toNat ⌈/⌉ d.toNat) ∧
    mulDivCeil a b d = mulDivCeilPortable a b d := by
  have hfloor := of_wordQuotient
    ((mulDivFloorReference_toNat a b d).trans (mulDivFloor_eq_wordQuotient a b d))
  have hceil := of_wordQuotient ((mulDivCeil_toNat a b d).trans (mulDivCeil_eq_wordQuotient a b d))
  exact ⟨hfloor.1, hfloor.2, (mulDivFloorReference_eq a b d).symm, hceil.1, hceil.2,
    (mulDivCeilPortable_eq a b d).symm⟩

example : mulDivFloorReference 0xFFFFFFFFFFFFFFFF 0xFFFFFFFFFFFFFFFF 0xFFFFFFFFFFFFFFFF =
    some 0xFFFFFFFFFFFFFFFF := by decide +kernel

end Oversub
