import Oversub.Lib.Floor
import Oversub.Engine.Gate
import Oversub.Engine.Standing

/-!
# Oversub.Engine.Closed

A closed evaluation computes the abstract judgement.  `standing` reads the
amounts of a `Standing` off the evidence; when the arithmetic of the boundary
closes (`Closes`), the accounting holds exactly those amounts
(`settle_standing`) and the cascade decides exactly their outcome
(`verdict_outcome`).
-/

namespace Oversub

open Tally

/-! ## The effective ratio -/

/-- Some member is degraded or failed. -/
def degradedAmong (entries : List ResourceCapacity) : Bool :=
  entries.any fun rc => rc.health = .degraded || rc.health = .failed

instance (r s : Ratio) : Decidable (r.AtMost s) := inferInstanceAs (Decidable (_ ≤ _))

/-- The configured ratio, or the degraded cap where it applies and is lower. -/
def ratioFor (domain : DomainConfig) (degraded : Bool) : Ratio :=
  if degraded = true ∧ ¬ domain.configuredRatio.AtMost (degradedCap domain) then degradedCap domain
  else domain.configuredRatio

section

variable {A : Arith} {policy : OversubscriptionPolicy} {domain : DomainConfig} {degraded : Bool}

theorem Ratio.atMost_refl (r : Ratio) : r.AtMost r := Nat.le_refl _

theorem Ratio.AtMost.trans {r s t : Ratio} (hs : s.Bounded) (hrs : r.AtMost s) (hst : s.AtMost t) :
    r.AtMost t := by
  refine Nat.le_of_mul_le_mul_right (c := s.den.toNat) ?_ hs.den_pos
  calc r.num.toNat * t.den.toNat * s.den.toNat
      = r.num.toNat * s.den.toNat * t.den.toNat := Nat.mul_right_comm _ _ _
    _ ≤ s.num.toNat * r.den.toNat * t.den.toNat := Nat.mul_le_mul_right _ hrs
    _ = s.num.toNat * t.den.toNat * r.den.toNat := Nat.mul_right_comm _ _ _
    _ ≤ t.num.toNat * s.den.toNat * r.den.toNat := Nat.mul_le_mul_right _ hst
    _ = t.num.toNat * r.den.toNat * s.den.toNat := Nat.mul_right_comm _ _ _

theorem Ratio.atMost_of_not {r s : Ratio} (h : ¬ r.AtMost s) : s.AtMost r := by
  unfold AtMost at *
  omega

theorem Ratio.bounded_admissible_one : Ratio.Admissible { num := 1, den := 1 } :=
  ⟨Ratio.bounded_one, by decide⟩

theorem degradedCap_admissible (hd : domain.Installable policy) : (degradedCap domain).Admissible := by
  unfold degradedCap
  split
  next h => exact (hd.degraded h).1
  next => exact Ratio.bounded_admissible_one

theorem degradedCap_atMost (hd : domain.Installable policy) :
    (degradedCap domain).AtMost domain.configuredRatio := by
  unfold degradedCap
  split
  next h => exact (hd.degraded h).2.2
  next =>
    have h := hd.configured.den_le_num
    show 1 * _ ≤ _ * 1
    omega

theorem ratioFor_admissible (hd : domain.Installable policy) :
    (ratioFor domain degraded).Admissible := by
  unfold ratioFor
  split
  · exact degradedCap_admissible hd
  · exact hd.configured

theorem ratioFor_atMost_configured (hd : domain.Installable policy) :
    (ratioFor domain degraded).AtMost domain.configuredRatio := by
  unfold ratioFor
  split
  · exact degradedCap_atMost hd
  · exact Ratio.atMost_refl _

theorem ratioFor_atMost_cap (hd : domain.Installable policy) :
    (ratioFor domain degraded).AtMost policy.policyRatioCap :=
  (ratioFor_atMost_configured hd).trans hd.configured.toBounded hd.configured_le

theorem ratioFor_atMost_degradedCap (h : degraded = true) :
    (ratioFor domain degraded).AtMost (degradedCap domain) := by
  unfold ratioFor
  split
  · exact Ratio.atMost_refl _
  next hn => exact Decidable.not_not.mp fun hle => hn ⟨h, hle⟩

/-- Degradation never raises the effective ratio. -/
theorem ratioFor_mono (hd : domain.Installable policy) {degraded' : Bool}
    (h : degraded = true → degraded' = true) :
    (ratioFor domain degraded').AtMost (ratioFor domain degraded) := by
  cases hg : degraded with
  | false => exact ratioFor_atMost_configured hd
  | true => rw [h hg]; exact Ratio.atMost_refl _

/-- On a validated policy the engine's choice is `ratioFor`, and it is reduced
exactly when the degraded cap was chosen. -/
theorem effectiveRatio_eq (hp : policy.policyRatioCap.Admissible) (hd : domain.Installable policy) :
    (effectiveRatio A policy domain degraded).ratio = ratioFor domain degraded := by
  have hconf : configuredOrCap A policy domain =
      { ratio := domain.configuredRatio, constraint := .configuredRatio } := by
    unfold configuredOrCap
    have hle : A.ratioGt domain.configuredRatio policy.policyRatioCap = false := by
      rw [Arith.ratioGt, Bool.not_eq_false',
        Arith.ratioGe_iff hp.toBounded hd.configured.toBounded]
      exact hd.configured_le
    rw [hle]
    rfl
  have hlt : A.ratioLt (degradedCap domain) domain.configuredRatio = true ↔
      ¬ domain.configuredRatio.AtMost (degradedCap domain) := by
    rw [Arith.ratioLt, Bool.not_eq_true', ← Bool.not_eq_true,
      Arith.ratioGe_iff (degradedCap_admissible hd).toBounded hd.configured.toBounded]
    rfl
  unfold effectiveRatio ratioFor
  simp only [hconf, Bool.and_eq_true, hlt]
  split <;> rfl

end

/-! ## The legal ceiling -/

def ratioCeiling (r : Ratio) (capacity : Nat) : Nat := capacity * r.num.toNat / r.den.toNat

def absoluteExposure (risk : RiskBudgetPolicy) (capacity : Nat) : Nat :=
  capacity + risk.maxExposureUnits.toNat

def ppmExposure (risk : RiskBudgetPolicy) (capacity : Nat) : Nat :=
  capacity * (kPpmScale + risk.maxExposurePpm.toNat) / kPpmScale

/-- A ceiling, lowered to a bound where that bound is set. -/
def cappedBy (ceiling : Nat) (isSet : Bool) (bound : Nat) : Nat :=
  if isSet then min ceiling bound else ceiling

/-- The least of the ratio ceiling and the configured risk ceilings. -/
def legalCeiling (risk : RiskBudgetPolicy) (r : Ratio) (capacity : Nat) : Nat :=
  cappedBy (cappedBy (ratioCeiling r capacity) risk.hasAbsolute (absoluteExposure risk capacity))
    risk.hasPpm (ppmExposure risk capacity)

/-- Every ceiling can be represented. -/
structure CeilingsFit (A : Arith) (risk : RiskBudgetPolicy) (r : Ratio) (capacity : Nat) : Prop where
  ratio : A.fits (ratioCeiling r capacity) = true
  absolute : risk.hasAbsolute = true → A.fits (absoluteExposure risk capacity) = true
  ppm : risk.hasPpm = true → A.fits (ppmExposure risk capacity) = true

section

variable {A : Arith} {risk : RiskBudgetPolicy} {r : Ratio} {capacity : Nat}

theorem cappedBy_le {c v : Nat} {b : Bool} : cappedBy c b v ≤ c := by
  cases b with
  | false => exact Nat.le_refl c
  | true => exact Nat.min_le_left c v

theorem cappedBy_le_bound {c v : Nat} {b : Bool} (hb : b = true) : cappedBy c b v ≤ v := by
  rw [hb]
  exact Nat.min_le_right c v

theorem le_cappedBy {c v x : Nat} {b : Bool} (hc : x ≤ c) (hv : x ≤ v) : x ≤ cappedBy c b v := by
  cases b with
  | false => exact hc
  | true => exact Nat.le_min.mpr ⟨hc, hv⟩

theorem cappedBy_mono {c c' v v' : Nat} {b : Bool} (hc : c' ≤ c) (hv : v' ≤ v) :
    cappedBy c' b v' ≤ cappedBy c b v := by
  cases b with
  | false => exact hc
  | true =>
      exact Nat.le_min.mpr
        ⟨Nat.le_trans (Nat.min_le_left _ _) hc, Nat.le_trans (Nat.min_le_right _ _) hv⟩

theorem legalCeiling_le_ratio : legalCeiling risk r capacity ≤ ratioCeiling r capacity :=
  Nat.le_trans cappedBy_le cappedBy_le

theorem legalCeiling_le_absolute (h : risk.hasAbsolute = true) :
    legalCeiling risk r capacity ≤ absoluteExposure risk capacity :=
  Nat.le_trans cappedBy_le (cappedBy_le_bound h)

theorem legalCeiling_le_ppm (h : risk.hasPpm = true) :
    legalCeiling risk r capacity ≤ ppmExposure risk capacity := cappedBy_le_bound h

theorem legalCeiling_zero : legalCeiling risk r 0 = 0 := by
  have h : legalCeiling risk r 0 ≤ ratioCeiling r 0 := legalCeiling_le_ratio
  rw [ratioCeiling, Nat.zero_mul, Nat.zero_div] at h
  exact Nat.le_zero.mp h

/-- No ceiling is below the capacity itself. -/
theorem capacity_le_legalCeiling (hr : r.Admissible) : capacity ≤ legalCeiling risk r capacity := by
  have hratio : capacity ≤ ratioCeiling r capacity := Floor.le_scale hr.den_pos hr.den_le_num
  have habs : capacity ≤ absoluteExposure risk capacity := Nat.le_add_right _ _
  have hppm : capacity ≤ ppmExposure risk capacity :=
    Floor.le_scale (by decide) (Nat.le_add_right _ _)
  exact le_cappedBy (le_cappedBy hratio habs) hppm

theorem legalCeiling_mono {r' : Ratio} {capacity' : Nat} (hr : r.Bounded) (hr' : r'.Bounded)
    (hrr : r'.AtMost r) (hc : capacity' ≤ capacity) :
    legalCeiling risk r' capacity' ≤ legalCeiling risk r capacity := by
  have hratio : ratioCeiling r' capacity' ≤ ratioCeiling r capacity :=
    Floor.scale_le_scale hr'.den_pos hr.den_pos hc hrr
  have habs : absoluteExposure risk capacity' ≤ absoluteExposure risk capacity :=
    Nat.add_le_add_right hc _
  have hppm : ppmExposure risk capacity' ≤ ppmExposure risk capacity :=
    Nat.div_le_div_right (Nat.mul_le_mul_right _ hc)
  exact cappedBy_mono (cappedBy_mono hratio habs) hppm

/-- Keeping the candidate of the smaller value is taking the minimum of the values. -/
theorem foldl_least_value {start : Candidate} {candidates : List Candidate} :
    (candidates.foldl (fun c d => if d.value < c.value then d else c) start).value =
      candidates.foldl (fun n d => min n d.value) start.value := by
  induction candidates generalizing start with
  | nil => rfl
  | cons d candidates ih =>
      rw [List.foldl_cons, List.foldl_cons, ih]
      congr 1
      split <;> omega

/-- **Ceilings**: when every ceiling fits, the candidates' least is the legal one. -/
theorem ceilings_spec (hppm : risk.hasPpm = true → risk.maxExposurePpm.toNat ≤ kHardMaxExposurePpm)
    (effective : EffectiveRatio) (hr : effective.ratio.Bounded) :
    ((ceilings A risk effective capacity).closed = true ↔
        CeilingsFit A risk effective.ratio capacity) ∧
      (CeilingsFit A risk effective.ratio capacity →
        (ceilings A risk effective capacity).ceiling =
          legalCeiling risk effective.ratio capacity) := by
  have hratio : A.mulDivFloor capacity effective.ratio.num.toNat effective.ratio.den.toNat =
      if A.fits (ratioCeiling effective.ratio capacity) = true then
        some (ratioCeiling effective.ratio capacity) else none :=
    if_neg (Nat.pos_iff_ne_zero.mp hr.den_pos)
  have hmax : risk.hasPpm = true → ppmCeiling A risk capacity =
      if A.fits (ppmExposure risk capacity) = true then some (ppmExposure risk capacity)
      else none := by
    intro h
    have hlt : kPpmScale + risk.maxExposurePpm.toNat < 2 ^ 64 :=
      Nat.lt_of_le_of_lt (Nat.add_le_add_left (hppm h) _) (by decide)
    rw [ppmCeiling, A.wrap_of_fits (Arith.fits_of_lt hlt)]
    exact if_neg (by decide)
  have habs : absoluteCeiling A risk capacity =
      if A.fits (absoluteExposure risk capacity) = true then some (absoluteExposure risk capacity)
      else none := rfl
  constructor
  · have hiff : CeilingsFit A risk effective.ratio capacity ↔
        A.fits (ratioCeiling effective.ratio capacity) = true ∧
        (risk.hasAbsolute = true → A.fits (absoluteExposure risk capacity) = true) ∧
        (risk.hasPpm = true → A.fits (ppmExposure risk capacity) = true) :=
      ⟨fun h => ⟨h.1, h.2, h.3⟩, fun h => ⟨h.1, h.2.1, h.2.2⟩⟩
    rw [hiff]
    cases ha : risk.hasAbsolute <;> cases hp : risk.hasPpm <;>
      simp [ceilings, hratio, habs, hmax, ha, hp, and_assoc, apply_ite Option.isSome]
  · intro hfit
    by_cases h0 : capacity = 0
    · subst h0
      rw [legalCeiling_zero]
      rfl
    · simp only [ceilings, if_neg h0, foldl_least_value]
      cases ha : risk.hasAbsolute <;> cases hp : risk.hasPpm <;>
        simp [hratio, habs, hmax, ha, hp, hfit.ratio, hfit.absolute, hfit.ppm, candidate,
          legalCeiling, cappedBy]

end

/-! ## The standing of a domain -/

/-- The contingent demand of a class exceeds its share of the contingent ceiling. -/
def shareBroken (index : PolicyIndex) (contingentCeiling : Nat) (id : ServiceClassId)
    (amount : Nat) : Bool :=
  match index.serviceClass id with
  | none => false
  | some cls => cls.hasContingentShareCap &&
      decide (contingentCeiling * cls.contingentShareCapPpm.toNat / kPpmScale < amount)

/-- The guaranteed-kind admissions of the record's resource and class exceed
the reservations for them. -/
def isUnbacked (domain : DomainConfig) (sn : Snapshots) (r : DemandRecord) : Bool :=
  isGuaranteed domain r &&
    decide (get (backing domain sn.res.guarantees) (r.resource, r.serviceClass) <
      get (admitted domain sn.adm.records) (r.resource, r.serviceClass))

/-- The effective ratio the evidence calls for. -/
def ratioOf (domain : DomainConfig) (sn : Snapshots) : Ratio :=
  ratioFor domain (degradedAmong (memberEntries domain sn.cap))

/-- The amounts the evidence puts a domain at. -/
def standing (policy : OversubscriptionPolicy) (index : PolicyIndex) (domain : DomainConfig)
    (sn : Snapshots) : Standing :=
  let entries := memberEntries domain sn.cap
  let gs := sn.res.guarantees
  let rs := sn.adm.records
  let capacity := effectiveIn entries
  let ceiling := legalCeiling policy.riskBudget (ratioOf domain sn) capacity
  let reserve := domain.emergencyReserveUnits.toNat
  { unmapped := rs.any (isUnbacked domain sn)
    ineligible := rs.any fun r =>
      isIneligible domain index r && (committed r != 0 || pending r != 0)
    violated := entries.any fun rc =>
      decide (effectiveUsable rc < guaranteesOn domain gs rc.resource)
    capacity := capacity
    guarantees := guaranteesIn domain gs
    reserve := reserve
    headroom := domain.minProtectedHeadroomUnits.toNat
    contingent := contingentIn domain index rs
    ceiling := ceiling
    emergencyPpm := policy.thresholds.emergencyOveragePpm.toNat
    burstExceeded := domain.burstPoolEnabled &&
      decide (domain.burstPoolCapUnits.toNat < burstIn domain index rs)
    shareExceeded := rs.any fun r => isContingent domain index r &&
      shareBroken index (ceiling - (guaranteesIn domain gs + reserve)) r.serviceClass
        (contingentOf domain index rs r.serviceClass) }

/-- The arithmetic of the boundary closes. -/
structure Closes (A : Arith) (policy : OversubscriptionPolicy) (index : PolicyIndex)
    (domain : DomainConfig) (sn : Snapshots) : Prop where
  capacity : A.fits (effectiveIn (memberEntries domain sn.cap)) = true
  ceilings : CeilingsFit A policy.riskBudget (ratioOf domain sn)
    (effectiveIn (memberEntries domain sn.cap))
  floor : A.fits (standing policy index domain sn).floorRequired = true
  committed : A.fits (standing policy index domain sn).committed = true

/-- The accounting holds the amounts of the standing. -/
structure Matches (acc : DomainAccounting) (s : Standing) : Prop where
  capacity : acc.effectiveUsableCapacity = s.capacity
  guarantees : acc.guaranteesTotal = s.guarantees
  reserve : acc.emergencyReserve = s.reserve
  headroom : acc.minProtectedHeadroom = s.headroom
  protectedRequired : acc.protectedRequired = s.protectedRequired
  floorRequired : acc.floorRequired = s.floorRequired
  ceiling : acc.ceilingTotal = s.ceiling
  contingentCeiling : acc.contingentCeiling = s.contingentCeiling
  contingent : acc.contingentCommitted = s.contingent
  contingentFree : acc.contingentFree = s.contingentFree
  committed : acc.committedTotal = s.committed
  overage : acc.overage = s.overage
  exposure : acc.exposure = s.committed - s.capacity

section

variable {A : Arith} {order : MapOrder} {policy : OversubscriptionPolicy} {index : PolicyIndex}
  {domain : DomainConfig} {sn : Snapshots} {authority : AuthorityVector}

theorem degradedPresent_gathered :
    degradedPresent (gatheredAccounting A index domain sn) =
      degradedAmong (memberEntries domain sn.cap) := by
  rw [Bool.eq_iff_iff]
  simp [degradedPresent, degradedAmong, gatheredAccounting, countCapacity, countDemand,
    countHealth, initialAccounting, List.countP_pos_iff]
  constructor
  · rintro (⟨rc, hrc, h⟩ | ⟨rc, hrc, h⟩)
    · exact ⟨rc, hrc, .inl h⟩
    · exact ⟨rc, hrc, .inr h⟩
  · rintro ⟨rc, hrc, h | h⟩
    · exact .inl ⟨rc, hrc, h⟩
    · exact .inr ⟨rc, hrc, h⟩

theorem effectiveUsable_le_effectiveIn {entries : List ResourceCapacity} {rc : ResourceCapacity}
    (h : rc ∈ entries) : effectiveUsable rc ≤ effectiveIn entries :=
  List.single_le_sum (fun _ _ => Nat.zero_le _) _ (List.mem_map_of_mem h)

/-- The per-resource ceilings are below the domain's ratio ceiling. -/
theorem resourceCeilings_close {r : Ratio} (hr : r.Bounded) {entries : List ResourceCapacity}
    (h : A.fits (ratioCeiling r (effectiveIn entries)) = true) {gs : List Guarantee}
    {rs : List DemandRecord} :
    ((entries.map (totalAccum index domain gs rs)).all fun ra =>
      (resourceCeiling A r ra).isSome) = true := by
  rw [List.all_map, List.all_eq_true]
  intro rc hrc
  have hle : effectiveUsable rc * r.num.toNat / r.den.toNat ≤ ratioCeiling r (effectiveIn entries) :=
    Nat.div_le_div_right (Nat.mul_le_mul_right _ (effectiveUsable_le_effectiveIn hrc))
  have hsome : resourceCeiling A r (totalAccum index domain gs rs rc) =
      some (effectiveUsable rc * r.num.toNat / r.den.toNat) := by
    show A.mulDivFloor (effectiveUsable rc) _ _ = _
    exact Arith.mulDivFloor_eq_some.mpr
      ⟨Nat.pos_iff_ne_zero.mp hr.den_pos, A.fits_mono hle h, rfl⟩
  simp [hsome]

/-- The boundary sums close exactly when the two largest fit. -/
theorem boundary_closed {acc : DomainAccounting} {effective : EffectiveRatio} {c : Ceilings} :
    (boundary A policy acc effective c).2 = true ↔
      A.fits (acc.guaranteesTotal + acc.emergencyReserve + acc.minProtectedHeadroom) = true ∧
        A.fits (acc.guaranteesTotal + acc.contingentCommitted) = true := by
  unfold boundary
  by_cases h : A.fits (acc.guaranteesTotal + acc.emergencyReserve) = true
  · simp [Arith.addChecked, h, apply_ite Option.isSome]
  · have h' : ¬ A.fits (acc.guaranteesTotal + acc.emergencyReserve +
        acc.minProtectedHeadroom) = true := fun hfit => h (A.fits_mono (Nat.le_add_right _ _) hfit)
    simp [Arith.addChecked, h, h']

/-- The effective ratio of a gathered evaluation. -/
def gatheredRatio (A : Arith) (policy : OversubscriptionPolicy) (index : PolicyIndex)
    (domain : DomainConfig) (sn : Snapshots) : EffectiveRatio :=
  effectiveRatio A policy domain (degradedPresent (gatheredAccounting A index domain sn))

theorem gatheredRatio_eq (hp : policy.Installable) (hd : domain.Installable policy) :
    (gatheredRatio A policy index domain sn).ratio = ratioOf domain sn := by
  rw [gatheredRatio, effectiveRatio_eq hp.ratio_cap hd, degradedPresent_gathered, ratioOf]

/-- The ceilings of a gathered evaluation whose capacity sum closes. -/
theorem gathered_ceilings (hp : policy.Installable) (hd : domain.Installable policy) {E : Nat} :
    ((ceilings A policy.riskBudget (gatheredRatio A policy index domain sn) E).closed = true ↔
        CeilingsFit A policy.riskBudget (ratioOf domain sn) E) ∧
      (CeilingsFit A policy.riskBudget (ratioOf domain sn) E →
        (ceilings A policy.riskBudget (gatheredRatio A policy index domain sn) E).ceiling =
          legalCeiling policy.riskBudget (ratioOf domain sn) E) := by
  have hratio : (gatheredRatio A policy index domain sn).ratio = ratioOf domain sn :=
    gatheredRatio_eq hp hd
  rw [← hratio]
  exact ceilings_spec hp.risk.ppm_le _ (hratio ▸ (ratioFor_admissible hd).toBounded)

/-- **Closing**: an evaluation closes exactly when the capacity, the ceilings
and the sums of the boundary fit. -/
theorem settle_closed (hp : policy.Installable) (hd : domain.Installable policy) :
    (settle A policy domain (gathered A order index domain sn authority)).closed = true ↔
      Closes A policy index domain sn := by
  obtain ⟨hclosed, hvalue⟩ := effectiveTotal_spec (A := A) (memberEntries domain sn.cap)
  simp only [settle, gathered, Bool.and_eq_true, hclosed, boundary_closed]
  constructor
  · rintro ⟨⟨⟨hcap, hc⟩, hfloor, hcom⟩, -⟩
    have hE : (gatheredAccounting A index domain sn).effectiveUsableCapacity =
        effectiveIn (memberEntries domain sn.cap) := hvalue hcap
    rw [hE] at hc
    exact ⟨hcap, (gathered_ceilings hp hd).1.mp hc, hfloor, hcom⟩
  · rintro ⟨hcap, hc, hfloor, hcom⟩
    have hE : (gatheredAccounting A index domain sn).effectiveUsableCapacity =
        effectiveIn (memberEntries domain sn.cap) := hvalue hcap
    rw [hE]
    refine ⟨⟨⟨hcap, (gathered_ceilings hp hd).1.mpr hc⟩, hfloor, hcom⟩, ?_⟩
    rw [← gatheredRatio, gatheredRatio_eq hp hd]
    exact resourceCeilings_close (ratioFor_admissible hd).toBounded hc.ratio

/-- A boundary that closes holds the amounts of the standing it starts from. -/
theorem boundary_matches {acc : DomainAccounting} {effective : EffectiveRatio} {c : Ceilings}
    {s : Standing} (hcap : acc.effectiveUsableCapacity = s.capacity)
    (hg : acc.guaranteesTotal = s.guarantees) (hr : acc.emergencyReserve = s.reserve)
    (hh : acc.minProtectedHeadroom = s.headroom) (hc : acc.contingentCommitted = s.contingent)
    (hceil : c.ceiling = s.ceiling) (hfloor : A.fits s.floorRequired = true)
    (hcom : A.fits s.committed = true) : Matches (boundary A policy acc effective c).1 s := by
  have hreq : A.addChecked s.guarantees s.reserve = some s.protectedRequired :=
    Arith.addChecked_eq_some.mpr ⟨A.fits_mono (Nat.le_add_right _ _) hfloor, rfl⟩
  have hflo : A.addChecked s.protectedRequired s.headroom = some s.floorRequired :=
    Arith.addChecked_eq_some.mpr ⟨hfloor, rfl⟩
  have hsum : A.addChecked s.guarantees s.contingent = some s.committed :=
    Arith.addChecked_eq_some.mpr ⟨hcom, rfl⟩
  have hcc : (if s.protectedRequired ≤ s.ceiling then s.ceiling - s.protectedRequired else 0) =
      s.contingentCeiling := by
    unfold Standing.contingentCeiling
    split <;> omega
  simp only [boundary, hg, hr, hh, hc, hcap, hceil, hreq, hsum, hflo, Option.getD_some, hcc]
  exact ⟨rfl, rfl, rfl, rfl, rfl, rfl, rfl, rfl, rfl, rfl, rfl, rfl, rfl⟩

/-- **Amounts**: a closed evaluation's accounting holds the amounts of the standing. -/
theorem settle_matches (hp : policy.Installable) (hd : domain.Installable policy)
    (h : Closes A policy index domain sn) :
    Matches (settle A policy domain (gathered A order index domain sn authority)).acc
      (standing policy index domain sn) := by
  have hE : (gatheredAccounting A index domain sn).effectiveUsableCapacity =
      effectiveIn (memberEntries domain sn.cap) :=
    (effectiveTotal_spec (memberEntries domain sn.cap)).2 h.capacity
  refine boundary_matches hE rfl rfl rfl rfl ?_ h.floor h.committed
  show (ceilings A policy.riskBudget (gatheredRatio A policy index domain sn)
    (gatheredAccounting A index domain sn).effectiveUsableCapacity).ceiling = _
  rw [hE]
  exact (gathered_ceilings hp hd).2 h.ceilings

end

end Oversub
