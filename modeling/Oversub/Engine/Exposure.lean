import Oversub.Engine.Grant

/-!
# Oversub.Engine.Exposure

The risk budgets.  The fold over them starts from zero, and zero is also what a
budget comes to without capacity: then the boundary takes the budget for one
that is not set, and no commitment exceeds it (`budget_exact_iff`).
-/

namespace Oversub

/-- The least of the configured risk budgets. -/
def leastBudget (risk : RiskBudgetPolicy) (capacity : Nat) : Nat :=
  if risk.hasAbsolute then cappedBy (absoluteExposure risk capacity) risk.hasPpm (ppmExposure risk capacity)
  else ppmExposure risk capacity

section

variable {A : Arith} {risk : RiskBudgetPolicy} {lim : PolicyLimits} {effective : EffectiveRatio} {r : Ratio}
  {capacity : Nat}

/-- No ceiling is above the budget. -/
theorem legalCeiling_le_budget (h : risk.Installable lim) :
    legalCeiling risk r capacity ≤ leastBudget risk capacity := by
  unfold leastBudget
  split
  next ha =>
    cases hp : risk.hasPpm with
    | false => exact legalCeiling_le_absolute ha
    | true => exact Nat.le_min.mpr ⟨legalCeiling_le_absolute ha, legalCeiling_le_ppm hp⟩
  next ha => exact legalCeiling_le_ppm (h.some_ceiling.resolve_left ha)

theorem ppmExposure_eq_zero : ppmExposure risk capacity = 0 ↔ capacity = 0 := by
  have hle : capacity ≤ ppmExposure risk capacity := Floor.le_scale (by decide) (Nat.le_add_right _ _)
  constructor
  · omega
  · intro h
    simp [ppmExposure, h]

/-- The budget is zero without capacity only, and not even then if it is an
absolute one with units of its own. -/
theorem leastBudget_pos (h : risk.Installable lim) :
    0 < leastBudget risk capacity ↔
      0 < capacity ∨ risk.hasPpm = false ∧ 0 < risk.maxExposureUnits.toNat := by
  have hppm := @ppmExposure_eq_zero risk capacity
  unfold leastBudget cappedBy absoluteExposure
  cases ha : risk.hasAbsolute with
  | false =>
      have hp : risk.hasPpm = true := h.some_ceiling.resolve_left (by simp [ha])
      simp only [hp, Bool.false_eq_true, if_false]
      simp
      omega
  | true =>
      cases hp : risk.hasPpm with
      | false => simp
      | true =>
          simp
          omega

theorem lowerRiskCeiling_some {a p : Nat} (h : a = 0 → p = 0) :
    lowerRiskCeiling (lowerRiskCeiling 0 (some a)) (some p) = min a p := by
  simp only [lowerRiskCeiling, true_or, if_true]
  split <;> omega

/-- The fold over the budgets ends with the least. -/
theorem ceilings_riskCeiling (h : risk.Installable lim) (hfit : CeilingsFit A risk r capacity) :
    (ceilings A risk effective capacity).riskCeiling = leastBudget risk capacity := by
  have hppm : risk.hasPpm = true → ppmCeiling A risk capacity = some (ppmExposure risk capacity) := by
    intro hp
    have hmax := h.ppm_le hp
    have hlt : kPpmScale + risk.maxExposurePpm.toNat < 2 ^ 64 :=
      Nat.lt_of_le_of_lt (Nat.add_le_add_left hmax _) (by decide)
    rw [ppmCeiling, A.wrap_of_fits (Arith.fits_of_lt hlt)]
    exact Arith.mulDivFloor_eq_some.mpr ⟨by decide, hfit.ppm hp, rfl⟩
  have habsolute : risk.hasAbsolute = true → absoluteCeiling A risk capacity =
      some (absoluteExposure risk capacity) := fun ha => Arith.addChecked_eq_some.mpr ⟨hfit.absolute ha, rfl⟩
  have hzero : absoluteExposure risk capacity = 0 → ppmExposure risk capacity = 0 := by
    intro ha
    rw [ppmExposure_eq_zero]
    unfold absoluteExposure at ha
    omega
  unfold ceilings leastBudget
  dsimp only
  cases ha : risk.hasAbsolute with
  | false =>
      have hp : risk.hasPpm = true := h.some_ceiling.resolve_left (by simp [ha])
      simp [hp, hppm hp, lowerRiskCeiling]
  | true =>
      cases hp : risk.hasPpm with
      | false => simp [habsolute ha, lowerRiskCeiling, cappedBy]
      | true =>
          simp only [if_true, habsolute ha, hppm hp]
          exact lowerRiskCeiling_some hzero

end

/-! ## The flag -/

/-- The flag and the ceiling agree with the budget. -/
structure BudgetExact (risk : RiskBudgetPolicy) (acc : DomainAccounting) : Prop where
  exceeded : acc.riskBudgetExceeded = true ↔
    leastBudget risk acc.effectiveUsableCapacity < acc.committedTotal
  ceiling : acc.ceilingTotal ≤ leastBudget risk acc.effectiveUsableCapacity

section

variable {A : Arith} {order : MapOrder} {policy : OversubscriptionPolicy} {domain : DomainConfig}
  {expectation : AuthorityExpectation} {sn : Snapshots} {tick : UInt64}

/-- A budget of zero is taken for one that is not set. -/
theorem evaluate_riskBudgetExceeded (hp : policy.Installable) (hd : domain.Installable policy)
    (h : Reaches A policy domain expectation sn tick) :
    (evaluateDomainIn A order policy (.rebuild policy) domain expectation sn.evidence
        tick).accounting.riskBudgetExceeded = true ↔
      0 < leastBudget policy.riskBudget (standing policy (.rebuild policy) domain sn).capacity ∧
        leastBudget policy.riskBudget (standing policy (.rebuild policy) domain sn).capacity <
          (standing policy (.rebuild policy) domain sn).committed := by
  have hdecides : Decides (evaluateDomainIn A order policy (.rebuild policy) domain expectation sn.evidence tick)
      (standing policy (.rebuild policy) domain sn) := evaluate_decides hp hd h
  have hcapacity : (gatheredAccounting A (.rebuild policy) domain sn).effectiveUsableCapacity =
      (standing policy (.rebuild policy) domain sn).capacity :=
    (effectiveTotal_spec (memberEntries domain sn.cap)).2 h.closes.capacity
  have hbudget : (ceilings A policy.riskBudget (gatheredRatio A policy (.rebuild policy) domain sn)
      (gatheredAccounting A (.rebuild policy) domain sn).effectiveUsableCapacity).riskCeiling =
        leastBudget policy.riskBudget (standing policy (.rebuild policy) domain sn).capacity := by
    rw [hcapacity]
    exact ceilings_riskCeiling hp.risk h.closes.ceilings
  have hflag : (evaluateDomainIn A order policy (.rebuild policy) domain expectation sn.evidence
      tick).accounting.riskBudgetExceeded =
        ((ceilings A policy.riskBudget (gatheredRatio A policy (.rebuild policy) domain sn)
            (gatheredAccounting A (.rebuild policy) domain sn).effectiveUsableCapacity).riskCeiling ≠ 0 &&
          decide ((ceilings A policy.riskBudget (gatheredRatio A policy (.rebuild policy) domain sn)
            (gatheredAccounting A (.rebuild policy) domain sn).effectiveUsableCapacity).riskCeiling <
              (evaluateDomainIn A order policy (.rebuild policy) domain expectation sn.evidence
                tick).accounting.committedTotal)) := by
    rw [evaluate_eq_finish hp hd h]
    rfl
  rw [hflag, hbudget, hdecides.amounts.committed]
  simp [Nat.pos_iff_ne_zero]

/-- Where the flag is only up with a budget, it is right unless there is none. -/
theorem budgetExact_iff {risk : RiskBudgetPolicy} {acc : DomainAccounting} {s : Standing} (hmatches : Matches acc s)
    (hflag : acc.riskBudgetExceeded = true ↔
      0 < leastBudget risk s.capacity ∧ leastBudget risk s.capacity < s.committed)
    (hle : s.ceiling ≤ leastBudget risk s.capacity) :
    BudgetExact risk acc ↔ 0 < leastBudget risk s.capacity ∨ s.committed = 0 := by
  constructor
  · intro hexact
    have hexceeded := hexact.exceeded
    rw [hflag, hmatches.capacity, hmatches.committed] at hexceeded
    omega
  · intro h
    constructor
    · rw [hflag, hmatches.capacity, hmatches.committed]
      omega
    · rwa [hmatches.ceiling, hmatches.capacity]

/-- **The risk budget** is accounted for exactly, unless it is zero and
something is committed. -/
theorem budget_exact_iff (hp : (validatePolicy policy).isOk = true) (hd : domain ∈ policy.domains)
    (h : Reaches .u64 policy domain expectation sn tick) :
    BudgetExact policy.riskBudget (evaluateDomain order policy (.rebuild policy) domain expectation sn.evidence
        tick).accounting ↔
      (0 < effectiveIn (memberEntries domain sn.cap) ∨
        policy.riskBudget.hasPpm = false ∧ 0 < policy.riskBudget.maxExposureUnits.toNat) ∨
      guaranteesIn domain sn.res.guarantees + contingentIn domain (.rebuild policy) sn.adm.records = 0 := by
  have hpi := validatePolicy_installable hp
  have hdi := hpi.domains domain hd
  have hdecides : Decides (evaluateDomain order policy (.rebuild policy) domain expectation sn.evidence tick)
      (standing policy (.rebuild policy) domain sn) := evaluate_decides hpi hdi h
  rw [← leastBudget_pos hpi.risk]
  exact budgetExact_iff hdecides.amounts (evaluate_riskBudgetExceeded hpi hdi h) (legalCeiling_le_budget hpi.risk)

theorem budget_exact_sample : BudgetExact samplePolicy.riskBudget
    (evaluateDomain .listed samplePolicy (.rebuild samplePolicy) sampleDomain sampleExpectation
      (sampleSnapshots 100 50).evidence 0).accounting :=
  (budget_exact_iff samplePolicy_valid sampleDomain_mem (sample_reaches (by decide +kernel))).mpr
    (.inl (.inl (by decide +kernel)))

end

/-! ## A total failure -/

/-- The sample with a budget of a tenth of the capacity. -/
def tenthPolicy : OversubscriptionPolicy :=
  { samplePolicy with
    riskBudget := { id := ⟨1⟩, generation := ⟨1⟩, hasPpm := true, maxExposurePpm := 100000 } }

theorem tenthPolicy_valid : (validatePolicy tenthPolicy).isOk = true := by decide +kernel

theorem tenth_reaches : Reaches .u64 tenthPolicy sampleDomain sampleExpectation (sampleSnapshots 0 50) 0 := by
  have hpi := validatePolicy_installable tenthPolicy_valid
  have hmild : (evaluateDomainIn .u64 .listed tenthPolicy (.rebuild tenthPolicy) sampleDomain sampleExpectation
      (sampleSnapshots 0 50).evidence 0).outcome.severity < 5 := by decide +kernel
  exact reaches_of_mild hpi (hpi.domains _ List.mem_cons_self) hmild

/-- Without capacity the budget is zero, and 50 committed units do not exceed it. -/
theorem budget_not_exact : ¬ ∀ (order : MapOrder) (policy : OversubscriptionPolicy) (domain : DomainConfig)
    (expectation : AuthorityExpectation) (sn : Snapshots) (tick : UInt64), (validatePolicy policy).isOk = true →
    domain ∈ policy.domains → Reaches .u64 policy domain expectation sn tick →
    BudgetExact policy.riskBudget (evaluateDomain order policy (.rebuild policy) domain expectation sn.evidence
      tick).accounting := by
  intro h
  have hexact := h .listed _ _ _ _ _ tenthPolicy_valid List.mem_cons_self tenth_reaches
  have hexceeded := hexact.exceeded.mpr (by decide +kernel)
  exact absurd hexceeded (by decide +kernel)

end Oversub
