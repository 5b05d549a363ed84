import Oversub.Engine.Grant

/-!
# Oversub.Engine.Exact

The machine's arithmetic against exact arithmetic.  The engine mixes checked,
saturating and plain 64-bit operations; whenever it gives authority, none of
them has wrapped or saturated (`arithmetic_closes`): the decision is the one
of the same evaluation over the naturals.
-/

namespace Oversub

/-! ## Evidence that reaches the cascade in 64 bits -/

/-- In exact arithmetic everything fits. -/
theorem evidenceFits_nat {index : PolicyIndex} {domain : DomainConfig} {sn : Snapshots} :
    EvidenceFits .nat index domain sn where
  scaled _ _ _ := rfl
  guarantees := rfl
  demand := ⟨rfl, rfl, rfl⟩

theorem closes_nat {policy : OversubscriptionPolicy} {index : PolicyIndex} {domain : DomainConfig}
    {sn : Snapshots} : Closes .nat policy index domain sn where
  capacity := rfl
  ceilings := ⟨rfl, fun _ => rfl, fun _ => rfl⟩
  floor := rfl
  committed := rfl

/-- The capacity bound is far below saturation, so the two sums agree on it. -/
theorem withinCapacityBound_iff {A : Arith} {limits : PolicyLimits}
    (h : limits.maxCapacityUnits.toNat ≤ kHardMaxCapacityUnits) {entries : List ResourceCapacity} :
    WithinCapacityBound A limits entries ↔
      physicalIn entries ≤ limits.maxCapacityUnits.toNat ∧
        usableIn entries ≤ limits.maxCapacityUnits.toNat := by
  have hlt : limits.maxCapacityUnits.toNat < u64Max := Nat.lt_of_le_of_lt h (by decide)
  rw [WithinCapacityBound, Arith.sumSat_le_iff hlt, Arith.sumSat_le_iff hlt]
  rfl

section

variable {policy : OversubscriptionPolicy} {domain : DomainConfig}
  {expectation : AuthorityExpectation} {sn : Snapshots} {tick : UInt64}

/-- Evidence that reaches the cascade in some arithmetic reaches it in the exact one. -/
theorem Reaches.nat {A : Arith} (hp : policy.Installable)
    (h : Reaches A policy domain expectation sn tick) :
    Reaches .nat policy domain expectation sn tick where
  gate := h.gate
  fits := evidenceFits_nat
  within := (withinCapacityBound_iff hp.max_capacity_le).mpr
    ((withinCapacityBound_iff hp.max_capacity_le).mp h.within)
  closes := closes_nat

end

/-! ## The same decision -/

/-- Two results decide the same, by the same amounts. -/
structure SameDecision (r r' : EvaluationResult) : Prop where
  outcome : r.outcome = r'.outcome
  reason : r.reason = r'.reason
  capacity : r.accounting.effectiveUsableCapacity = r'.accounting.effectiveUsableCapacity
  guarantees : r.accounting.guaranteesTotal = r'.accounting.guaranteesTotal
  ceiling : r.accounting.ceilingTotal = r'.accounting.ceilingTotal
  contingentCeiling : r.accounting.contingentCeiling = r'.accounting.contingentCeiling
  contingent : r.accounting.contingentCommitted = r'.accounting.contingentCommitted
  contingentFree : r.accounting.contingentFree = r'.accounting.contingentFree
  committed : r.accounting.committedTotal = r'.accounting.committedTotal
  overage : r.accounting.overage = r'.accounting.overage
  exposure : r.accounting.exposure = r'.accounting.exposure
  increment : r.authorizedIncrementUnits = r'.authorizedIncrementUnits

/-- Results that decide one standing decide the same. -/
theorem Decides.same {r r' : EvaluationResult} {s : Standing} (h : Decides r s)
    (h' : Decides r' s) : SameDecision r r' where
  outcome := h.outcome.trans h'.outcome.symm
  reason := h.reason.trans h'.reason.symm
  capacity := h.amounts.capacity.trans h'.amounts.capacity.symm
  guarantees := h.amounts.guarantees.trans h'.amounts.guarantees.symm
  ceiling := h.amounts.ceiling.trans h'.amounts.ceiling.symm
  contingentCeiling := h.amounts.contingentCeiling.trans h'.amounts.contingentCeiling.symm
  contingent := h.amounts.contingent.trans h'.amounts.contingent.symm
  contingentFree := h.amounts.contingentFree.trans h'.amounts.contingentFree.symm
  committed := h.amounts.committed.trans h'.amounts.committed.symm
  overage := h.amounts.overage.trans h'.amounts.overage.symm
  exposure := h.amounts.exposure.trans h'.amounts.exposure.symm
  increment := h.increment.trans h'.increment.symm

section

variable {order order' : MapOrder} {policy : OversubscriptionPolicy} {domain : DomainConfig}
  {expectation : AuthorityExpectation} {evidence : DomainEvidence} {tick : UInt64}

/-- **Exactness**: an authoritative evaluation decides what the evaluation
over the naturals decides, in whatever order that one lists its tables. -/
theorem arithmetic_closes (hp : (validatePolicy policy).isOk = true) (hd : domain ∈ policy.domains)
    (h : (evaluateDomain order policy (.rebuild policy) domain expectation evidence
      tick).outcome.isAuthoritative = true) :
    SameDecision (evaluateDomain order policy (.rebuild policy) domain expectation evidence tick)
      (evaluateDomainIn .nat order' policy (.rebuild policy) domain expectation evidence tick) := by
  have hpi := validatePolicy_installable hp
  have hdi := hpi.domains domain hd
  obtain ⟨sn, rfl, hreach⟩ := evaluate_authoritative hpi hdi h
  have hbounded : Decides (evaluateDomain order policy (.rebuild policy) domain expectation
      sn.evidence tick) (standing policy (.rebuild policy) domain sn) :=
    evaluate_decides hpi hdi hreach
  exact hbounded.same (evaluate_decides hpi hdi (hreach.nat hpi))

theorem arithmetic_closes_sample :
    SameDecision
      (evaluateDomain .listed samplePolicy (.rebuild samplePolicy) sampleDomain sampleExpectation
        (sampleSnapshots 100 50).evidence 0)
      (evaluateDomainIn .nat .listed samplePolicy (.rebuild samplePolicy) sampleDomain
        sampleExpectation (sampleSnapshots 100 50).evidence 0) :=
  arithmetic_closes samplePolicy_valid sampleDomain_mem (by decide +kernel)

end

end Oversub
