import Mathlib.Algebra.BigOperators.Ring.List
import Oversub.Engine.Grant

/-!
# Oversub.Engine.Breakdown

The breakdown by resource against the totals of its domain.  The totals loop
writes the sum it computes over the contingent amount of each member, which
then repeats the guarantees, and no member ever shows an overage.  The two
views agree for domains whose demand is a copy of their guarantees
(`breakdown_agrees_iff`).
-/

namespace Oversub

open Tally

/-- The breakdown has an entry for each member, adds up to the totals, and
shows where an overage comes from. -/
structure BreakdownAgrees (domain : DomainConfig) (r : EvaluationResult) : Prop where
  members : ∀ m, m ∈ r.resources.map (·.resource) ↔ m ∈ domain.members
  increasing : (r.resources.map (·.resource)).Pairwise fun m n => m.value < n.value
  guarantees : (r.resources.map (·.guarantees)).sum = r.accounting.guaranteesTotal
  contingent : (r.resources.map (·.contingentCommitted)).sum = r.accounting.contingentCommitted
  pending : (r.resources.map (·.contingentPending)).sum = r.accounting.contingentPending
  capacity : (r.resources.map (·.effectiveUsableCapacity)).sum = r.accounting.effectiveUsableCapacity
  ceilings : (r.resources.map (·.ceiling)).sum ≤
    ratioCeiling r.accounting.effectiveRatio r.accounting.effectiveUsableCapacity
  overage : ∀ e ∈ r.resources, e.overage = e.guarantees + e.contingentCommitted - e.ceiling
  exceeded : ratioCeiling r.accounting.effectiveRatio r.accounting.effectiveUsableCapacity <
    r.accounting.committedTotal → ∃ e ∈ r.resources, 0 < e.overage

section

variable {A : Arith} {order : MapOrder} {policy : OversubscriptionPolicy} {index : PolicyIndex}
  {domain : DomainConfig} {expectation : AuthorityExpectation} {sn : Snapshots} {tick : UInt64}
  {binding : Constraint} {rc : ResourceCapacity} {entries : List ResourceCapacity}

/-! ## The entry of a member -/

/-- The entry of a member in the breakdown. -/
def memberView (A : Arith) (index : PolicyIndex) (domain : DomainConfig) (sn : Snapshots) (binding : Constraint)
    (rc : ResourceCapacity) : ResourceAccounting :=
  resourceAccounting A (ratioOf domain sn) binding
    (totalAccum index domain sn.res.guarantees sn.adm.records rc)

/-- The sum that would have been the member's commitment is its contingent
amount, and the commitment is zero. -/
theorem memberView_contingent :
    (memberView A index domain sn binding rc).contingentCommitted =
      (memberView A index domain sn binding rc).guarantees := rfl

theorem memberView_overage : (memberView A index domain sn binding rc).overage = 0 := Nat.zero_sub _

theorem memberView_ceiling (hr : (ratioOf domain sn).Bounded)
    (hfits : A.fits (ratioCeiling (ratioOf domain sn) (effectiveIn entries)) = true) (h : rc ∈ entries) :
    (memberView A index domain sn binding rc).ceiling = ratioCeiling (ratioOf domain sn) (effectiveUsable rc) := by
  have hle : ratioCeiling (ratioOf domain sn) (effectiveUsable rc) ≤
      ratioCeiling (ratioOf domain sn) (effectiveIn entries) :=
    Nat.div_le_div_right (Nat.mul_le_mul_right _ (effectiveUsable_le_effectiveIn h))
  have hsome : resourceCeiling A (ratioOf domain sn)
      (totalAccum index domain sn.res.guarantees sn.adm.records rc) =
        some (ratioCeiling (ratioOf domain sn) (effectiveUsable rc)) :=
    Arith.mulDivFloor_eq_some.mpr ⟨Nat.pos_iff_ne_zero.mp hr.den_pos, A.fits_mono hle hfits, rfl⟩
  rw [memberView, resourceAccounting]
  dsimp only
  rw [hsome, Option.getD_some]

/-- A record that counts is in scope. -/
theorem covers_of_isContingent {r : DemandRecord} (h : isContingent domain index r = true) :
    domain.covers r.resource = true := by
  simp only [isContingent, isOversubscribed, Bool.and_eq_true] at h
  exact h.1.1

theorem sum_pendingOn (ht : MemberTable domain entries) (rs : List DemandRecord) :
    (entries.map fun rc => pendingOn domain index rs rc.resource).sum = pendingIn domain index rs :=
  ht.sum_on fun _ _ h => covers_of_isContingent h

/-! ## The breakdown -/

theorem EvidenceGate.entries_ids (h : EvidenceGate policy index domain expectation sn tick) :
    (memberEntries domain sn.cap).map (·.resource) = sortMembers domain.members := by
  refine memberEntries_ids fun m hm => ?_
  obtain ⟨rc, hrc, -⟩ := h.members m hm
  rw [hrc]
  rfl

/-- Where the members fit, the breakdown has the entry of each. -/
theorem evaluate_resources (hp : policy.Installable) (hd : domain.Installable policy)
    (h : Reaches A policy domain expectation sn tick)
    (hcount : domain.members.length ≤ policy.limits.maxResourceBreakdown.toNat) :
    ∃ binding, (evaluateDomainIn A order policy (.rebuild policy) domain expectation sn.evidence tick).resources =
      (memberEntries domain sn.cap).map (memberView A (.rebuild policy) domain sn binding) := by
  have hlength : (memberEntries domain sn.cap).length ≤ policy.limits.maxResourceBreakdown.toNat := by
    have hids := congrArg List.length (h.gate.entries_ids)
    rw [List.length_map, sortMembers, List.length_insertionSort] at hids
    omega
  have hratio : (gatheredRatio A policy (.rebuild policy) domain sn).ratio = ratioOf domain sn :=
    gatheredRatio_eq hp hd
  rw [evaluate_eq_finish hp hd h]
  refine ⟨(ceilings A policy.riskBudget (gatheredRatio A policy (.rebuild policy) domain sn)
    (gatheredAccounting A (.rebuild policy) domain sn).effectiveUsableCapacity).binding, ?_⟩
  show List.map (resourceAccounting A (gatheredRatio A policy (.rebuild policy) domain sn).ratio _)
    (List.take policy.limits.maxResourceBreakdown.toNat
      ((memberEntries domain sn.cap).map (totalAccum _ domain sn.res.guarantees sn.adm.records))) = _
  rw [List.take_of_length_le (by rwa [List.length_map]), List.map_map, hratio]
  rfl

theorem EvidenceGate.entries_table (hd : domain.Installable policy)
    (h : EvidenceGate policy index domain expectation sn tick) : MemberTable domain (memberEntries domain sn.cap) :=
  EvidenceGate.memberTable hd.members_nodup h.members

theorem sortMembers_increasing (hn : domain.members.Nodup) :
    (sortMembers domain.members).Pairwise fun m n => m.value < n.value := by
  have hsorted : (sortMembers domain.members).Pairwise fun m n => m.value ≤ n.value :=
    List.pairwise_insertionSort _ _
  have hnodup : (sortMembers domain.members).Nodup := (List.perm_insertionSort _ _).nodup_iff.mpr hn
  refine (hsorted.and hnodup).imp fun ⟨hle, hne⟩ => ?_
  exact UInt64.lt_of_le_of_ne hle fun hvalue => hne (congrArg StrongId.mk hvalue)

/-- The demand of the domain repeats its guarantees, and each member could hold
its guarantees twice. -/
structure Repeats (policy : OversubscriptionPolicy) (domain : DomainConfig) (sn : Snapshots) : Prop where
  demand : guaranteesIn domain sn.res.guarantees = contingentIn domain (.rebuild policy) sn.adm.records
  twice : ∀ rc ∈ memberEntries domain sn.cap, 2 * guaranteesOn domain sn.res.guarantees rc.resource ≤
    ratioCeiling (ratioOf domain sn) (effectiveUsable rc)

/-- What the entries of the members add up to. -/
structure Broken (policy : OversubscriptionPolicy) (domain : DomainConfig) (sn : Snapshots) (r : EvaluationResult) :
    Prop where
  table : MemberTable domain (memberEntries domain sn.cap)
  ids : (memberEntries domain sn.cap).map (·.resource) = sortMembers domain.members
  entries : ∃ binding, r.resources =
    (memberEntries domain sn.cap).map (memberView .u64 (.rebuild policy) domain sn binding)
  amounts : Matches r.accounting (standing policy (.rebuild policy) domain sn)
  pending : r.accounting.contingentPending = pendingIn domain (.rebuild policy) sn.adm.records
  ratio : r.accounting.effectiveRatio = ratioOf domain sn
  fits : Arith.u64.fits (ratioCeiling (ratioOf domain sn) (effectiveIn (memberEntries domain sn.cap))) = true

theorem evaluate_broken (hp : policy.Installable) (hd : domain.Installable policy)
    (h : Reaches .u64 policy domain expectation sn tick)
    (hcount : domain.members.length ≤ policy.limits.maxResourceBreakdown.toNat) :
    Broken policy domain sn (evaluateDomain order policy (.rebuild policy) domain expectation sn.evidence tick) where
  table := h.gate.entries_table hd
  ids := h.gate.entries_ids
  entries := evaluate_resources hp hd h hcount
  amounts := (evaluate_decides hp hd h).amounts
  pending := by
    rw [evaluateDomain, evaluate_eq_finish hp hd h]
    rfl
  ratio := evaluate_effectiveRatio hp hd h
  fits := h.closes.ceilings.ratio

section

variable {r : EvaluationResult}

/-- The ceilings of the members are their own, and add up to at most that of
the domain. -/
theorem Broken.ceilings (h : Broken policy domain sn r) (hr : (ratioOf domain sn).Bounded) :
    (r.resources.map (·.ceiling)) =
        (memberEntries domain sn.cap).map (fun rc => ratioCeiling (ratioOf domain sn) (effectiveUsable rc)) ∧
      ((memberEntries domain sn.cap).map fun rc => ratioCeiling (ratioOf domain sn) (effectiveUsable rc)).sum ≤
        ratioCeiling (ratioOf domain sn) (effectiveIn (memberEntries domain sn.cap)) := by
  obtain ⟨binding, hentries⟩ := h.entries
  have hsum := @Floor.sum_scale_le (ratioOf domain sn).num.toNat (ratioOf domain sn).den.toNat
    ((memberEntries domain sn.cap).map effectiveUsable)
  rw [List.map_map] at hsum
  refine ⟨?_, hsum⟩
  rw [hentries, List.map_map]
  exact List.map_congr_left fun rc hrc => memberView_ceiling hr h.fits hrc

/-- A domain whose demand repeats its guarantees is within its ratio ceiling. -/
theorem Broken.within (h : Broken policy domain sn r) (hr : (ratioOf domain sn).Bounded)
    (hrepeats : Repeats policy domain sn) :
    r.accounting.committedTotal ≤ ratioCeiling (ratioOf domain sn) (effectiveIn (memberEntries domain sn.cap)) := by
  have hcommitted : r.accounting.committedTotal = guaranteesIn domain sn.res.guarantees +
      contingentIn domain (.rebuild policy) sn.adm.records := h.amounts.committed
  have htwice : ((memberEntries domain sn.cap).map fun rc =>
        2 * guaranteesOn domain sn.res.guarantees rc.resource).sum ≤
      ((memberEntries domain sn.cap).map fun rc => ratioCeiling (ratioOf domain sn) (effectiveUsable rc)).sum :=
    List.sum_le_sum hrepeats.twice
  rw [List.sum_map_mul_left, sum_guaranteesOn h.table] at htwice
  have hceilings := (h.ceilings hr).2
  rw [hcommitted, ← hrepeats.demand]
  omega

theorem Broken.agrees_iff (hd : domain.Installable policy) (h : Broken policy domain sn r) :
    BreakdownAgrees domain r ↔ Repeats policy domain sn := by
  have hr : (ratioOf domain sn).Bounded := (ratioFor_admissible hd).toBounded
  obtain ⟨binding, hentries⟩ := h.entries
  have hguarantees : (r.resources.map (·.guarantees)).sum = guaranteesIn domain sn.res.guarantees := by
    rw [hentries, List.map_map]
    exact sum_guaranteesOn h.table _
  have hcontingent : r.resources.map (·.contingentCommitted) = r.resources.map (·.guarantees) := by
    rw [hentries, List.map_map, List.map_map]
    rfl
  have hmembers : r.resources.map (·.resource) = sortMembers domain.members := by
    rw [hentries, List.map_map, ← h.ids]
    rfl
  obtain ⟨hceilings, hsum⟩ := h.ceilings hr
  constructor
  · intro hagrees
    constructor
    · have hdemand := hagrees.contingent
      rw [hcontingent, hguarantees, h.amounts.contingent] at hdemand
      exact hdemand
    · intro rc hrc
      have hmem : memberView .u64 (.rebuild policy) domain sn binding rc ∈ r.resources := by
        rw [hentries]
        exact List.mem_map_of_mem hrc
      have hover := hagrees.overage _ hmem
      rw [memberView_overage, memberView_contingent, memberView_ceiling hr h.fits hrc] at hover
      have hon : (memberView .u64 (.rebuild policy) domain sn binding rc).guarantees =
          guaranteesOn domain sn.res.guarantees rc.resource := rfl
      omega
  · intro hrepeats
    have hwithin := h.within hr hrepeats
    constructor
    · intro m
      rw [hmembers, mem_sortMembers]
    · rw [hmembers]
      exact sortMembers_increasing hd.members_nodup
    · rw [hguarantees, h.amounts.guarantees]
      rfl
    · rw [hcontingent, hguarantees, h.amounts.contingent]
      exact hrepeats.demand
    · rw [hentries, List.map_map, h.pending]
      exact sum_pendingOn h.table _
    · rw [hentries, List.map_map, h.amounts.capacity]
      rfl
    · rw [hceilings, h.ratio, h.amounts.capacity]
      exact hsum
    · intro e he
      rw [hentries, List.mem_map] at he
      obtain ⟨rc, hrc, rfl⟩ := he
      have htwice := hrepeats.twice rc hrc
      rw [memberView_overage, memberView_contingent, memberView_ceiling hr h.fits hrc]
      have hon : (memberView .u64 (.rebuild policy) domain sn binding rc).guarantees =
          guaranteesOn domain sn.res.guarantees rc.resource := rfl
      omega
    · intro hexceeded
      rw [h.ratio, h.amounts.capacity] at hexceeded
      exact absurd hwithin (Nat.not_le.mpr hexceeded)

end

end

end Oversub
