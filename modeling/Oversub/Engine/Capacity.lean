import Oversub.Lib.Pointwise
import Oversub.Engine.Exact
import Oversub.Engine.Order

/-!
# Oversub.Engine.Capacity

The same domain with less or sicker capacity (`CapacitySnapshot.Reduced`).
Its ceilings, its ratio and its grant only shrink (`capacity_shrinks`).  Its
outcome only becomes more severe, with the one exception that
`severity_of_reduced_iff` names.
-/

namespace Oversub

open Tally Pointwise

/-! ## Reduced capacity -/

/-- The same health or a worse one: healthy, then degraded, then failed. -/
inductive ResourceHealth.Worsens : ResourceHealth → ResourceHealth → Prop
  | same (h : ResourceHealth) : Worsens h h
  | degraded : Worsens .healthy .degraded
  | failed : Worsens .healthy .failed
  | degradedFailed : Worsens .degraded .failed

/-- `rc'` is `rc` with at most its usable capacity, and a health `H` allows. -/
structure ResourceCapacity.Reduced (H : ResourceHealth → ResourceHealth → Prop)
    (rc rc' : ResourceCapacity) : Prop where
  resource : rc'.resource = rc.resource
  pool : rc'.pool = rc.pool
  generation : rc'.generation = rc.generation
  physical : rc'.physicalCapacity = rc.physicalCapacity
  degradedPpm : rc'.degradedCapacityPpm = rc.degradedCapacityPpm
  usable : rc'.usableCapacity.toNat ≤ rc.usableCapacity.toNat
  health : H rc.health rc'.health

structure CapacitySnapshot.Reduced (H : ResourceHealth → ResourceHealth → Prop)
    (cap cap' : CapacitySnapshot) : Prop where
  domain : cap'.domain = cap.domain
  generation : cap'.generation = cap.generation
  epoch : cap'.epoch = cap.epoch
  observedTick : cap'.observedTick = cap.observedTick
  entries : List.Forall₂ (ResourceCapacity.Reduced H) cap.resources cap'.resources

/-- The evidence with another capacity snapshot. -/
def Snapshots.withCapacity (sn : Snapshots) (cap : CapacitySnapshot) : Snapshots :=
  { sn with cap := cap }

section

variable {domain : DomainConfig} {cap cap' : CapacitySnapshot}
  {entries entries' : List ResourceCapacity} {rc rc' : ResourceCapacity}

theorem CapacitySnapshot.Reduced.worsens (h : cap.Reduced Eq cap') :
    cap.Reduced ResourceHealth.Worsens cap' where
  domain := h.domain
  generation := h.generation
  epoch := h.epoch
  observedTick := h.observedTick
  entries := h.entries.imp fun rc _ hr =>
    ⟨hr.resource, hr.pool, hr.generation, hr.physical, hr.degradedPpm, hr.usable,
      hr.health ▸ .same rc.health⟩

/-- A worse health carries no more of the usable capacity. -/
theorem effectiveUsable_le (h : rc.Reduced ResourceHealth.Worsens rc')
    (hppm : rc.degradedCapacityPpm.toNat ≤ kPpmScale) :
    effectiveUsable rc' ≤ effectiveUsable rc := by
  have hscaled : rc'.usableCapacity.toNat * rc.degradedCapacityPpm.toNat / kPpmScale ≤
      rc'.usableCapacity.toNat := Floor.scale_le hppm
  have hhealth := h.health
  unfold effectiveUsable
  rw [h.degradedPpm]
  generalize rc.health = a at hhealth
  generalize rc'.health = b at hhealth
  cases hhealth with
  | same =>
      cases a with
      | healthy => exact h.usable
      | degraded => exact Nat.div_le_div_right (Nat.mul_le_mul_right _ h.usable)
      | failed => exact Nat.le_refl 0
      | unknown => exact Nat.le_refl 0
      | unnamed raw hraw => exact Nat.le_refl 0
  | degraded => exact Nat.le_trans hscaled h.usable
  | failed => exact Nat.zero_le _
  | degradedFailed => exact Nat.zero_le _

theorem capacityByResource_reduced {H : ResourceHealth → ResourceHealth → Prop}
    (h : cap.Reduced H cap') (m : ResourceId) :
    Option.Rel (ResourceCapacity.Reduced H) (capacityByResource cap m)
      (capacityByResource cap' m) :=
  rel_find? h.entries fun _ _ hr => by rw [hr.resource]

theorem memberEntries_reduced {H : ResourceHealth → ResourceHealth → Prop}
    (h : cap.Reduced H cap') :
    List.Forall₂ (ResourceCapacity.Reduced H) (memberEntries domain cap)
      (memberEntries domain cap') := by
  have hsame : List.Forall₂ (· = ·) (sortMembers domain.members) (sortMembers domain.members) :=
    List.forall₂_same.mpr fun _ _ => rfl
  refine List.rel_filterMap (R := (· = ·)) ?_ hsame
  rintro m _ rfl
  exact capacityByResource_reduced h m

theorem degradedAmong_reduced
    (h : List.Forall₂ (ResourceCapacity.Reduced ResourceHealth.Worsens) entries entries')
    (hdeg : degradedAmong entries = true) : degradedAmong entries' = true := by
  refine any_mono h (fun rc rc' hr hsick => ?_) hdeg
  have hhealth := hr.health
  simp only [Bool.or_eq_true, decide_eq_true_eq] at hsick ⊢
  generalize rc.health = a at hhealth hsick
  generalize rc'.health = b at hhealth
  cases hhealth with
  | same => exact hsick
  | degraded => exact .inl rfl
  | failed => exact .inr rfl
  | degradedFailed => exact .inr rfl

/-- A known health does not become unknown. -/
theorem ResourceHealth.Worsens.ne_unknown {a b : ResourceHealth} (h : a.Worsens b)
    (ha : a ≠ .unknown) : b ≠ .unknown := by
  cases h with
  | same => exact ha
  | degraded => decide
  | failed => decide
  | degradedFailed => decide

end

/-! ## Checks and sums -/

section

variable {A : Arith} {policy : OversubscriptionPolicy} {index : PolicyIndex}
  {domain : DomainConfig} {expectation : AuthorityExpectation} {sn : Snapshots}
  {cap' : CapacitySnapshot} {tick : UInt64}

/-- Entries of a valid snapshot against their reduced ones, with the bound on their scaling. -/
theorem entries_reduced (hv : sn.cap.Valid) (h : sn.cap.Reduced ResourceHealth.Worsens cap') :
    List.Forall₂ (fun rc rc' => rc.degradedCapacityPpm.toNat ≤ kPpmScale ∧
        rc.Reduced ResourceHealth.Worsens rc')
      (memberEntries domain sn.cap) (memberEntries domain cap') := by
  refine (List.forall₂_and_left _ _).mpr ⟨fun rc hrc => ?_, memberEntries_reduced h⟩
  obtain ⟨m, -, hm⟩ := mem_memberEntries.mp hrc
  exact hv.degraded_le rc (List.mem_of_find?_eq_some hm)

theorem effectiveIn_reduced (hv : sn.cap.Valid) (h : sn.cap.Reduced ResourceHealth.Worsens cap') :
    effectiveIn (memberEntries domain cap') ≤ effectiveIn (memberEntries domain sn.cap) :=
  sum_le_sum (entries_reduced hv h) fun _ _ hr => effectiveUsable_le hr.2 hr.1

theorem ratioOf_reduced (hd : domain.Installable policy)
    (h : sn.cap.Reduced ResourceHealth.Worsens cap') :
    (ratioOf domain (sn.withCapacity cap')).AtMost (ratioOf domain sn) :=
  ratioFor_mono hd (degradedAmong_reduced (memberEntries_reduced h))

/-- The ceiling of reduced capacity is no higher. -/
theorem ceiling_reduced (hd : domain.Installable policy) (hv : sn.cap.Valid)
    (h : sn.cap.Reduced ResourceHealth.Worsens cap') :
    (standing policy index domain (sn.withCapacity cap')).ceiling ≤
      (standing policy index domain sn).ceiling :=
  legalCeiling_mono (ratioFor_admissible hd).toBounded (ratioFor_admissible hd).toBounded
    (ratioOf_reduced hd h) (effectiveIn_reduced hv h)

theorem shareBroken_mono {c c' : Nat} (hc : c' ≤ c) {id : ServiceClassId} {amount : Nat}
    (h : shareBroken index c id amount = true) : shareBroken index c' id amount = true := by
  unfold shareBroken at h ⊢
  cases hcls : index.serviceClass id with
  | none => rw [hcls] at h; exact h
  | some cls =>
      simp only [hcls, Bool.and_eq_true, decide_eq_true_eq] at h ⊢
      exact ⟨h.1, Nat.lt_of_le_of_lt (Nat.div_le_div_right (Nat.mul_le_mul_right _ hc)) h.2⟩

theorem standing_reduced (hd : domain.Installable policy) (hv : sn.cap.Valid)
    (h : sn.cap.Reduced ResourceHealth.Worsens cap') :
    (standing policy index domain sn).LessCapacity
      (standing policy index domain (sn.withCapacity cap')) where
  unmapped := rfl
  ineligible := rfl
  violated hviolated := by
    refine any_mono (entries_reduced hv h) (fun rc rc' hr hlt => ?_) hviolated
    have hle : effectiveUsable rc' ≤ effectiveUsable rc := effectiveUsable_le hr.2 hr.1
    simp only [decide_eq_true_eq] at hlt ⊢
    rw [hr.2.resource]
    exact Nat.lt_of_le_of_lt hle hlt
  capacity := effectiveIn_reduced hv h
  guarantees := rfl
  reserve := rfl
  headroom := rfl
  contingent := rfl
  ceiling := ceiling_reduced hd hv h
  emergencyPpm := rfl
  burst := rfl
  share hshare := by
    have hceiling : (standing policy index domain (sn.withCapacity cap')).ceiling ≤
        (standing policy index domain sn).ceiling := ceiling_reduced hd hv h
    obtain ⟨r, hr, hbroken⟩ := List.any_eq_true.mp hshare
    rw [Bool.and_eq_true] at hbroken
    refine List.any_eq_true.mpr ⟨r, hr, Bool.and_eq_true _ _ ▸ ⟨hbroken.1, ?_⟩⟩
    exact shareBroken_mono (Nat.sub_le_sub_right hceiling _) hbroken.2

theorem burstIn_le_contingentIn {rs : List DemandRecord} :
    burstIn domain index rs ≤ contingentIn domain index rs := sumWhere_and_le

theorem contingentOf_le_contingentIn {rs : List DemandRecord} {id : ServiceClassId} :
    contingentOf domain index rs id ≤ contingentIn domain index rs := sumWhere_and_le

/-- What exceeds the burst cap or a share is contingent demand. -/
theorem standing_coherent : (standing policy index domain sn).Coherent where
  burst h := by
    simp only [standing, Bool.and_eq_true, decide_eq_true_eq] at h
    exact Nat.lt_of_lt_of_le (Nat.zero_lt_of_lt h.2) burstIn_le_contingentIn
  share h := by
    obtain ⟨r, -, hbroken⟩ := List.any_eq_true.mp h
    rw [Bool.and_eq_true, shareBroken] at hbroken
    have hpos : 0 < contingentOf domain index sn.adm.records r.serviceClass := by
      split at hbroken
      · exact absurd hbroken.2 Bool.false_ne_true
      · simp only [Bool.and_eq_true, decide_eq_true_eq] at hbroken
        exact Nat.zero_lt_of_lt hbroken.2.2
    exact Nat.lt_of_lt_of_le hpos contingentOf_le_contingentIn

theorem evidenceGate_reduced (h : sn.cap.Reduced ResourceHealth.Worsens cap')
    (hg : EvidenceGate policy index domain expectation sn tick) :
    EvidenceGate policy index domain expectation (sn.withCapacity cap') tick where
  bound := { hg.bound with
    domain_eq := by
      rw [Snapshots.withCapacity, h.domain]
      exact hg.bound.domain_eq
    epoch_eq := by
      rw [Snapshots.withCapacity, h.epoch]
      exact hg.bound.epoch_eq
    capacityGeneration_eq := h.generation.trans hg.bound.capacityGeneration_eq }
  fresh := { hg.fresh with
    capacity := by
      rw [Snapshots.withCapacity, h.observedTick]
      exact hg.fresh.capacity }
  bounded := { hg.bounded with
    resources_le := by
      rw [Snapshots.withCapacity, ← h.entries.length_eq]
      exact hg.bounded.resources_le }
  capacity_nodup := by
    rw [Snapshots.withCapacity, map_eq_map h.entries fun rc rc' hr => by rw [hr.resource]]
    exact hg.capacity_nodup
  members m hm := by
    obtain ⟨rc, hrc, hpool, hhealth⟩ := hg.members m hm
    have hrel := capacityByResource_reduced h m
    rw [hrc] at hrel
    cases hrel' : capacityByResource cap' m with
    | none => rw [hrel'] at hrel; cases hrel
    | some rc' =>
        rw [hrel'] at hrel
        cases hrel with
        | some hr =>
            exact ⟨rc', hrel', hr.pool.trans hpool, hr.health.ne_unknown hhealth⟩
  guarantees := hg.guarantees
  demands := hg.demands

theorem passes_reduced (hd : domain.Installable policy) (hv : sn.cap.Valid)
    (h : sn.cap.Reduced ResourceHealth.Worsens cap')
    (hp : Passes A policy domain expectation sn tick) :
    Passes A policy domain expectation (sn.withCapacity cap') tick where
  gate := evidenceGate_reduced h hp.gate
  fits := {
    scaled := forall_of_forall (entries_reduced hv h)
      (fun _ rc' hr _ _ => A.fits_mono (Floor.scale_le (hr.2.degradedPpm ▸ hr.1))
        (A.fits_toNat rc'.usableCapacity)) (fun _ _ => trivial)
    guarantees := hp.fits.guarantees
    demand := hp.fits.demand }
  closes := {
    capacity := A.fits_mono (effectiveIn_reduced hv h) hp.closes.capacity
    ceilings := {
      ratio := A.fits_mono (Floor.scale_le_scale (ratioFor_admissible hd).den_pos
        (ratioFor_admissible hd).den_pos (effectiveIn_reduced hv h) (ratioOf_reduced hd h))
        hp.closes.ceilings.ratio
      absolute := fun hs => A.fits_mono (Nat.add_le_add_right (effectiveIn_reduced hv h) _)
        (hp.closes.ceilings.absolute hs)
      ppm := fun hs => A.fits_mono
        (Nat.div_le_div_right (Nat.mul_le_mul_right _ (effectiveIn_reduced hv h)))
        (hp.closes.ceilings.ppm hs) }
    floor := hp.closes.floor
    committed := hp.closes.committed }

theorem physicalIn_reduced (h : sn.cap.Reduced ResourceHealth.Worsens cap') :
    physicalIn (memberEntries domain cap') = physicalIn (memberEntries domain sn.cap) := by
  have hmap : (memberEntries domain cap').map (·.physicalCapacity.toNat) =
      (memberEntries domain sn.cap).map (·.physicalCapacity.toNat) :=
    map_eq_map (memberEntries_reduced h) fun _ _ hr => by rw [hr.physical]
  rw [physicalIn, hmap, physicalIn]

theorem usableIn_reduced (h : sn.cap.Reduced ResourceHealth.Worsens cap') :
    usableIn (memberEntries domain cap') ≤ usableIn (memberEntries domain sn.cap) :=
  sum_le_sum (memberEntries_reduced h) fun _ _ hr => hr.usable

theorem usableIn_le_physicalIn (hv : sn.cap.Valid) :
    usableIn (memberEntries domain sn.cap) ≤ physicalIn (memberEntries domain sn.cap) := by
  refine List.sum_le_sum fun rc hrc => ?_
  obtain ⟨m, -, hm⟩ := mem_memberEntries.mp hrc
  exact hv.usable_le rc (List.mem_of_find?_eq_some hm)

/-- Only the physical capacity decides the bound, and that one is the same. -/
theorem within_reduced_iff (hp : policy.Installable) (hv : sn.cap.Valid)
    (h : sn.cap.Reduced ResourceHealth.Worsens cap') :
    WithinCapacityBound A policy.limits (memberEntries domain cap') ↔
      WithinCapacityBound A policy.limits (memberEntries domain sn.cap) := by
  have hphysical : physicalIn (memberEntries domain cap') =
      physicalIn (memberEntries domain sn.cap) := physicalIn_reduced h
  have husable : usableIn (memberEntries domain cap') ≤ usableIn (memberEntries domain sn.cap) :=
    usableIn_reduced h
  have hle : usableIn (memberEntries domain sn.cap) ≤ physicalIn (memberEntries domain sn.cap) :=
    usableIn_le_physicalIn hv
  rw [withinCapacityBound_iff hp.max_capacity_le, withinCapacityBound_iff hp.max_capacity_le]
  omega

theorem reaches_reduced (hp : policy.Installable) (hd : domain.Installable policy)
    (hv : sn.cap.Valid) (h : sn.cap.Reduced ResourceHealth.Worsens cap')
    (hr : Reaches A policy domain expectation sn tick) :
    Reaches A policy domain expectation (sn.withCapacity cap') tick where
  toPasses := passes_reduced hd hv h hr.toPasses
  within := (within_reduced_iff hp hv h).mpr hr.within

end

/-! ## Less authority -/

/-- `r'` authorizes no more than `r`, under no higher ceiling or ratio. -/
structure NoMoreAuthority (r r' : EvaluationResult) : Prop where
  ceiling : r'.accounting.ceilingTotal ≤ r.accounting.ceilingTotal
  contingentCeiling : r'.accounting.contingentCeiling ≤ r.accounting.contingentCeiling
  contingentFree : r'.accounting.contingentFree ≤ r.accounting.contingentFree
  increment : r'.authorizedIncrementUnits ≤ r.authorizedIncrementUnits
  ratio : r'.accounting.effectiveRatio.AtMost r.accounting.effectiveRatio

section

variable {order order' : MapOrder} {policy : OversubscriptionPolicy} {domain : DomainConfig}
  {expectation : AuthorityExpectation} {sn : Snapshots} {cap' : CapacitySnapshot} {tick : UInt64}

/-- Standings of decreasing capacity decide with decreasing authority. -/
theorem Decides.noMoreAuthority {r r' : EvaluationResult} {s t : Standing} (h : Decides r s)
    (h' : Decides r' t) (hst : s.LessCapacity t) (hs : s.Coherent)
    (hratio : r'.accounting.effectiveRatio.AtMost r.accounting.effectiveRatio) :
    NoMoreAuthority r r' where
  ceiling := by
    rw [h.amounts.ceiling, h'.amounts.ceiling]
    exact hst.ceiling
  contingentCeiling := by
    rw [h.amounts.contingentCeiling, h'.amounts.contingentCeiling]
    exact hst.contingentCeiling_le
  contingentFree := by
    rw [h.amounts.contingentFree, h'.amounts.contingentFree]
    exact hst.contingentFree_le
  increment := by
    rw [h.increment, h'.increment]
    exact hst.increment_le hs
  ratio := hratio

/-- **Shrinking**: less or sicker capacity never increases authority. -/
theorem capacity_shrinks (hp : (validatePolicy policy).isOk = true) (hd : domain ∈ policy.domains)
    (hv : (validateCapacitySnapshot sn.cap).isOk = true)
    (hcap : sn.cap.Reduced ResourceHealth.Worsens cap')
    (h : Passes .u64 policy domain expectation sn tick) :
    NoMoreAuthority
      (evaluateDomain order policy (.rebuild policy) domain expectation sn.evidence tick)
      (evaluateDomain order' policy (.rebuild policy) domain expectation
        (sn.withCapacity cap').evidence tick) := by
  have hpi := validatePolicy_installable hp
  have hdi := hpi.domains domain hd
  have hvalid := validateCapacitySnapshot_valid hv
  have h' : Passes .u64 policy domain expectation (sn.withCapacity cap') tick :=
    passes_reduced hdi hvalid hcap h
  by_cases hwithin : WithinCapacityBound .u64 policy.limits (memberEntries domain sn.cap)
  · have hreach : Reaches .u64 policy domain expectation sn tick := ⟨h, hwithin⟩
    have hreach' : Reaches .u64 policy domain expectation (sn.withCapacity cap') tick :=
      reaches_reduced hpi hdi hvalid hcap hreach
    refine Decides.noMoreAuthority (evaluate_decides hpi hdi hreach)
      (evaluate_decides hpi hdi hreach') (standing_reduced hdi hvalid hcap) standing_coherent ?_
    rw [evaluateDomain, evaluateDomain, evaluate_effectiveRatio hpi hdi hreach,
      evaluate_effectiveRatio hpi hdi hreach']
    exact ratioOf_reduced hdi hcap
  · -- both are refused for the bound, with nothing granted
    obtain ⟨hc, hcc, hcf, hi, hr⟩ := evaluate_outside order hdi h hwithin
    obtain ⟨hc', hcc', hcf', hi', hr'⟩ := evaluate_outside order' hdi h'
      (mt (within_reduced_iff hpi hvalid hcap).mp hwithin)
    refine ⟨Nat.le_of_eq (hc'.trans hc.symm), Nat.le_of_eq (hcc'.trans hcc.symm),
      Nat.le_of_eq (hcf'.trans hcf.symm), Nat.le_of_eq (hi'.trans hi.symm), ?_⟩
    rw [evaluateDomain, evaluateDomain, hr, hr']
    exact Ratio.atMost_refl _

/-- The sample resource with fewer usable units. -/
theorem sampleCapacity_reduced (usable usable' demand : UInt64) (h : usable'.toNat ≤ usable.toNat) :
    (sampleSnapshots usable demand).cap.Reduced Eq (sampleSnapshots usable' demand).cap where
  domain := rfl
  generation := rfl
  epoch := rfl
  observedTick := rfl
  entries := .cons ⟨rfl, rfl, rfl, rfl, rfl, h, rfl⟩ .nil

theorem capacity_shrinks_sample :
    NoMoreAuthority
      (evaluateDomain .listed samplePolicy (.rebuild samplePolicy) sampleDomain sampleExpectation
        (sampleSnapshots 100 50).evidence 0)
      (evaluateDomain .listed samplePolicy (.rebuild samplePolicy) sampleDomain sampleExpectation
        ((sampleSnapshots 100 50).withCapacity (sampleSnapshots 80 50).cap).evidence 0) :=
  have hreach : Reaches .u64 samplePolicy sampleDomain sampleExpectation (sampleSnapshots 100 50) 0 :=
    sample_reaches (by decide +kernel)
  capacity_shrinks samplePolicy_valid sampleDomain_mem (by decide +kernel)
    (sampleCapacity_reduced 100 80 50 (by decide)).worsens hreach.toPasses

/-- **Severity**: with less capacity the outcome is milder in one case only,
a rejection for want of headroom that becomes an emergency. -/
theorem severity_of_reduced_iff (hp : (validatePolicy policy).isOk = true)
    (hd : domain ∈ policy.domains) (hv : (validateCapacitySnapshot sn.cap).isOk = true)
    (hcap : sn.cap.Reduced Eq cap') (h : Reaches .u64 policy domain expectation sn tick) :
    (evaluateDomain order policy (.rebuild policy) domain expectation sn.evidence
        tick).outcome.severity ≤
      (evaluateDomain order' policy (.rebuild policy) domain expectation
        (sn.withCapacity cap').evidence tick).outcome.severity ↔
    ¬ ((standing policy (.rebuild policy) domain sn).HeadroomRejected ∧
      (standing policy (.rebuild policy) domain (sn.withCapacity cap')).ProtectedShort) := by
  have hpi := validatePolicy_installable hp
  have hdi := hpi.domains domain hd
  have hvalid := validateCapacitySnapshot_valid hv
  have hdec : Decides (evaluateDomain order policy (.rebuild policy) domain expectation sn.evidence
      tick) (standing policy (.rebuild policy) domain sn) := evaluate_decides hpi hdi h
  have hdec' : Decides (evaluateDomain order' policy (.rebuild policy) domain expectation
      (sn.withCapacity cap').evidence tick)
        (standing policy (.rebuild policy) domain (sn.withCapacity cap')) :=
    evaluate_decides hpi hdi (reaches_reduced hpi hdi hvalid hcap.worsens h)
  rw [hdec.outcome, hdec'.outcome]
  exact (standing_reduced hdi hvalid hcap.worsens).severity_le_iff standing_coherent

theorem severity_of_reduced_sample :
    (evaluateDomain .listed samplePolicy (.rebuild samplePolicy) sampleDomain sampleExpectation
        (sampleSnapshots 100 50).evidence 0).outcome.severity ≤
      (evaluateDomain .listed samplePolicy (.rebuild samplePolicy) sampleDomain sampleExpectation
        ((sampleSnapshots 100 50).withCapacity (sampleSnapshots 80 50).cap).evidence
        0).outcome.severity ↔
    ¬ ((standing samplePolicy (.rebuild samplePolicy) sampleDomain
        (sampleSnapshots 100 50)).HeadroomRejected ∧
      (standing samplePolicy (.rebuild samplePolicy) sampleDomain
        ((sampleSnapshots 100 50).withCapacity (sampleSnapshots 80 50).cap)).ProtectedShort) :=
  severity_of_reduced_iff samplePolicy_valid sampleDomain_mem (by decide +kernel)
    (sampleCapacity_reduced 100 80 50 (by decide)) (sample_reaches (by decide +kernel))

/-- With 12 usable units the headroom of 5 above the reserve of 10 does not
fit; with 8 the reserve does not fit either, and the outcome is milder. -/
theorem severity_not_monotone :
    ¬ ∀ (order : MapOrder) (policy : OversubscriptionPolicy) (domain : DomainConfig)
        (expectation : AuthorityExpectation) (sn : Snapshots) (cap' : CapacitySnapshot)
        (tick : UInt64),
      (validatePolicy policy).isOk = true → domain ∈ policy.domains →
      (validateCapacitySnapshot sn.cap).isOk = true → (validateCapacitySnapshot cap').isOk = true →
      (validateReservationSnapshot sn.res).isOk = true →
      (validateAdmissionSnapshot sn.adm).isOk = true → sn.cap.Reduced Eq cap' →
      Reaches .u64 policy domain expectation sn tick →
      (evaluateDomain order policy (.rebuild policy) domain expectation sn.evidence
          tick).outcome.severity ≤
        (evaluateDomain order policy (.rebuild policy) domain expectation
          (sn.withCapacity cap').evidence tick).outcome.severity := by
  intro h
  have hle := h .listed samplePolicy sampleDomain sampleExpectation (sampleSnapshots 12 1)
    (sampleSnapshots 8 1).cap 0 samplePolicy_valid sampleDomain_mem (by decide +kernel)
    (by decide +kernel) (by decide +kernel) (by decide +kernel)
    (sampleCapacity_reduced 12 8 1 (by decide)) (sample_reaches (by decide +kernel))
  exact absurd hle (by decide +kernel)

end

end Oversub
