import Oversub.Engine.Cascade

/-!
# Oversub.Engine.Grant

What a grant rests on.  An evaluation that authorizes new oversubscription
keeps the protected obligations, the contingent demand and the grant itself
under every configured ceiling (`grant_safety`), and an evaluation that
carries any authority has vetted its evidence (`evidence_gate`).

The emergency reserve is withheld from the grant, but not from the demand
that already stands: `reserve_withheld_iff` says exactly when it is.
-/

namespace Oversub

open Tally

/-! ## Ceilings of a standing -/

namespace Standing

variable {s : Standing}

/-- A granting standing has filled its ceiling exactly once the grant is used. -/
theorem grant_fills (h : s.outcome = .withinPolicy) :
    s.guarantees + s.reserve + s.contingent + s.contingentFree = s.ceiling := by
  obtain ⟨-, -, -, -, -, hfree⟩ := outcome_eq_withinPolicy.mp h
  have hreq : s.protectedRequired = s.guarantees + s.reserve := rfl
  unfold contingentFree contingentCeiling at *
  omega

/-- The floor of a sound standing fits under the capacity and the ceiling. -/
theorem Sound.floor_le (h : s.Sound) :
    s.guarantees + s.reserve + s.headroom ≤ min s.capacity s.ceiling := by
  have hfloor : s.floorRequired = s.guarantees + s.reserve + s.headroom := rfl
  rw [← hfloor, Nat.le_min]
  exact ⟨Nat.not_lt.mp fun hc => h.floorFits (.inl hc),
    Nat.not_lt.mp fun hc => h.floorFits (.inr hc)⟩

end Standing

section

variable {policy : OversubscriptionPolicy} {domain : DomainConfig} {sn : Snapshots}

theorem ratioCeiling_mono {r s : Ratio} (hr : r.Bounded) (hs : s.Bounded) (h : r.AtMost s)
    (capacity : Nat) : ratioCeiling r capacity ≤ ratioCeiling s capacity :=
  Floor.scale_le_scale hr.den_pos hs.den_pos (Nat.le_refl _) h

theorem degradedAmong_iff {entries : List ResourceCapacity} :
    degradedAmong entries = true ↔ ∃ rc ∈ entries, rc.health = .degraded ∨ rc.health = .failed := by
  simp [degradedAmong]

/-- The guarantees on every member fit it, unless some member is violated. -/
theorem guaranteesOn_le_of_not_violated
    (h : (standing policy (.rebuild policy) domain sn).violated = false) {rc : ResourceCapacity}
    (hrc : rc ∈ memberEntries domain sn.cap) :
    guaranteesOn domain sn.res.guarantees rc.resource ≤ effectiveUsable rc := by
  have hall := List.any_eq_false.mp h rc hrc
  simpa using hall

end

/-! ## Grant safety -/

/-- What the ceilings of a grant are bounded by. -/
structure CeilingWithin (policy : OversubscriptionPolicy) (domain : DomainConfig)
    (sn : Snapshots) (ceiling capacity : Nat) : Prop where
  configured : ceiling ≤ capacity * domain.configuredRatio.num.toNat / domain.configuredRatio.den.toNat
  policyCap : ceiling ≤ capacity * policy.policyRatioCap.num.toNat / policy.policyRatioCap.den.toNat
  degraded : (∃ rc ∈ memberEntries domain sn.cap, rc.health = .degraded ∨ rc.health = .failed) →
    ceiling ≤ capacity * (degradedCap domain).num.toNat / (degradedCap domain).den.toNat
  absolute : policy.riskBudget.hasAbsolute = true →
    ceiling ≤ capacity + policy.riskBudget.maxExposureUnits.toNat
  ppm : policy.riskBudget.hasPpm = true →
    ceiling ≤ capacity * (1000000 + policy.riskBudget.maxExposurePpm.toNat) / 1000000

/-- A grant that keeps everything promised under the ceiling, and the ceiling legal. -/
structure GrantWithin (policy : OversubscriptionPolicy) (domain : DomainConfig) (sn : Snapshots)
    (r : EvaluationResult) : Prop where
  total : r.accounting.guaranteesTotal + r.accounting.emergencyReserve +
    r.accounting.contingentCommitted + r.authorizedIncrementUnits ≤ r.accounting.ceilingTotal
  ceiling : CeilingWithin policy domain sn r.accounting.ceilingTotal
    r.accounting.effectiveUsableCapacity
  floor : r.accounting.guaranteesTotal + r.accounting.emergencyReserve +
    r.accounting.minProtectedHeadroom ≤
      min r.accounting.effectiveUsableCapacity r.accounting.ceilingTotal
  members : ∀ m ∈ domain.members, ∃ rc, capacityByResource sn.cap m = some rc ∧
    guaranteesOn domain sn.res.guarantees m ≤ effectiveUsable rc
  breakdown : ∀ ra ∈ r.resources, ra.guarantees ≤ ra.effectiveUsableCapacity

section

variable {order : MapOrder} {policy : OversubscriptionPolicy} {index : PolicyIndex}
  {domain : DomainConfig} {expectation : AuthorityExpectation} {evidence : DomainEvidence}
  {sn : Snapshots} {tick : UInt64}

/-- The legal ceiling is below everything it is a minimum of. -/
theorem legalCeiling_within (hp : policy.Installable) (hd : domain.Installable policy)
    (capacity : Nat) :
    CeilingWithin policy domain sn
      (legalCeiling policy.riskBudget (ratioOf domain sn) capacity) capacity := by
  have hle : legalCeiling policy.riskBudget (ratioOf domain sn) capacity ≤
      ratioCeiling (ratioOf domain sn) capacity := legalCeiling_le_ratio
  have hb : (ratioOf domain sn).Bounded := (ratioFor_admissible hd).toBounded
  refine ⟨?_, ?_, fun hdeg => ?_, legalCeiling_le_absolute, legalCeiling_le_ppm⟩
  · exact Nat.le_trans hle (ratioCeiling_mono hb hd.configured.toBounded
      (ratioFor_atMost_configured hd) capacity)
  · exact Nat.le_trans hle (ratioCeiling_mono hb hp.ratio_cap.toBounded
      (ratioFor_atMost_cap hd) capacity)
  · exact Nat.le_trans hle (ratioCeiling_mono hb (degradedCap_admissible hd).toBounded
      (ratioFor_atMost_degradedCap (degradedAmong_iff.mpr hdeg)) capacity)

/-- A result that grants is within its ceilings. -/
theorem grantWithin_of_reaches (hp : policy.Installable) (hd : domain.Installable policy)
    (h : Reaches .u64 policy domain expectation sn tick)
    (hw : (evaluateDomain order policy (.rebuild policy) domain expectation sn.evidence tick).outcome =
      .withinPolicy) :
    GrantWithin policy domain sn
      (evaluateDomain order policy (.rebuild policy) domain expectation sn.evidence tick) := by
  have hdec : Decides (evaluateDomain order policy (.rebuild policy) domain expectation sn.evidence
      tick) (standing policy (.rebuild policy) domain sn) := evaluate_decides hp hd h
  have hm := hdec.amounts
  rw [hdec.outcome] at hw
  have hsound : (standing policy (.rebuild policy) domain sn).Sound :=
    (Standing.outcome_eq_withinPolicy.mp hw).1
  have hviolated : (standing policy (.rebuild policy) domain sn).violated = false :=
    Bool.eq_false_iff.mpr fun hv => hsound.protectedFits (.inl hv)
  refine ⟨?_, ?_, ?_, fun m hmem => ?_, ?_⟩
  · rw [hm.guarantees, hm.reserve, hm.contingent, hm.ceiling, hdec.increment, if_pos hw]
    exact Nat.le_of_eq (Standing.grant_fills hw)
  · rw [hm.ceiling, hm.capacity]
    exact legalCeiling_within hp hd _
  · rw [hm.guarantees, hm.reserve, hm.headroom, hm.capacity, hm.ceiling]
    exact hsound.floor_le
  · obtain ⟨rc, hrc, -⟩ := h.gate.members m hmem
    have hid : rc.resource = m := by simpa using List.find?_some hrc
    refine ⟨rc, hrc, ?_⟩
    rw [← hid]
    exact guaranteesOn_le_of_not_violated hviolated (mem_memberEntries.mpr ⟨m, hmem, hrc⟩)
  · -- the breakdown lists members with the totals of the evidence
    rw [evaluateDomain, evaluate_eq_finish hp hd h]
    intro ra hra
    obtain ⟨x, hx, rfl⟩ := List.mem_map.mp hra
    obtain ⟨rc, hrc, rfl⟩ := List.mem_map.mp (List.mem_of_mem_take hx)
    exact guaranteesOn_le_of_not_violated hviolated hrc

/-- **Grant safety**: a grant keeps every ceiling, and only the outcome
`WithinPolicy` grants. -/
theorem grant_safety (hp : (validatePolicy policy).isOk = true) (hd : domain ∈ policy.domains) :
    ((evaluateDomain order policy (.rebuild policy) domain expectation evidence tick).outcome =
        .withinPolicy →
      ∃ sn : Snapshots, evidence = sn.evidence ∧ GrantWithin policy domain sn
        (evaluateDomain order policy (.rebuild policy) domain expectation evidence tick)) ∧
    ((evaluateDomain order policy (.rebuild policy) domain expectation evidence tick).outcome ≠
        .withinPolicy →
      (evaluateDomain order policy (.rebuild policy) domain expectation evidence
        tick).authorizedIncrementUnits = 0) := by
  have hpi := validatePolicy_installable hp
  have hdi := hpi.domains domain hd
  refine ⟨fun hw => ?_, increment_of_outcome⟩
  have hauth : (evaluateDomain order policy (.rebuild policy) domain expectation evidence
      tick).outcome.isAuthoritative = true := by rw [hw]; rfl
  obtain ⟨sn, rfl, hreach⟩ := evaluate_authoritative hpi hdi hauth
  exact ⟨sn, rfl, grantWithin_of_reaches hpi hdi hreach hw⟩

end

/-! ### A domain of one resource -/

/-- Ratio 1:1, a reserve of 10 units and a headroom of 5. -/
def sampleDomain : DomainConfig where
  id := ⟨1⟩
  generation := ⟨1⟩
  pool := ⟨1⟩
  members := [⟨1⟩]
  configuredRatio := ⟨1, 1⟩
  emergencyReserveUnits := 10
  minProtectedHeadroomUnits := 5

def samplePolicy : OversubscriptionPolicy where
  id := ⟨1⟩
  generation := ⟨1⟩
  policyRatioCap := ⟨2, 1⟩
  domains := [sampleDomain]
  serviceClasses := [{ id := ⟨1⟩ }]
  riskBudget := { id := ⟨1⟩, generation := ⟨1⟩, hasAbsolute := true, maxExposureUnits := 100 }

def sampleExpectation : AuthorityExpectation := ⟨⟨1⟩, ⟨1⟩, ⟨1⟩, ⟨1⟩, ⟨1⟩, ⟨1⟩, ⟨1⟩⟩

def sampleProvenance : Provenance where
  publisher := ⟨1⟩
  incarnation := ⟨1⟩
  epoch := ⟨1⟩
  sequence := 1
  evidenceId := ⟨1⟩

/-- The resource carries `usable` of its 100 units and `demand` contingent units. -/
def sampleSnapshots (usable demand : UInt64) : Snapshots where
  cap := {
    domain := ⟨1⟩
    generation := ⟨1⟩
    epoch := ⟨1⟩
    resources := [{
      resource := ⟨1⟩
      pool := ⟨1⟩
      physicalCapacity := 100
      usableCapacity := usable
      health := .healthy
      generation := ⟨1⟩ }]
    provenance := sampleProvenance }
  res := { domain := ⟨1⟩, generation := ⟨1⟩, epoch := ⟨1⟩, provenance := sampleProvenance }
  adm := {
    domain := ⟨1⟩
    generation := ⟨1⟩
    epoch := ⟨1⟩
    records := [{
      admission := ⟨1⟩
      resource := ⟨1⟩
      pool := ⟨1⟩
      serviceClass := ⟨1⟩
      kind := .contingent
      committedCapacity := demand
      generation := ⟨1⟩ }]
    provenance := sampleProvenance }

theorem samplePolicy_valid : (validatePolicy samplePolicy).isOk = true := by decide +kernel

theorem sampleDomain_mem : sampleDomain ∈ samplePolicy.domains := List.mem_cons_self

theorem sample_reaches {usable demand : UInt64}
    (h : (evaluateDomain .listed samplePolicy (.rebuild samplePolicy) sampleDomain sampleExpectation
      (sampleSnapshots usable demand).evidence 0).outcome.severity < 5) :
    Reaches .u64 samplePolicy sampleDomain sampleExpectation (sampleSnapshots usable demand) 0 := by
  have hpi := validatePolicy_installable samplePolicy_valid
  exact reaches_of_mild hpi (hpi.domains _ sampleDomain_mem) h

/-- With 50 units of demand there is something to grant. -/
theorem grant_safety_sample : ∃ sn : Snapshots,
    (sampleSnapshots 100 50).evidence = sn.evidence ∧ GrantWithin samplePolicy sampleDomain sn
      (evaluateDomain .listed samplePolicy (.rebuild samplePolicy) sampleDomain sampleExpectation
        (sampleSnapshots 100 50).evidence 0) :=
  (grant_safety samplePolicy_valid sampleDomain_mem).1 (by decide +kernel)

/-! ## The evidence gate -/

/-- What the guaranteed-kind admissions of a class hold on a resource. -/
def guaranteedAdmissions (rs : List DemandRecord) (m : ResourceId) (cls : ServiceClassId) : Nat :=
  sumWhere (fun r => decide (r.kind = .guaranteed) && decide (r.resource = m) &&
    decide (r.serviceClass = cls)) committed rs

/-- What a class has reserved on a resource. -/
def reservations (gs : List Guarantee) (m : ResourceId) (cls : ServiceClassId) : Nat :=
  sumWhere (fun g => decide (g.resource = m) && decide (g.serviceClass = cls)) guaranteed gs

/-- Evidence that supports authority. -/
structure Vetted (policy : OversubscriptionPolicy) (domain : DomainConfig)
    (expectation : AuthorityExpectation) (sn : Snapshots) (tick : UInt64) : Prop where
  bound : Bound policy domain expectation sn
  fresh : Fresh policy sn tick
  resources_nodup : (sn.cap.resources.map (·.resource)).Nodup
  reservations_nodup : (sn.res.guarantees.map (·.reservation)).Nodup
  admissions_nodup : (sn.adm.records.map (·.admission)).Nodup
  members : ∀ m ∈ domain.members, ∃ rc ∈ sn.cap.resources, rc.resource = m ∧ rc.pool = domain.pool
  guarantees : ∀ g ∈ sn.res.guarantees, g.resource ∈ domain.members →
    g.pool = domain.pool ∧ (∃ c ∈ policy.serviceClasses, c.id = g.serviceClass) ∧
      g.protectedObligation = true ∧ g.preemptible = false
  records : ∀ r ∈ sn.adm.records, r.resource ∈ domain.members →
    r.pool = domain.pool ∧ ∃ c ∈ policy.serviceClasses, c.id = r.serviceClass
  eligible : ∀ r ∈ sn.adm.records, r.resource ∈ domain.members →
    r.kind = .contingent ∨ r.kind = .burst → ∀ c ∈ policy.serviceClasses, c.id = r.serviceClass →
      c.oversubscriptionEligible = false → r.committedCapacity = 0 ∧ r.pendingCapacity = 0
  backed : ∀ m ∈ domain.members, ∀ cls, guaranteedAdmissions sn.adm.records m cls ≤
    reservations sn.res.guarantees m cls

section

variable {order : MapOrder} {policy : OversubscriptionPolicy} {index : PolicyIndex}
  {domain : DomainConfig} {expectation : AuthorityExpectation} {evidence : DomainEvidence}
  {sn : Snapshots} {tick : UInt64}

theorem covers_iff {id : ResourceId} : domain.covers id = true ↔ id ∈ domain.members :=
  decide_eq_true_iff

theorem exists_class {id : ServiceClassId}
    (h : ((PolicyIndex.rebuild policy).serviceClass id).isSome = true) :
    ∃ c ∈ policy.serviceClasses, c.id = id := by
  obtain ⟨c, hc⟩ := Option.isSome_iff_exists.mp h
  exact ⟨c, PolicyIndex.serviceClass_eq_some hc⟩

theorem get_admitted_covered {m : ResourceId} (hm : m ∈ domain.members) {cls : ServiceClassId} :
    get (admitted domain sn.adm.records) (m, cls) = guaranteedAdmissions sn.adm.records m cls := by
  rw [get_admitted]
  refine sumWhere_congr (fun r _ => ?_) fun _ _ _ => rfl
  by_cases hr : r.resource = m
  · simp [isGuaranteed, hr, covers_iff.mpr hm]
  · simp [hr]

theorem get_backing_covered {m : ResourceId} (hm : m ∈ domain.members) {cls : ServiceClassId} :
    get (backing domain sn.res.guarantees) (m, cls) = reservations sn.res.guarantees m cls := by
  rw [get_backing]
  refine sumWhere_congr (fun g _ => ?_) fun _ _ _ => rfl
  by_cases hg : g.resource = m
  · simp [hg, covers_iff.mpr hm]
  · simp [hg]

/-- Where no guaranteed record is unbacked, no total is. -/
theorem backed_of_mapped (h : (standing policy index domain sn).unmapped = false)
    {m : ResourceId} (hm : m ∈ domain.members) (cls : ServiceClassId) :
    guaranteedAdmissions sn.adm.records m cls ≤ reservations sn.res.guarantees m cls := by
  by_cases h0 : guaranteedAdmissions sn.adm.records m cls = 0
  · omega
  · rw [guaranteedAdmissions, sumWhere_eq_zero] at h0
    simp only [Bool.and_eq_true, decide_eq_true_eq, and_imp, not_forall] at h0
    obtain ⟨r, hr, hkind, rfl, rfl, -⟩ := h0
    have hG : isGuaranteed domain r = true := by
      simp [isGuaranteed, covers_iff.mpr hm, hkind]
    have hle := List.any_eq_false.mp h r hr
    simp only [isUnbacked, hG, Bool.true_and, decide_eq_true_eq, Nat.not_lt] at hle
    rwa [get_admitted_covered hm, get_backing_covered hm] at hle

theorem eligible_of_sound (hp : policy.Installable)
    (h : (standing policy (.rebuild policy) domain sn).ineligible = false) {r : DemandRecord}
    (hr : r ∈ sn.adm.records) (hm : r.resource ∈ domain.members)
    (hk : r.kind = .contingent ∨ r.kind = .burst) {c : ServiceClassRef}
    (hc : c ∈ policy.serviceClasses) (hid : c.id = r.serviceClass)
    (hel : c.oversubscriptionEligible = false) :
    r.committedCapacity = 0 ∧ r.pendingCapacity = 0 := by
  have hcls : (PolicyIndex.rebuild policy).serviceClass r.serviceClass = some c :=
    hid ▸ PolicyIndex.serviceClass_of_mem hp.classes_nodup hc
  have hin : isIneligible domain (.rebuild policy) r = true := by
    simp [isIneligible, isOversubscribed, covers_iff.mpr hm, hk, eligible, hcls, hel]
  have hzero := List.any_eq_false.mp h r hr
  simp only [hin, Bool.true_and, Bool.or_eq_true, bne_iff_ne, ne_eq, not_or, not_not] at hzero
  exact ⟨UInt64.toNat_inj.mp hzero.1, UInt64.toNat_inj.mp hzero.2⟩

theorem vetted_of_reaches (hp : policy.Installable)
    (h : Reaches .u64 policy domain expectation sn tick)
    (hunmapped : (standing policy (.rebuild policy) domain sn).unmapped = false)
    (hineligible : (standing policy (.rebuild policy) domain sn).ineligible = false) :
    Vetted policy domain expectation sn tick where
  bound := h.gate.bound
  fresh := h.gate.fresh
  resources_nodup := by
    have hn : ((sn.cap.resources.map (·.resource)).map fun id => id.value).Nodup := by
      rw [List.map_map]
      exact h.gate.capacity_nodup
    exact hn.of_map _
  reservations_nodup := h.gate.guarantees.nodup
  admissions_nodup := h.gate.demands.nodup
  members m hm := by
    obtain ⟨rc, hrc, hok⟩ := h.gate.members m hm
    exact ⟨rc, List.mem_of_find?_eq_some hrc, by simpa using List.find?_some hrc, hok.1⟩
  guarantees g hg hm := by
    obtain ⟨hprot, hpool, hcls⟩ := h.gate.guarantees.entry g hg (covers_iff.mpr hm)
    exact ⟨hpool, exists_class hcls, hprot⟩
  records r hr hm := by
    obtain ⟨hpool, hcls, -⟩ := h.gate.demands.entry r hr (covers_iff.mpr hm)
    exact ⟨hpool, exists_class hcls⟩
  eligible _ hr hm hk _ hc hid hel := eligible_of_sound hp hineligible hr hm hk hc hid hel
  backed _ hm cls := backed_of_mapped hunmapped hm cls

theorem gatheredAuthority_complete (hp : policy.Installable) (hd : domain.Installable policy)
    (h : Bound policy domain expectation sn) :
    (gatheredAuthority policy domain expectation sn tick).complete = true := by
  have hcap : sn.cap.generation.valid = true := h.capacityGeneration_eq ▸ h.capacityGeneration_valid
  have hres : sn.res.generation.valid = true :=
    h.reservationGeneration_eq ▸ h.reservationGeneration_valid
  have hadm : sn.adm.generation.valid = true :=
    h.admissionGeneration_eq ▸ h.admissionGeneration_valid
  simp only [AuthorityVector.complete, gatheredAuthority, boundAuthority, initialAuthority,
    hd.id_valid, hd.generation_valid, hp.id_valid, hp.generation_valid, hcap, hres, hadm,
    hp.risk.id_valid, hp.risk.generation_valid, h.epoch_valid, Bool.and_self]

/-- **Evidence gate**: authority is only given to vetted evidence, under a
complete authority vector. -/
theorem evidence_gate (hp : (validatePolicy policy).isOk = true) (hd : domain ∈ policy.domains)
    (h : (evaluateDomain order policy (.rebuild policy) domain expectation evidence
      tick).outcome.isAuthoritative = true) :
    (∃ sn : Snapshots, evidence = sn.evidence ∧ Vetted policy domain expectation sn tick) ∧
      (evaluateDomain order policy (.rebuild policy) domain expectation evidence
        tick).authority.complete = true := by
  have hpi := validatePolicy_installable hp
  have hdi := hpi.domains domain hd
  obtain ⟨sn, rfl, hreach, hgov⟩ := (authoritative_iff hpi hdi).mp h
  refine ⟨⟨sn, rfl, vetted_of_reaches hpi hreach hgov.mapped hgov.eligible⟩, ?_⟩
  rw [evaluateDomain, evaluate_authority hpi hdi hreach]
  exact gatheredAuthority_complete hpi hdi hreach.gate.bound

theorem evidence_gate_sample :
    (∃ sn : Snapshots, (sampleSnapshots 100 50).evidence = sn.evidence ∧
        Vetted samplePolicy sampleDomain sampleExpectation sn 0) ∧
      (evaluateDomain .listed samplePolicy (.rebuild samplePolicy) sampleDomain sampleExpectation
        (sampleSnapshots 100 50).evidence 0).authority.complete = true :=
  evidence_gate samplePolicy_valid sampleDomain_mem (by decide +kernel)

end

/-! ## The emergency reserve -/

namespace Standing

/-- Contingent demand has eaten into the reserve, and nothing else is wrong. -/
structure ReserveEaten (s : Standing) : Prop where
  sound : s.Sound
  capacity_pos : 0 < s.capacity
  burst : s.burstExceeded = false
  share : s.shareExceeded = false
  fits : s.guarantees + s.contingent ≤ s.ceiling
  eaten : s.ceiling < s.guarantees + s.reserve + s.contingent

variable {s : Standing}

/-- A legal outcome tolerates demand in the reserve exactly when nothing else is wrong. -/
theorem reserveEaten_iff :
    (s.outcome = .withinPolicy ∨ s.outcome = .atLimit) ∧
        s.ceiling < s.guarantees + s.reserve + s.contingent ↔ s.ReserveEaten := by
  have hreq : s.protectedRequired = s.guarantees + s.reserve := rfl
  have hcom : s.committed = s.guarantees + s.contingent := rfl
  constructor
  · rintro ⟨hout, heaten⟩
    have hlim : s.outcome = .atLimit :=
      hout.resolve_left fun hw => by have := grant_fills hw; omega
    obtain ⟨hs, ⟨hE, hC⟩ | ⟨hE, hO, hB, hS, -⟩⟩ := outcome_eq_atLimit.mp hlim
    · have hfits : s.protectedRequired ≤ s.capacity :=
        Nat.not_lt.mp fun hc => hs.protectedFits (.inr hc)
      omega
    · have hle : s.committed ≤ s.ceiling := Nat.sub_eq_zero_iff_le.mp hO
      exact ⟨hs, Nat.pos_of_ne_zero hE, hB, hS, hle, heaten⟩
  · intro h
    have hover : ¬ 0 < s.overage := by unfold overage; have := h.fits; omega
    have hfree : s.contingentFree = 0 := by
      unfold contingentFree contingentCeiling
      have := h.eaten
      omega
    refine ⟨.inr ?_, h.eaten⟩
    rw [outcome_of_sound h.sound, if_neg (Nat.pos_iff_ne_zero.mp h.capacity_pos), if_neg hover,
      h.burst, h.share, hfree]
    rfl

end Standing

section

variable {order : MapOrder} {policy : OversubscriptionPolicy} {domain : DomainConfig}
  {expectation : AuthorityExpectation} {evidence : DomainEvidence} {tick : UInt64}

/-- **The reserve**: a legal outcome withholds it from the standing demand
exactly when no evidence that passes puts demand into it with nothing else wrong. -/
theorem reserve_withheld_iff (hp : (validatePolicy policy).isOk = true)
    (hd : domain ∈ policy.domains) :
    let r := evaluateDomain order policy (.rebuild policy) domain expectation evidence tick
    (r.outcome = .withinPolicy ∨ r.outcome = .atLimit →
      r.accounting.guaranteesTotal + r.accounting.emergencyReserve +
        r.accounting.contingentCommitted ≤ r.accounting.ceilingTotal) ↔
    ∀ sn : Snapshots, evidence = sn.evidence → Reaches .u64 policy domain expectation sn tick →
      ¬ (standing policy (.rebuild policy) domain sn).ReserveEaten := by
  have hpi := validatePolicy_installable hp
  have hdi := hpi.domains domain hd
  intro r
  have hdecides : ∀ sn : Snapshots, evidence = sn.evidence →
      Reaches .u64 policy domain expectation sn tick →
        Decides r (standing policy (.rebuild policy) domain sn) := by
    rintro sn rfl hreach
    exact evaluate_decides hpi hdi hreach
  constructor
  · rintro hle sn hev hreach heaten
    have hdec := hdecides sn hev hreach
    obtain ⟨hout, hlt⟩ := Standing.reserveEaten_iff.mpr heaten
    have hsum := hle (by rw [hdec.outcome]; exact hout)
    rw [hdec.amounts.guarantees, hdec.amounts.reserve, hdec.amounts.contingent,
      hdec.amounts.ceiling] at hsum
    omega
  · intro hnone hout
    have hauth : r.outcome.isAuthoritative = true := by
      rcases hout with h | h <;> rw [h] <;> rfl
    obtain ⟨sn, hev, hreach⟩ := evaluate_authoritative hpi hdi hauth
    have hdec := hdecides sn hev hreach
    rw [hdec.amounts.guarantees, hdec.amounts.reserve, hdec.amounts.contingent,
      hdec.amounts.ceiling]
    by_contra hlt
    rw [hdec.outcome] at hout
    exact hnone sn hev hreach (Standing.reserveEaten_iff.mp ⟨hout, Nat.not_le.mp hlt⟩)

theorem reserve_withheld_sample :
    let r := evaluateDomain .listed samplePolicy (.rebuild samplePolicy) sampleDomain
      sampleExpectation (sampleSnapshots 100 50).evidence 0
    (r.outcome = .withinPolicy ∨ r.outcome = .atLimit →
      r.accounting.guaranteesTotal + r.accounting.emergencyReserve +
        r.accounting.contingentCommitted ≤ r.accounting.ceilingTotal) ↔
    ∀ sn : Snapshots, (sampleSnapshots 100 50).evidence = sn.evidence →
      Reaches .u64 samplePolicy sampleDomain sampleExpectation sn 0 →
        ¬ (standing samplePolicy (.rebuild samplePolicy) sampleDomain sn).ReserveEaten :=
  reserve_withheld_iff samplePolicy_valid sampleDomain_mem

/-- With 95 units of demand under a ceiling of 100, the reserve of 10 is eaten
into, and the outcome is `AtLimit`. -/
theorem reserve_not_always_withheld :
    ¬ ∀ (order : MapOrder) (policy : OversubscriptionPolicy) (domain : DomainConfig)
        (expectation : AuthorityExpectation) (evidence : DomainEvidence) (tick : UInt64),
      (validatePolicy policy).isOk = true → domain ∈ policy.domains →
      let r := evaluateDomain order policy (.rebuild policy) domain expectation evidence tick
      r.outcome = .withinPolicy ∨ r.outcome = .atLimit →
        r.accounting.guaranteesTotal + r.accounting.emergencyReserve +
          r.accounting.contingentCommitted ≤ r.accounting.ceilingTotal := by
  intro h
  have hle := h .listed samplePolicy sampleDomain sampleExpectation
    (sampleSnapshots 100 95).evidence 0 samplePolicy_valid sampleDomain_mem
    (.inr (by decide +kernel))
  exact absurd hle (by decide +kernel)

end

/-! ## The minimum protected headroom -/

namespace Standing

/-- A grant is due while some headroom must stay uncommitted. -/
structure HeadroomGranted (s : Standing) : Prop where
  sound : s.Sound
  capacity_pos : 0 < s.capacity
  burst : s.burstExceeded = false
  share : s.shareExceeded = false
  room : s.guarantees + s.reserve + s.contingent < s.ceiling
  headroom_pos : 0 < s.headroom

variable {s : Standing}

/-- The contingent ceiling does not know of the headroom: where there is room
under the reserve, all of it is granted. -/
theorem headroomGranted_iff :
    s.outcome = .withinPolicy ∧ 0 < s.headroom ↔ s.HeadroomGranted := by
  have hreq : s.protectedRequired = s.guarantees + s.reserve := rfl
  have hcom : s.committed = s.guarantees + s.contingent := rfl
  constructor
  · rintro ⟨hout, hhead⟩
    have hfill := grant_fills hout
    obtain ⟨hs, hE, -, hB, hS, hfree⟩ := outcome_eq_withinPolicy.mp hout
    exact ⟨hs, Nat.pos_of_ne_zero hE, hB, hS, by omega, hhead⟩
  · intro h
    have hroom := h.room
    refine ⟨outcome_eq_withinPolicy.mpr ⟨h.sound, Nat.pos_iff_ne_zero.mp h.capacity_pos, ?_,
      h.burst, h.share, ?_⟩, h.headroom_pos⟩
    · unfold overage
      omega
    · unfold contingentFree contingentCeiling
      omega

end Standing

section

variable {order : MapOrder} {policy : OversubscriptionPolicy} {domain : DomainConfig}
  {expectation : AuthorityExpectation} {evidence : DomainEvidence} {tick : UInt64}

/-- **Headroom**: a grant leaves the minimum protected headroom uncommitted
exactly when there is none to leave. -/
theorem headroom_uncommitted_iff (hp : (validatePolicy policy).isOk = true)
    (hd : domain ∈ policy.domains) :
    let r := evaluateDomain order policy (.rebuild policy) domain expectation evidence tick
    (r.outcome = .withinPolicy →
      r.accounting.committedTotal + r.authorizedIncrementUnits + r.accounting.emergencyReserve +
        r.accounting.minProtectedHeadroom ≤ r.accounting.ceilingTotal) ↔
    ∀ sn : Snapshots, evidence = sn.evidence → Reaches .u64 policy domain expectation sn tick →
      ¬ (standing policy (.rebuild policy) domain sn).HeadroomGranted := by
  have hpi := validatePolicy_installable hp
  have hdi := hpi.domains domain hd
  intro r
  have hsum : ∀ sn : Snapshots, evidence = sn.evidence →
      Reaches .u64 policy domain expectation sn tick → r.outcome = .withinPolicy →
        let s := standing policy (.rebuild policy) domain sn
        s.outcome = .withinPolicy ∧
          (r.accounting.committedTotal + r.authorizedIncrementUnits +
              r.accounting.emergencyReserve + r.accounting.minProtectedHeadroom ≤
            r.accounting.ceilingTotal ↔ s.headroom = 0) := by
    rintro sn rfl hreach hw s
    have hdec : Decides r s := evaluate_decides hpi hdi hreach
    have hout : s.outcome = .withinPolicy := hdec.outcome ▸ hw
    have hfill := Standing.grant_fills hout
    have hcom : s.committed = s.guarantees + s.contingent := rfl
    refine ⟨hout, ?_⟩
    rw [hdec.increment, if_pos hout, hdec.amounts.committed, hdec.amounts.reserve,
      hdec.amounts.headroom, hdec.amounts.ceiling]
    omega
  constructor
  · rintro hle sn rfl hreach hgranted
    obtain ⟨hout, hpos⟩ := Standing.headroomGranted_iff.mpr hgranted
    have hdec : Decides r _ := evaluate_decides hpi hdi hreach
    have hw : r.outcome = .withinPolicy := hdec.outcome.trans hout
    exact Nat.pos_iff_ne_zero.mp hpos ((hsum sn rfl hreach hw).2.mp (hle hw))
  · intro hnone hw
    have hauth : r.outcome.isAuthoritative = true := by rw [hw]; rfl
    obtain ⟨sn, hev, hreach⟩ := evaluate_authoritative hpi hdi hauth
    obtain ⟨hout, hiff⟩ := hsum sn hev hreach hw
    refine hiff.mpr (Nat.eq_zero_of_not_pos fun hpos => ?_)
    exact hnone sn hev hreach (Standing.headroomGranted_iff.mp ⟨hout, hpos⟩)

theorem headroom_uncommitted_sample :
    let r := evaluateDomain .listed samplePolicy (.rebuild samplePolicy) sampleDomain
      sampleExpectation (sampleSnapshots 100 50).evidence 0
    (r.outcome = .withinPolicy →
      r.accounting.committedTotal + r.authorizedIncrementUnits + r.accounting.emergencyReserve +
        r.accounting.minProtectedHeadroom ≤ r.accounting.ceilingTotal) ↔
    ∀ sn : Snapshots, (sampleSnapshots 100 50).evidence = sn.evidence →
      Reaches .u64 samplePolicy sampleDomain sampleExpectation sn 0 →
        ¬ (standing samplePolicy (.rebuild samplePolicy) sampleDomain sn).HeadroomGranted :=
  headroom_uncommitted_iff samplePolicy_valid sampleDomain_mem

/-- With 50 units of demand under a ceiling of 100 and a reserve of 10, all 40
remaining units are granted, and none is left of the headroom of 5. -/
theorem headroom_not_always_uncommitted :
    ¬ ∀ (order : MapOrder) (policy : OversubscriptionPolicy) (domain : DomainConfig)
        (expectation : AuthorityExpectation) (evidence : DomainEvidence) (tick : UInt64),
      (validatePolicy policy).isOk = true → domain ∈ policy.domains →
      let r := evaluateDomain order policy (.rebuild policy) domain expectation evidence tick
      r.outcome = .withinPolicy →
        r.accounting.committedTotal + r.authorizedIncrementUnits +
            r.accounting.emergencyReserve + r.accounting.minProtectedHeadroom ≤
          r.accounting.ceilingTotal := by
  intro h
  have hle := h .listed samplePolicy sampleDomain sampleExpectation
    (sampleSnapshots 100 50).evidence 0 samplePolicy_valid sampleDomain_mem (by decide +kernel)
  exact absurd hle (by decide +kernel)

end

end Oversub
