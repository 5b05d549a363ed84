import Oversub.Protocol
import Oversub.Engine.Grant

/-!
# Oversub.Intake

Evidence from its bytes to the decision.  The decoder keeps every raw value
of an enumeration, the validator asks for a demand kind but not for a named
one, and does not look at the health of a resource; the loops of the engine
switch on both.  What falls between them:

* a record of a kind that names no enumerator is in no total
  (`demand_counted_iff`);
* a member of such a health carries nothing and does not count as degraded
  (`health_respected_iff`).
-/

namespace Oversub

open Tally

/-! ## Accepted snapshots -/

/-- The snapshot some bytes decode to, accepted by its validator. -/
structure AdmissionSnapshot.Received (bytes : List UInt8) (snapshot : AdmissionSnapshot) : Prop where
  decoded : decodeAdmissionSnapshot bytes = some snapshot
  valid : (validateAdmissionSnapshot snapshot).isOk = true

structure CapacitySnapshot.Received (bytes : List UInt8) (snapshot : CapacitySnapshot) : Prop where
  decoded : decodeCapacitySnapshot bytes = some snapshot
  valid : (validateCapacitySnapshot snapshot).isOk = true

/-- Whatever its validator accepts can be received. -/
theorem AdmissionSnapshot.received_encode (snapshot : AdmissionSnapshot)
    (h : (validateAdmissionSnapshot snapshot).isOk = true) :
    snapshot.Received (encodeAdmissionSnapshot snapshot) :=
  ⟨decode_encodeAdmissionSnapshot (validateAdmissionSnapshot_valid h).size_le, h⟩

theorem CapacitySnapshot.received_encode (snapshot : CapacitySnapshot)
    (h : (validateCapacitySnapshot snapshot).isOk = true) :
    snapshot.Received (encodeCapacitySnapshot snapshot) :=
  ⟨decode_encodeCapacitySnapshot (validateCapacitySnapshot_valid h).size_le, h⟩

/-! ## Demand -/

/-- The demand of the members, of whatever kind. -/
def demandIn (domain : DomainConfig) (rs : List DemandRecord) : Nat :=
  sumWhere (fun r => domain.covers r.resource) committed rs

/-- In scope, of a kind that names no enumerator. -/
def isStray (domain : DomainConfig) (r : DemandRecord) : Bool :=
  domain.covers r.resource && !r.kind.isNamed

section

variable {order : MapOrder} {policy : OversubscriptionPolicy} {index : PolicyIndex}
  {domain : DomainConfig} {expectation : AuthorityExpectation} {sn : Snapshots} {tick : UInt64}
  {rs : List DemandRecord}

/-- Every record in scope is guaranteed, contingent, ineligible or stray. -/
theorem demandIn_eq (hkind : ∀ r ∈ rs, r.kind ≠ .unknown) :
    demandIn domain rs = admittedIn domain rs + contingentIn domain index rs +
      sumWhere (isIneligible domain index) committed rs + sumWhere (isStray domain) committed rs := by
  induction rs with
  | nil => rfl
  | cons r rs ih =>
      obtain ⟨hr, hrs⟩ := List.forall_mem_cons.mp hkind
      have hone : (if domain.covers r.resource then committed r else 0) =
          (if isGuaranteed domain r then committed r else 0) +
            (if isContingent domain index r then committed r else 0) +
            (if isIneligible domain index r then committed r else 0) +
            (if isStray domain r then committed r else 0) := by
        unfold isContingent isIneligible isGuaranteed isOversubscribed isStray
        cases hc : domain.covers r.resource with
        | false => simp
        | true =>
            cases he : eligible index r.serviceClass <;> cases hk : r.kind <;>
              simp_all [DemandKind.isNamed]
      have hih := ih hrs
      simp only [demandIn, admittedIn, contingentIn, sumWhere_cons] at hih ⊢
      omega

/-- Of governable evidence, only the strays are in no total. -/
theorem demandIn_of_governable (hkind : ∀ r ∈ sn.adm.records, r.kind ≠ .unknown)
    (h : (standing policy index domain sn).Governable) :
    demandIn domain sn.adm.records = admittedIn domain sn.adm.records +
      contingentIn domain index sn.adm.records + sumWhere (isStray domain) committed sn.adm.records := by
  have hzero : sumWhere (isIneligible domain index) committed sn.adm.records = 0 := by
    rw [sumWhere_eq_zero]
    intro r hr hin
    have hr0 := List.any_eq_false.mp h.eligible r hr
    simp only [hin, Bool.true_and, Bool.or_eq_true, bne_iff_ne, ne_eq, not_or, not_not] at hr0
    exact hr0.1
  rw [demandIn_eq hkind, hzero, Nat.add_zero]

theorem evaluate_admitted (hp : policy.Installable) (hd : domain.Installable policy)
    (h : Reaches .u64 policy domain expectation sn tick) :
    (evaluateDomain order policy (.rebuild policy) domain expectation sn.evidence
      tick).accounting.guaranteedAdmitted = admittedIn domain sn.adm.records := by
  rw [evaluateDomain, evaluate_eq_finish hp hd h]
  rfl

/-- **Demand**: an authoritative evaluation counts all demand in scope exactly
when no stray record of evidence that supports authority holds any. -/
theorem demand_counted_iff {bytes : List UInt8} {adm : AdmissionSnapshot}
    {cap : Option CapacitySnapshot} {res : Option ReservationSnapshot}
    (hp : (validatePolicy policy).isOk = true) (hd : domain ∈ policy.domains)
    (hadm : adm.Received bytes) :
    let evidence : DomainEvidence := ⟨cap, res, some adm⟩
    let result := evaluateDomain order policy (.rebuild policy) domain expectation evidence tick
    (result.outcome.isAuthoritative = true → demandIn domain adm.records =
        result.accounting.guaranteedAdmitted + result.accounting.contingentCommitted) ↔
      (Supports .u64 policy domain expectation evidence tick → ∀ r ∈ adm.records,
        r.resource ∈ domain.members → r.kind.isNamed = false → r.committedCapacity = 0) := by
  have hpi := validatePolicy_installable hp
  have hdi := hpi.domains domain hd
  intro evidence result
  rw [show result.outcome.isAuthoritative = true ↔ _ from authoritative_iff hpi hdi]
  refine imp_congr_right fun hsup => ?_
  obtain ⟨sn, hev, hreach, hgov⟩ := hsup
  obtain rfl : adm = sn.adm := Option.some.inj (congrArg DomainEvidence.admissions hev)
  have hresult : result =
      evaluateDomain order policy (.rebuild policy) domain expectation sn.evidence tick := by
    rw [← hev]
  have hcontingent : result.accounting.contingentCommitted =
      contingentIn domain (.rebuild policy) sn.adm.records := by
    rw [hresult]
    exact (evaluate_decides hpi hdi hreach).amounts.contingent
  have hadmitted : result.accounting.guaranteedAdmitted = admittedIn domain sn.adm.records := by
    rw [hresult]
    exact evaluate_admitted hpi hdi hreach
  have hsum := demandIn_of_governable (validateAdmissionSnapshot_valid hadm.valid).has_kind hgov
  have hzero : demandIn domain sn.adm.records = admittedIn domain sn.adm.records +
      contingentIn domain (.rebuild policy) sn.adm.records ↔
        sumWhere (isStray domain) committed sn.adm.records = 0 := by omega
  rw [hadmitted, hcontingent, hzero, sumWhere_eq_zero]
  refine forall_congr' fun r => imp_congr_right fun _ => ?_
  simp [isStray, covers_iff, committed, ← UInt64.toNat_inj]

end

/-- The snapshot of 50 units of demand, of the kind with the raw value `raw`. -/
def rawAdmissions (raw : UInt32) : AdmissionSnapshot :=
  let adm := (sampleSnapshots 100 50).adm
  { adm with records := adm.records.map fun r => { r with kind := .ofRaw raw } }

theorem demand_counted_sample :
    let evidence : DomainEvidence :=
      ⟨some (sampleSnapshots 100 50).cap, some (sampleSnapshots 100 50).res, some (rawAdmissions 2)⟩
    let result := evaluateDomain .listed samplePolicy (.rebuild samplePolicy) sampleDomain
      sampleExpectation evidence 0
    (result.outcome.isAuthoritative = true → demandIn sampleDomain (rawAdmissions 2).records =
        result.accounting.guaranteedAdmitted + result.accounting.contingentCommitted) ↔
      (Supports .u64 samplePolicy sampleDomain sampleExpectation evidence 0 →
        ∀ r ∈ (rawAdmissions 2).records, r.resource ∈ sampleDomain.members →
          r.kind.isNamed = false → r.committedCapacity = 0) :=
  demand_counted_iff samplePolicy_valid sampleDomain_mem
    ((rawAdmissions 2).received_encode (by decide +kernel))

/-- The raw kind 4 passes decoder and validator, and its 50 units are in no
total of an evaluation that grants. -/
theorem demand_not_always_counted :
    ¬ ∀ (order : MapOrder) (policy : OversubscriptionPolicy) (domain : DomainConfig)
        (expectation : AuthorityExpectation) (tick : UInt64) (bytes : List UInt8)
        (adm : AdmissionSnapshot) (cap : Option CapacitySnapshot) (res : Option ReservationSnapshot),
      (validatePolicy policy).isOk = true → domain ∈ policy.domains →
      decodeAdmissionSnapshot bytes = some adm → (validateAdmissionSnapshot adm).isOk = true →
      let result := evaluateDomain order policy (.rebuild policy) domain expectation
        ⟨cap, res, some adm⟩ tick
      result.outcome.isAuthoritative = true → demandIn domain adm.records =
        result.accounting.guaranteedAdmitted + result.accounting.contingentCommitted := by
  intro h
  have hrec := (rawAdmissions 4).received_encode (by decide +kernel)
  have heq := h .listed samplePolicy sampleDomain sampleExpectation 0 _ _
    (some (sampleSnapshots 100 50).cap) (some (sampleSnapshots 100 50).res) samplePolicy_valid
    sampleDomain_mem hrec.decoded hrec.valid (by decide +kernel)
  exact absurd heq (by decide +kernel)

/-! ## Health -/

/-- No authority rests on a member of unknown health, and a degraded or failed
member brings the effective ratio down to the degraded cap. -/
structure HealthRespected (domain : DomainConfig) (cap : CapacitySnapshot) (r : EvaluationResult) :
    Prop where
  authority : (∃ rc ∈ cap.resources, rc.resource ∈ domain.members ∧
      rc.health ≠ .healthy ∧ rc.health ≠ .degraded ∧ rc.health ≠ .failed) →
    r.outcome.isAuthoritative = false
  ratio : (∃ rc ∈ cap.resources, rc.resource ∈ domain.members ∧
      (rc.health = .degraded ∨ rc.health = .failed)) →
    r.accounting.effectiveRatio.AtMost (degradedCap domain)

section

variable {order : MapOrder} {policy : OversubscriptionPolicy} {index : PolicyIndex}
  {domain : DomainConfig} {expectation : AuthorityExpectation} {sn : Snapshots} {tick : UInt64}
  {evidence : DomainEvidence} {cap : CapacitySnapshot} {rc : ResourceCapacity}

/-- The entry of a resource is found, as no other has its identity. -/
theorem capacityByResource_of_mem (hn : (cap.resources.map (·.resource.value)).Nodup)
    (h : rc ∈ cap.resources) : capacityByResource cap rc.resource = some rc := by
  have hsome : (capacityByResource cap rc.resource).isSome = true := by
    rw [capacityByResource, List.find?_isSome]
    exact ⟨rc, h, decide_eq_true rfl⟩
  obtain ⟨rc', hrc'⟩ := Option.isSome_iff_exists.mp hsome
  have hid : rc'.resource = rc.resource := by simpa using List.find?_some hrc'
  have heq : rc' = rc := List.inj_on_of_nodup_map hn (List.mem_of_find?_eq_some hrc') h
    (congrArg StrongId.value hid)
  rw [hrc', heq]

/-- Evidence that supports authority has no member of the health `Unknown`. -/
theorem health_of_supports {evidence : DomainEvidence}
    (h : Supports .u64 policy domain expectation evidence tick) (hcap : evidence.capacity = some cap)
    (hn : (cap.resources.map (·.resource.value)).Nodup) (hrc : rc ∈ cap.resources)
    (hm : rc.resource ∈ domain.members) : rc.health ≠ .unknown := by
  obtain ⟨sn, rfl, hreach, -⟩ := h
  obtain rfl : sn.cap = cap := Option.some.inj hcap
  obtain ⟨rc', hrc', hok⟩ := hreach.gate.members _ hm
  rw [capacityByResource_of_mem hn hrc] at hrc'
  obtain rfl := Option.some.inj hrc'
  exact hok.2

theorem ResourceHealth.isNamed_eq_false {h : ResourceHealth} :
    h ≠ .healthy ∧ h ≠ .degraded ∧ h ≠ .failed ↔ h = .unknown ∨ h.isNamed = false := by
  cases h <;> simp [isNamed]

/-- A degraded or failed member caps the ratio. -/
theorem ratioOf_atMost (hn : (sn.cap.resources.map (·.resource.value)).Nodup)
    (h : ∃ rc ∈ sn.cap.resources, rc.resource ∈ domain.members ∧
      (rc.health = .degraded ∨ rc.health = .failed)) :
    (ratioOf domain sn).AtMost (degradedCap domain) := by
  obtain ⟨rc, hrc, hm, hbad⟩ := h
  have hentry : rc ∈ memberEntries domain sn.cap :=
    mem_memberEntries.mpr ⟨_, hm, capacityByResource_of_mem hn hrc⟩
  exact ratioFor_atMost_degradedCap (degradedAmong_iff.mpr ⟨rc, hentry, hbad⟩)

/-- **Health** is respected exactly when evidence that supports authority has
no member of a health that names no enumerator, and evidence with a degraded
member gets as far as its boundary or is configured below the cap anyway. -/
theorem health_respected_iff {bytes : List UInt8} {res : Option ReservationSnapshot}
    {adm : Option AdmissionSnapshot} (hp : (validatePolicy policy).isOk = true)
    (hd : domain ∈ policy.domains) (hcap : cap.Received bytes) :
    let evidence : DomainEvidence := ⟨some cap, res, adm⟩
    HealthRespected domain cap
        (evaluateDomain order policy (.rebuild policy) domain expectation evidence tick) ↔
      (Supports .u64 policy domain expectation evidence tick → ∀ rc ∈ cap.resources,
        rc.resource ∈ domain.members → rc.health.isNamed = true) ∧
      ((∃ rc ∈ cap.resources, rc.resource ∈ domain.members ∧
          (rc.health = .degraded ∨ rc.health = .failed)) →
        domain.configuredRatio.AtMost (degradedCap domain) ∨
          ∃ sn : Snapshots, evidence = sn.evidence ∧
            Gathers .u64 policy domain expectation sn tick) := by
  have hpi := validatePolicy_installable hp
  have hdi := hpi.domains domain hd
  have hn := (validateCapacitySnapshot_valid hcap.valid).nodup
  intro evidence
  have hauth : (evaluateDomain order policy (.rebuild policy) domain expectation evidence
      tick).outcome.isAuthoritative = true ↔ Supports .u64 policy domain expectation evidence tick :=
    authoritative_iff hpi hdi
  constructor
  · rintro ⟨hauthority, hratio⟩
    refine ⟨fun hsup rc hrc hm => ?_, fun hbad => ?_⟩
    · by_contra hnamed
      have hnone := hauthority ⟨rc, hrc, hm,
        ResourceHealth.isNamed_eq_false.mpr (.inr (Bool.eq_false_iff.mpr hnamed))⟩
      rw [hauth.mpr hsup] at hnone
      cases hnone
    · by_contra hneither
      obtain ⟨habove, hnot⟩ := not_or.mp hneither
      have hconf : (evaluateDomain order policy (.rebuild policy) domain expectation evidence
          tick).accounting.effectiveRatio = domain.configuredRatio :=
        evaluate_ratio_of_not_gathers hdi fun sn hev hg => hnot ⟨sn, hev, hg⟩
      have hle := hratio hbad
      rw [hconf] at hle
      exact habove hle
  · rintro ⟨hnamed, hreduced⟩
    refine ⟨fun ⟨rc, hrc, hm, hbad⟩ => Bool.eq_false_iff.mpr fun h => ?_, fun hbad => ?_⟩
    · have hsup := hauth.mp h
      rcases ResourceHealth.isNamed_eq_false.mp hbad with hunknown | hraw
      · exact health_of_supports hsup rfl hn hrc hm hunknown
      · exact Bool.false_ne_true (hraw.symm.trans (hnamed hsup rc hrc hm))
    · by_cases hg : ∃ sn : Snapshots, evidence = sn.evidence ∧
          Gathers .u64 policy domain expectation sn tick
      · obtain ⟨sn, hev, hg⟩ := hg
        obtain rfl : cap = sn.cap := Option.some.inj (congrArg DomainEvidence.capacity hev)
        rw [hev, evaluateDomain, evaluate_ratio_of_gathers hpi hdi hg]
        exact ratioOf_atMost hn hbad
      · have hconf : (evaluateDomain order policy (.rebuild policy) domain expectation evidence
            tick).accounting.effectiveRatio = domain.configuredRatio :=
          evaluate_ratio_of_not_gathers hdi fun sn hev h => hg ⟨sn, hev, h⟩
        rw [hconf]
        exact (hreduced hbad).resolve_right hg

end

/-- The domain of `sampleDomain` with a second member. -/
def pairDomain : DomainConfig := { sampleDomain with members := [⟨1⟩, ⟨2⟩] }

def pairPolicy : OversubscriptionPolicy := { samplePolicy with domains := [pairDomain] }

/-- The second member is reported with the raw health `raw`. -/
def rawCapacity (raw : UInt32) : CapacitySnapshot :=
  let cap := (sampleSnapshots 100 50).cap
  { cap with resources := cap.resources ++ cap.resources.map fun rc =>
      { rc with resource := ⟨2⟩, health := .ofRaw raw } }

theorem pairPolicy_valid : (validatePolicy pairPolicy).isOk = true := by decide +kernel

theorem pairDomain_mem : pairDomain ∈ pairPolicy.domains := List.mem_cons_self

theorem health_respected_sample :
    let evidence : DomainEvidence :=
      ⟨some (rawCapacity 2), some (sampleSnapshots 100 50).res, some (sampleSnapshots 100 50).adm⟩
    HealthRespected pairDomain (rawCapacity 2)
        (evaluateDomain .listed pairPolicy (.rebuild pairPolicy) pairDomain sampleExpectation
          evidence 0) ↔
      (Supports .u64 pairPolicy pairDomain sampleExpectation evidence 0 →
        ∀ rc ∈ (rawCapacity 2).resources, rc.resource ∈ pairDomain.members →
          rc.health.isNamed = true) ∧
      ((∃ rc ∈ (rawCapacity 2).resources, rc.resource ∈ pairDomain.members ∧
          (rc.health = .degraded ∨ rc.health = .failed)) →
        pairDomain.configuredRatio.AtMost (degradedCap pairDomain) ∨
          ∃ sn : Snapshots, evidence = sn.evidence ∧
            Gathers .u64 pairPolicy pairDomain sampleExpectation sn 0) :=
  health_respected_iff pairPolicy_valid pairDomain_mem
    ((rawCapacity 2).received_encode (by decide +kernel))

/-- The raw health 4 passes decoder and validator, and new oversubscription is
authorized with a member in that state. -/
theorem health_not_always_respected :
    ¬ ∀ (order : MapOrder) (policy : OversubscriptionPolicy) (domain : DomainConfig)
        (expectation : AuthorityExpectation) (tick : UInt64) (bytes : List UInt8)
        (cap : CapacitySnapshot) (res : Option ReservationSnapshot) (adm : Option AdmissionSnapshot),
      (validatePolicy policy).isOk = true → domain ∈ policy.domains →
      decodeCapacitySnapshot bytes = some cap → (validateCapacitySnapshot cap).isOk = true →
      HealthRespected domain cap (evaluateDomain order policy (.rebuild policy) domain expectation
        ⟨some cap, res, adm⟩ tick) := by
  intro h
  have hrec := (rawCapacity 4).received_encode (by decide +kernel)
  have hres := h .listed pairPolicy pairDomain sampleExpectation 0 _ _
    (some (sampleSnapshots 100 50).res) (some (sampleSnapshots 100 50).adm) pairPolicy_valid
    pairDomain_mem hrec.decoded hrec.valid
  have hnone := hres.authority (by decide +kernel)
  exact absurd hnone (by decide +kernel)

end Oversub
