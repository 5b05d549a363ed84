import Oversub.Engine.Totals

/-!
# Oversub.Engine.Gate

When the evidence is gathered: `gather_eq_ok` says that the first half of an
evaluation succeeds exactly when

* the evidence passes the gate (`EvidenceGate`), which does not depend on the
  arithmetic, and
* its sums fit the arithmetic (`EvidenceFits`) and its capacities the policy,

and that it then returns `gathered`, the totals of the evidence.
-/

namespace Oversub

open EarlyFold Tally

/-! ## Binding and freshness -/

/-- The snapshots are those of the domain, at the generations the runtime owns. -/
structure Bound (policy : OversubscriptionPolicy) (domain : DomainConfig)
    (expectation : AuthorityExpectation) (sn : Snapshots) : Prop where
  epoch_valid : expectation.epoch.valid = true
  domainGeneration_valid : expectation.domainGeneration.valid = true
  policyGeneration_valid : expectation.policyGeneration.valid = true
  capacityGeneration_valid : expectation.capacityGeneration.valid = true
  reservationGeneration_valid : expectation.reservationGeneration.valid = true
  admissionGeneration_valid : expectation.admissionGeneration.valid = true
  riskBudgetGeneration_valid : expectation.riskBudgetGeneration.valid = true
  domain_eq : sn.cap.domain = domain.id ∧ sn.res.domain = domain.id ∧ sn.adm.domain = domain.id
  epoch_eq : sn.cap.epoch = expectation.epoch ∧ sn.res.epoch = expectation.epoch ∧
    sn.adm.epoch = expectation.epoch
  domainGeneration_eq : domain.generation = expectation.domainGeneration
  policyGeneration_eq : policy.generation = expectation.policyGeneration
  riskBudgetGeneration_eq : policy.riskBudget.generation = expectation.riskBudgetGeneration
  capacityGeneration_eq : sn.cap.generation = expectation.capacityGeneration
  reservationGeneration_eq : sn.res.generation = expectation.reservationGeneration
  admissionGeneration_eq : sn.adm.generation = expectation.admissionGeneration

/-- The evidence consists of these snapshots. -/
def Snapshots.evidence (sn : Snapshots) : DomainEvidence where
  capacity := some sn.cap
  reservations := some sn.res
  admissions := some sn.adm

/-- Observed no later than the tick, and within the budget. -/
def FreshAt (tick observed budget : UInt64) : Prop :=
  observed.toNat ≤ tick.toNat ∧ tick.toNat - observed.toNat ≤ budget.toNat

instance (tick observed budget : UInt64) : Decidable (FreshAt tick observed budget) :=
  inferInstanceAs (Decidable (_ ∧ _))

structure Fresh (policy : OversubscriptionPolicy) (sn : Snapshots) (tick : UInt64) : Prop where
  capacity : FreshAt tick sn.cap.observedTick policy.maxCapacityAgeTicks
  reservations : FreshAt tick sn.res.observedTick policy.maxReservationAgeTicks
  admissions : FreshAt tick sn.adm.observedTick policy.maxAdmissionAgeTicks

structure Bounded (limits : PolicyLimits) (sn : Snapshots) : Prop where
  resources_le : sn.cap.resources.length ≤ kHardMaxResourcesPerSnapshot
  guarantees_le : sn.res.guarantees.length ≤ limits.maxGuaranteesPerSnapshot.toNat ∧
    sn.res.guarantees.length ≤ kHardMaxGuaranteesPerSnapshot
  records_le : sn.adm.records.length ≤ limits.maxDemandRecordsPerSnapshot.toNat ∧
    sn.adm.records.length ≤ kHardMaxDemandRecordsPerSnapshot

theorem requireGeneration_eq_ok {acc : DomainAccounting} {tag : GenTag} {g g' : Gen tag}
    {what : String} {u : Unit} :
    requireGeneration acc g.value g'.value what = .ok u ↔ g = g' := by
  rw [requireGeneration, require_eq_ok]
  cases g
  cases g'
  simp

theorem bindEvidence_eq_ok {policy : OversubscriptionPolicy} {domain : DomainConfig}
    {expectation : AuthorityExpectation} {evidence : DomainEvidence} {acc : DomainAccounting}
    {sn : Snapshots} :
    bindEvidence policy domain expectation evidence acc = .ok sn ↔
      evidence = sn.evidence ∧ Bound policy domain expectation sn := by
  obtain ⟨cap, res, adm⟩ := sn
  obtain ⟨cap?, res?, adm?⟩ := evidence
  unfold bindEvidence Snapshots.evidence
  split
  next cap' res' adm' hcap hres hadm =>
    obtain rfl : cap? = some cap' := hcap
    obtain rfl : res? = some res' := hres
    obtain rfl : adm? = some adm' := hadm
    simp only [bind_eq_ok, require_eq_ok, requireGeneration_eq_ok, exists_const, Bool.and_eq_true,
      and_assoc, Except.ok.injEq, Snapshots.mk.injEq, DomainEvidence.mk.injEq, Option.some.injEq]
    constructor
    · rintro ⟨h1, h2, h3, h4, h5, h6, h7, h8, h9, h10, h11, h12, h13, h14, h15, h16, h17, h18, h19,
        rfl, rfl, rfl⟩
      exact ⟨rfl, rfl, rfl, h1, h2, h3, h4, h5, h6, h7, ⟨h8, h9, h10⟩, ⟨h11, h12, h13⟩, h14, h15,
        h16, h17, h18, h19⟩
    · rintro ⟨rfl, rfl, rfl, h⟩
      exact ⟨h.1, h.2, h.3, h.4, h.5, h.6, h.7, h.8.1, h.8.2.1, h.8.2.2, h.9.1, h.9.2.1, h.9.2.2,
        h.10, h.11, h.12, h.13, h.14, h.15, rfl, rfl, rfl⟩
  next hnone =>
    simp only [reduceCtorEq, DomainEvidence.mk.injEq, false_iff, not_and]
    rintro ⟨rfl, rfl, rfl⟩
    exact absurd rfl (hnone cap res adm rfl rfl)

theorem requireFresh_eq_ok {acc : DomainAccounting} {tick observed budget : UInt64} {what : String}
    {u : Unit} :
    requireFresh acc tick observed budget what = .ok u ↔ FreshAt tick observed budget := by
  unfold requireFresh FreshAt
  simp only [bind_eq_ok, require_eq_ok, exists_const, UInt64.le_iff_toNat_le]
  refine and_congr_right fun h => ?_
  rw [UInt64.toNat_sub_of_le _ _ (UInt64.le_iff_toNat_le.mpr h)]

theorem checkFreshness_eq_ok {policy : OversubscriptionPolicy} {sn : Snapshots} {tick : UInt64}
    {acc : DomainAccounting} {u : Unit} :
    checkFreshness policy sn tick acc = .ok u ↔ Fresh policy sn tick := by
  unfold checkFreshness
  simp only [bind_eq_ok, requireFresh_eq_ok, exists_const]
  exact ⟨fun h => ⟨h.1, h.2.1, h.2.2⟩, fun h => ⟨h.1, h.2, h.3⟩⟩

theorem checkBounds_eq_ok {limits : PolicyLimits} {sn : Snapshots} {acc : DomainAccounting}
    {u : Unit} : checkBounds limits sn acc = .ok u ↔ Bounded limits sn := by
  unfold checkBounds
  simp only [bind_eq_ok, require_eq_ok, exists_const]
  exact ⟨fun h => ⟨h.1, h.2.1, h.2.2⟩, fun h => ⟨h.1, h.2, h.3⟩⟩

/-! ## The gate -/

/-- **The evidence gate**: everything an evaluation asks of its evidence
before it looks at an amount. -/
structure EvidenceGate (policy : OversubscriptionPolicy) (index : PolicyIndex)
    (domain : DomainConfig) (expectation : AuthorityExpectation) (sn : Snapshots)
    (tick : UInt64) : Prop where
  bound : Bound policy domain expectation sn
  fresh : Fresh policy sn tick
  bounded : Bounded policy.limits sn
  capacity_nodup : (sn.cap.resources.map (·.resource.value)).Nodup
  members : ∀ m ∈ domain.members, ∃ rc, capacityByResource sn.cap m = some rc ∧ EntryOk domain rc
  guarantees : GuaranteesOk index domain sn.res.guarantees
  demands : DemandsOk index domain sn.adm.records

/-- The sums of the evidence fit the arithmetic. -/
structure EvidenceFits (A : Arith) (index : PolicyIndex) (domain : DomainConfig) (sn : Snapshots) :
    Prop where
  scaled : ∀ rc ∈ memberEntries domain sn.cap, ScaledFits A rc
  guarantees : A.fits (guaranteesIn domain sn.res.guarantees) = true
  demand : DemandTotalsFit A index domain sn.adm.records

/-- The capacities stay within the policy's bound. -/
def WithinCapacityBound (A : Arith) (limits : PolicyLimits) (entries : List ResourceCapacity) :
    Prop :=
  A.sumSat (entries.map (·.physicalCapacity.toNat)) ≤ limits.maxCapacityUnits.toNat ∧
    A.sumSat (entries.map (·.usableCapacity.toNat)) ≤ limits.maxCapacityUnits.toNat

theorem mem_memberEntries {domain : DomainConfig} {cap : CapacitySnapshot} {rc : ResourceCapacity} :
    rc ∈ memberEntries domain cap ↔ ∃ m ∈ domain.members, capacityByResource cap m = some rc := by
  simp only [memberEntries, List.mem_filterMap, mem_sortMembers]

/-- The member loop's condition, without and with the arithmetic. -/
theorem forall_memberOk {A : Arith} {domain : DomainConfig} {cap : CapacitySnapshot} :
    (∀ m ∈ domain.members, MemberOk A domain cap m) ↔
      (∀ m ∈ domain.members, ∃ rc, capacityByResource cap m = some rc ∧ EntryOk domain rc) ∧
        ∀ rc ∈ memberEntries domain cap, ScaledFits A rc := by
  simp only [mem_memberEntries]
  constructor
  · intro h
    refine ⟨fun m hm => ?_, ?_⟩
    · obtain ⟨rc, hrc, hok, -⟩ := h m hm
      exact ⟨rc, hrc, hok⟩
    · rintro rc ⟨m, hm, hrc⟩
      obtain ⟨rc', hrc', -, hfits⟩ := h m hm
      obtain rfl : rc' = rc := Option.some.inj (hrc'.symm.trans hrc)
      exact hfits
  · rintro ⟨h, hfits⟩ m hm
    obtain ⟨rc, hrc, hok⟩ := h m hm
    exact ⟨rc, hrc, hok, hfits rc ⟨m, hm, hrc⟩⟩

/-! ## What is gathered -/

/-- The accounting after the totals loop. -/
def gatheredAccounting (A : Arith) (index : PolicyIndex) (domain : DomainConfig) (sn : Snapshots) :
    DomainAccounting :=
  let entries := memberEntries domain sn.cap
  let acc := countHealth (initialAccounting A domain) entries
  let acc := { acc with
    outOfScopeGuarantees := outOfScopeGuarantees A domain sn.res.guarantees
    guaranteesTotal := guaranteesIn domain sn.res.guarantees }
  countCapacity A (countDemand A index domain acc sn.adm.records) entries

/-- The totals of the evidence. -/
def gathered (A : Arith) (order : MapOrder) (index : PolicyIndex) (domain : DomainConfig)
    (sn : Snapshots) (authority : AuthorityVector) : Gathered :=
  let entries := memberEntries domain sn.cap
  { acc := gatheredAccounting A index domain sn
    authority := authority
    resources := entries.map (totalAccum index domain sn.res.guarantees sn.adm.records)
    contingentByClass := contingentByClass domain index sn.adm.records
    ineligibleAmount := ineligibleAmount A index domain sn.adm.records
    ineligibleClass := ineligibleClass index domain sn.adm.records
    unmapped := unmappedGuaranteed A order (admitted domain sn.adm.records)
      (backing domain sn.res.guarantees)
    closed := (effectiveTotal A entries).2 }

/-- The authority vector of a gathered evaluation. -/
def gatheredAuthority (policy : OversubscriptionPolicy) (domain : DomainConfig)
    (expectation : AuthorityExpectation) (sn : Snapshots) (tick : UInt64) : AuthorityVector :=
  { boundAuthority policy domain expectation sn tick with
    resourceSetFold := resourceSetFold ((memberEntries domain sn.cap).map memberAccum) }

section

variable {A : Arith} {order : MapOrder} {policy : OversubscriptionPolicy} {index : PolicyIndex}
  {domain : DomainConfig} {expectation : AuthorityExpectation} {sn : Snapshots} {tick : UInt64}

theorem gatherEvidence_eq_ok (ht : MemberTable domain (memberEntries domain sn.cap))
    {authority : AuthorityVector} {g : Gathered} :
    gatherEvidence A order policy index domain sn authority
        { acc := countHealth (initialAccounting A domain) (memberEntries domain sn.cap)
          resources := (memberEntries domain sn.cap).map memberAccum } = .ok g ↔
      GuaranteesOk index domain sn.res.guarantees ∧ DemandsOk index domain sn.adm.records ∧
      A.fits (guaranteesIn domain sn.res.guarantees) = true ∧
      DemandTotalsFit A index domain sn.adm.records ∧
      WithinCapacityBound A policy.limits (memberEntries domain sn.cap) ∧
      g = gathered A order index domain sn authority := by
  unfold gatherEvidence WithinCapacityBound
  simp only [bind_eq_ok]
  constructor
  · rintro ⟨s, hs, total, htotal, d, hd, t, htot, hg⟩
    obtain ⟨hgs, ⟨hon, -⟩, rfl⟩ := (gatherGuarantees_eq_ok ht rfl).mp hs
    obtain ⟨hfits, rfl⟩ := (guaranteesTotal_eq_ok ht).mp htotal
    obtain ⟨hrs, hdfits, rfl⟩ := (gatherDemand_eq_ok ht rfl).mp hd
    obtain ⟨hcap, rfl⟩ := (gatherTotals_eq_ok rfl hon).mp htot
    exact ⟨hgs, hrs, hfits, hdfits, hcap, (Except.ok.inj hg).symm⟩
  · rintro ⟨hgs, hrs, hfits, hdfits, hcap, rfl⟩
    have hon : ∀ id, A.fits (guaranteesOn domain sn.res.guarantees id) = true :=
      fun _ => A.fits_mono guaranteesOn_le hfits
    have hkey : ∀ key, A.fits (get (backing domain sn.res.guarantees) key) = true :=
      fun _ => A.fits_mono get_backing_le hfits
    exact ⟨_, (gatherGuarantees_eq_ok ht rfl).mpr ⟨hgs, ⟨hon, hkey⟩, rfl⟩, _,
      (guaranteesTotal_eq_ok ht).mpr ⟨hfits, rfl⟩, _,
      (gatherDemand_eq_ok ht rfl).mpr ⟨hrs, hdfits, rfl⟩, _,
      (gatherTotals_eq_ok rfl hon).mpr ⟨hcap, rfl⟩, rfl⟩

theorem EvidenceGate.memberTable (hn : domain.members.Nodup)
    (h : ∀ m ∈ domain.members, ∃ rc, capacityByResource sn.cap m = some rc ∧ EntryOk domain rc) :
    MemberTable domain (memberEntries domain sn.cap) := by
  refine Oversub.memberTable hn fun m hm => ?_
  obtain ⟨rc, hrc, -⟩ := h m hm
  rw [hrc]
  rfl

/-- **Gathering** succeeds exactly on evidence that passes the gate and fits,
and returns its totals. -/
theorem gather_eq_ok (hn : domain.members.Nodup) {evidence : DomainEvidence} {g : Gathered} :
    gather A order policy index domain expectation evidence tick = .ok g ↔
      ∃ sn : Snapshots, evidence = sn.evidence ∧
        EvidenceGate policy index domain expectation sn tick ∧ EvidenceFits A index domain sn ∧
        WithinCapacityBound A policy.limits (memberEntries domain sn.cap) ∧
        g = gathered A order index domain sn
          (gatheredAuthority policy domain expectation sn tick) := by
  unfold gather
  simp only [bind_eq_ok, mapError_eq_ok, bindEvidence_eq_ok, checkFreshness_eq_ok,
    checkBounds_eq_ok, exists_const, gatherMembers_eq_ok, forall_memberOk, and_assoc]
  refine exists_congr fun sn => and_congr_right fun _ => ?_
  constructor
  · rintro ⟨hbound, hfresh, hbounded, s, hnodup, hmem, hscaled, rfl, hg⟩
    obtain ⟨hgs, hrs, hfits, hdfits, hcap, hgeq⟩ :=
      (gatherEvidence_eq_ok (EvidenceGate.memberTable hn hmem)).mp hg
    exact ⟨⟨hbound, hfresh, hbounded, hnodup, hmem, hgs, hrs⟩, ⟨hscaled, hfits, hdfits⟩, hcap, hgeq⟩
  · rintro ⟨hgate, hfits, hcap, hgeq⟩
    exact ⟨hgate.bound, hgate.fresh, hgate.bounded, _, hgate.capacity_nodup, hgate.members,
      hfits.scaled, rfl,
      (gatherEvidence_eq_ok (EvidenceGate.memberTable hn hgate.members)).mpr
        ⟨hgate.guarantees, hgate.demands, hfits.guarantees, hfits.demand, hcap, hgeq⟩⟩

/-- **The capacity bound**: evidence that only breaks it is refused with its
totals, before any ceiling is computed. -/
theorem gather_outside (hn : domain.members.Nodup)
    (hgate : EvidenceGate policy index domain expectation sn tick)
    (hfits : EvidenceFits A index domain sn)
    (hout : ¬ WithinCapacityBound A policy.limits (memberEntries domain sn.cap)) :
    gather A order policy index domain expectation sn.evidence tick =
      .error (stop policy domain (gatheredAuthority policy domain expectation sn tick)
        ((gatheredAccounting A index domain sn).conflicting .resourceCapacityInvalid
          "domain capacity exceeds the policy capacity bound")) := by
  have ht := EvidenceGate.memberTable hn hgate.members
  have hon : ∀ id, A.fits (guaranteesOn domain sn.res.guarantees id) = true :=
    fun _ => A.fits_mono guaranteesOn_le hfits.guarantees
  have hkey : ∀ key, A.fits (get (backing domain sn.res.guarantees) key) = true :=
    fun _ => A.fits_mono get_backing_le hfits.guarantees
  unfold gather gatherEvidence
  simp only [bind_eq_error, mapError_eq_error, mapError_eq_ok]
  refine .inr ⟨sn, bindEvidence_eq_ok.mpr ⟨rfl, hgate.bound⟩,
    .inr ⟨(), checkFreshness_eq_ok.mpr hgate.fresh, .inr ⟨(), checkBounds_eq_ok.mpr hgate.bounded,
    .inr ⟨_, gatherMembers_eq_ok.mpr ⟨hgate.capacity_nodup,
      forall_memberOk.mpr ⟨hgate.members, hfits.scaled⟩, rfl⟩, _, ?_, rfl⟩⟩⟩⟩
  exact .inr ⟨_, (gatherGuarantees_eq_ok ht rfl).mpr ⟨hgate.guarantees, ⟨hon, hkey⟩, rfl⟩,
    .inr ⟨_, (guaranteesTotal_eq_ok ht).mpr ⟨hfits.guarantees, rfl⟩,
    .inr ⟨_, (gatherDemand_eq_ok ht rfl).mpr ⟨hgate.demands, hfits.demand, rfl⟩,
    .inl ((gatherTotals_eq_error rfl hon).mpr ⟨hout, rfl⟩)⟩⟩⟩

end

/-! ## The ratio of a refusal -/

/-- The refusal reports the ratio `R`. -/
def KeepsRatio (R : Ratio) (x : Refusal) : Prop := x.accounting.effectiveRatio = R

/-- A refusal before the boundary: at the ratio `R`, and for no overage. -/
structure RefusedEarly (R : Ratio) (x : Refusal) : Prop where
  ratio : KeepsRatio R x
  reason : x.reason ≠ .admissionExceedsContingentCeiling

section

variable {A : Arith} {order : MapOrder} {policy : OversubscriptionPolicy} {index : PolicyIndex}
  {domain : DomainConfig} {expectation : AuthorityExpectation} {evidence : DomainEvidence}
  {sn : Snapshots} {tick : UInt64} {acc : DomainAccounting} {R : Ratio}

section

variable {α β : Type} {B : Refusal → Prop} {Q : β → Prop} {c : Prop} [Decidable c] {o : Option α} {x : Refusal}

theorem require_keeps (h : B x) : Ensures B (fun _ => True) (require c x) := by
  unfold require
  split
  · trivial
  · exact h

theorem orRefuse_result (h : B x) : Ensures B (fun a => o = some a) (orRefuse o x) := by
  cases o with
  | none => exact h
  | some a => rfl

theorem orRefuse_keeps (h : B x) : Ensures B (fun _ => True) (orRefuse o x) := by
  cases o with
  | none => exact h
  | some a => trivial

/-- A check and what follows it. -/
theorem require_bind_keeps {f : Unit → Except Refusal β} (h : B x) (hf : Ensures B Q (f ())) :
    Ensures B Q (require c x >>= f) := (require_keeps h).bind fun _ _ => hf

/-- A checked operation and what follows its result. -/
theorem orRefuse_bind_result {f : α → Except Refusal β} (h : B x)
    (hf : ∀ a, o = some a → Ensures B Q (f a)) : Ensures B Q (orRefuse o x >>= f) :=
  (orRefuse_result h).bind hf

theorem orRefuse_bind_keeps {f : α → Except Refusal β} (h : B x) (hf : ∀ a, Ensures B Q (f a)) :
    Ensures B Q (orRefuse o x >>= f) := orRefuse_bind_result h fun a _ => hf a

end

theorem requireGeneration_keeps {snapshot authoritative : UInt64} {what : String} (h : acc.effectiveRatio = R) :
    Ensures (RefusedEarly R) (fun _ => True) (requireGeneration acc snapshot authoritative what) := by
  refine require_keeps ⟨h, ?_⟩
  dsimp only [DomainAccounting.stale]
  split
  · exact nofun
  · exact nofun

theorem bindEvidence_keeps (h : acc.effectiveRatio = R) :
    Ensures (RefusedEarly R) (fun _ => True) (bindEvidence policy domain expectation evidence acc) := by
  unfold bindEvidence
  split
  · exact require_bind_keeps ⟨h, nofun⟩ <| require_bind_keeps ⟨h, nofun⟩ <| require_bind_keeps ⟨h, nofun⟩ <|
      require_bind_keeps ⟨h, nofun⟩ <| require_bind_keeps ⟨h, nofun⟩ <| require_bind_keeps ⟨h, nofun⟩ <|
      require_bind_keeps ⟨h, nofun⟩ <| (requireGeneration_keeps h).bind fun _ _ =>
      (requireGeneration_keeps h).bind fun _ _ => (requireGeneration_keeps h).bind fun _ _ => trivial
  · exact ⟨h, nofun⟩

theorem checkFreshness_keeps (h : acc.effectiveRatio = R) :
    Ensures (RefusedEarly R) (fun _ => True) (checkFreshness policy sn tick acc) := by
  have hone : ∀ observed budget what,
      Ensures (RefusedEarly R) (fun _ => True) (requireFresh acc tick observed budget what) :=
    fun _ _ _ => require_bind_keeps ⟨h, nofun⟩ (require_keeps ⟨h, nofun⟩)
  exact (hone _ _ _).bind fun _ _ => (hone _ _ _).bind fun _ _ => hone _ _ _

theorem checkBounds_keeps (h : acc.effectiveRatio = R) :
    Ensures (RefusedEarly R) (fun _ => True) (checkBounds policy.limits sn acc) :=
  require_bind_keeps ⟨h, nofun⟩ <| require_bind_keeps ⟨h, nofun⟩ <| require_keeps ⟨h, nofun⟩

theorem memberStep_keeps {s : MemberState} {m : ResourceId} (h : s.acc.effectiveRatio = R) :
    Ensures (RefusedEarly R) (·.acc.effectiveRatio = R) (memberStep A domain sn.cap s m) := by
  refine orRefuse_bind_keeps ⟨h, nofun⟩ fun rc => require_bind_keeps ⟨h, nofun⟩ <| require_bind_keeps ⟨h, nofun⟩ ?_
  cases rc.health with
  | degraded => exact orRefuse_bind_keeps ⟨h, nofun⟩ fun _ => h
  | _ => exact h

theorem gatherMembers_keeps (h : acc.effectiveRatio = R) :
    Ensures (RefusedEarly R) (·.acc.effectiveRatio = R) (gatherMembers A domain sn.cap acc) :=
  require_bind_keeps ⟨h, nofun⟩ <| foldlM_ensures (fun _ _ hs => memberStep_keeps hs) _ h

theorem guaranteeStep_keeps {s : GuaranteeState} {g : Guarantee} (h : s.acc.effectiveRatio = R) :
    Ensures (RefusedEarly R) (·.acc.effectiveRatio = R) (guaranteeStep A index domain s g) := by
  refine require_bind_keeps ⟨h, nofun⟩ ?_
  dsimp only
  split
  · exact h
  · exact require_bind_keeps ⟨h, nofun⟩ <| require_bind_keeps ⟨h, nofun⟩ <| require_bind_keeps ⟨h, nofun⟩ <|
      orRefuse_bind_keeps ⟨h, nofun⟩ fun _ => orRefuse_bind_keeps ⟨h, nofun⟩ fun _ => h

theorem guaranteedDemand_keeps {s : DemandState} {r : DemandRecord} (h : s.acc.effectiveRatio = R) :
    Ensures (RefusedEarly R) (·.acc.effectiveRatio = R) (guaranteedDemand A s r) :=
  orRefuse_bind_keeps ⟨h, nofun⟩ fun _ => orRefuse_bind_keeps ⟨h, nofun⟩ fun _ => h

theorem refusedEarly_unknown {reason : ReasonCode} {detail : String} (h : acc.effectiveRatio = R)
    (hreason : reason ≠ .admissionExceedsContingentCeiling) : RefusedEarly R (acc.unknown reason detail) :=
  ⟨h, hreason⟩

theorem contingentDemand_keeps {cls : ServiceClassRef} {ra : ResourceAccum} {s : DemandState}
    {r : DemandRecord} (h : s.acc.effectiveRatio = R) :
    Ensures (RefusedEarly R) (·.acc.effectiveRatio = R) (contingentDemand A cls ra s r) := by
  unfold contingentDemand
  dsimp only
  split
  · exact h
  have hreason : ReasonCode.admissionSumOverflow ≠ .admissionExceedsContingentCeiling := by decide
  refine orRefuse_bind_keeps (refusedEarly_unknown h hreason) fun _ =>
    orRefuse_bind_keeps (refusedEarly_unknown h hreason) fun _ =>
      orRefuse_bind_keeps (refusedEarly_unknown h hreason) fun _ =>
        orRefuse_bind_keeps (refusedEarly_unknown h hreason) fun _ => ?_
  -- the burst total is only checked for burst demand
  split
  · exact orRefuse_bind_keeps (refusedEarly_unknown h hreason) fun _ =>
      orRefuse_bind_keeps (refusedEarly_unknown h hreason) fun _ => h
  · exact orRefuse_bind_keeps (refusedEarly_unknown h hreason) fun _ => h

theorem demandStep_keeps {s : DemandState} {r : DemandRecord} (h : s.acc.effectiveRatio = R) :
    Ensures (RefusedEarly R) (·.acc.effectiveRatio = R) (demandStep A index domain s r) := by
  refine require_bind_keeps ⟨h, nofun⟩ ?_
  dsimp only
  cases findResource s.resources r.resource with
  | none => exact h
  | some ra =>
      refine require_bind_keeps ⟨h, nofun⟩ <| orRefuse_bind_keeps ⟨h, nofun⟩ fun _ => ?_
      cases r.kind with
      | guaranteed => exact guaranteedDemand_keeps h
      | contingent => exact contingentDemand_keeps h
      | burst => exact contingentDemand_keeps h
      | unknown => exact ⟨h, nofun⟩
      | unnamed _ _ => exact h

theorem gatherTotals_keeps {resources : List ResourceAccum} (h : acc.effectiveRatio = R) :
    Ensures (RefusedEarly R) (fun _ => True) (gatherTotals A policy.limits acc resources) := by
  have hfold : ∀ (l : List ResourceAccum) (s : TotalsState), s.acc.effectiveRatio = R →
      (l.foldl (totalsStep A) s).acc.effectiveRatio = R := by
    intro l
    induction l with
    | nil => exact fun _ hs => hs
    | cons ra l ih => exact fun _ hs => ih _ hs
  exact require_bind_keeps ⟨hfold _ _ h, nofun⟩ trivial

theorem gatherEvidence_keeps {authority : AuthorityVector} {members : MemberState}
    (h : members.acc.effectiveRatio = R) :
    Ensures (RefusedEarly R) (fun _ => True)
      (gatherEvidence A order policy index domain sn authority members) := by
  have hguarantees : Ensures (RefusedEarly R) (·.acc.effectiveRatio = R)
      (gatherGuarantees A index domain sn.res members) :=
    foldlM_ensures (fun _ _ hs => guaranteeStep_keeps hs) _ h
  refine hguarantees.bind fun gs hgs => ?_
  have hunknown : ∀ detail, RefusedEarly R (gs.acc.unknown .reservationSumOverflow detail) :=
    fun _ => ⟨hgs, nofun⟩
  have htotal : Ensures (RefusedEarly R) (fun _ => True) (guaranteesTotal A gs) :=
    foldlM_ensures (fun _ _ _ => orRefuse_keeps (hunknown _)) _ trivial
  refine htotal.bind fun total _ => ?_
  have hdemand : Ensures (RefusedEarly R) (·.acc.effectiveRatio = R)
      (gatherDemand A index domain sn.adm { gs.acc with guaranteesTotal := total } gs.resources) :=
    foldlM_ensures (fun _ _ hs => demandStep_keeps hs) _ hgs
  exact hdemand.bind fun _ hd => (gatherTotals_keeps hd).bind fun _ _ => trivial

/-- **Refusals**: an evaluation that is refused before its boundary reports
the configured ratio, and no overage. -/
theorem gather_error_early {r : EvaluationResult}
    (h : gather A order policy index domain expectation evidence tick = .error r) :
    r.accounting.effectiveRatio = domain.configuredRatio ∧ r.reason ≠ .admissionExceedsContingentCeiling := by
  have hstop : ∀ {α : Type} {x : Except Refusal α} {Q : α → Prop} {authority : AuthorityVector},
      Ensures (RefusedEarly domain.configuredRatio) Q x →
        Ensures (fun r => r.accounting.effectiveRatio = domain.configuredRatio ∧
          r.reason ≠ .admissionExceedsContingentCeiling) Q (x.mapError (stop policy domain authority)) := by
    intro α x Q authority hx
    cases x with
    | error e => exact ⟨hx.ratio, hx.reason⟩
    | ok a => exact hx
  have hall : Ensures (fun r => r.accounting.effectiveRatio = domain.configuredRatio ∧
      r.reason ≠ .admissionExceedsContingentCeiling) (fun _ => True)
        (gather A order policy index domain expectation evidence tick) :=
    (hstop (bindEvidence_keeps rfl)).bind fun _ _ => (hstop (checkFreshness_keeps rfl)).bind
      fun _ _ => (hstop (checkBounds_keeps rfl)).bind fun _ _ =>
      (hstop (gatherMembers_keeps rfl)).bind fun _ hm => hstop (gatherEvidence_keeps hm)
  exact hall.error h

theorem gather_error_ratio {r : EvaluationResult}
    (h : gather A order policy index domain expectation evidence tick = .error r) :
    r.accounting.effectiveRatio = domain.configuredRatio := (gather_error_early h).1

end

end Oversub
