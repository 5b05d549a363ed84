import Oversub.Lib.Pointwise
import Oversub.Engine.Grant
import Oversub.Engine.Order

/-!
# Oversub.Engine.Demand

The same domain under more demand (`AdmissionSnapshot.Raised`).  Its outcome
is at least as severe, and its grant no larger (`demand_raised`).

Two evaluations are compared stage by stage.  The second one either stops
with an overflow, the most severe outcome, or is refused as the first one is,
or reaches the same point; in the end the standings are compared.
-/

namespace Oversub

open EarlyFold Tally Pointwise

/-! ## Raised demand -/

/-- `r'` is `r` with at least its committed capacity. -/
structure DemandRecord.Raised (r r' : DemandRecord) : Prop where
  admission : r'.admission = r.admission
  resource : r'.resource = r.resource
  pool : r'.pool = r.pool
  serviceClass : r'.serviceClass = r.serviceClass
  kind : r'.kind = r.kind
  pending : r'.pendingCapacity = r.pendingCapacity
  generation : r'.generation = r.generation
  committed : r.committedCapacity.toNat ≤ r'.committedCapacity.toNat

structure AdmissionSnapshot.Raised (adm adm' : AdmissionSnapshot) : Prop where
  domain : adm'.domain = adm.domain
  generation : adm'.generation = adm.generation
  epoch : adm'.epoch = adm.epoch
  observedTick : adm'.observedTick = adm.observedTick
  records : List.Forall₂ DemandRecord.Raised adm.records adm'.records

/-- The evidence with another admission snapshot. -/
def Snapshots.withAdmissions (sn : Snapshots) (adm : AdmissionSnapshot) : Snapshots :=
  { sn with adm := adm }

section

variable {A : Arith} {index : PolicyIndex} {domain : DomainConfig} {r r' : DemandRecord}
  {rs rs' : List DemandRecord}

namespace DemandRecord.Raised

theorem isGuaranteed (h : r.Raised r') :
    Oversub.isGuaranteed domain r' = Oversub.isGuaranteed domain r := by
  rw [Oversub.isGuaranteed, h.resource, h.kind, Oversub.isGuaranteed]

theorem isOversubscribed (h : r.Raised r') :
    Oversub.isOversubscribed domain r' = Oversub.isOversubscribed domain r := by
  rw [Oversub.isOversubscribed, h.resource, h.kind, Oversub.isOversubscribed]

theorem isContingent (h : r.Raised r') :
    Oversub.isContingent domain index r' = Oversub.isContingent domain index r := by
  rw [Oversub.isContingent, h.isOversubscribed, h.serviceClass, Oversub.isContingent]

theorem isIneligible (h : r.Raised r') :
    Oversub.isIneligible domain index r' = Oversub.isIneligible domain index r := by
  rw [Oversub.isIneligible, h.isOversubscribed, h.serviceClass, Oversub.isIneligible]

theorem isBurst (h : r.Raised r') :
    Oversub.isBurst domain index r' = Oversub.isBurst domain index r := by
  rw [Oversub.isBurst, h.isContingent, h.kind, Oversub.isBurst]

theorem demandOk (h : r.Raised r') : DemandOk index domain r' ↔ DemandOk index domain r := by
  rw [DemandOk, h.pool, h.serviceClass, h.kind, DemandOk]

end DemandRecord.Raised

theorem admissions_raised (h : List.Forall₂ DemandRecord.Raised rs rs') :
    rs'.map (·.admission) = rs.map (·.admission) := map_eq_map h fun _ _ hr => hr.admission

theorem contingentIn_raised (h : List.Forall₂ DemandRecord.Raised rs rs') :
    contingentIn domain index rs ≤ contingentIn domain index rs' :=
  sumWhere_forall₂ h fun _ _ hr => ⟨hr.isContingent.symm, hr.committed⟩

theorem contingentOf_raised (h : List.Forall₂ DemandRecord.Raised rs rs') (id : ServiceClassId) :
    contingentOf domain index rs id ≤ contingentOf domain index rs' id :=
  sumWhere_forall₂ h fun _ _ hr => ⟨by rw [hr.isContingent, hr.serviceClass], hr.committed⟩

theorem burstIn_raised (h : List.Forall₂ DemandRecord.Raised rs rs') :
    burstIn domain index rs ≤ burstIn domain index rs' :=
  sumWhere_forall₂ h fun _ _ hr => ⟨hr.isBurst.symm, hr.committed⟩

theorem admittedIn_raised (h : List.Forall₂ DemandRecord.Raised rs rs') :
    admittedIn domain rs ≤ admittedIn domain rs' :=
  sumWhere_forall₂ h fun _ _ hr => ⟨hr.isGuaranteed.symm, hr.committed⟩

theorem get_admitted_raised (h : List.Forall₂ DemandRecord.Raised rs rs')
    (key : ResourceId × ServiceClassId) :
    get (admitted domain rs) key ≤ get (admitted domain rs') key := by
  rw [get_admitted, get_admitted]
  exact sumWhere_forall₂ h fun _ _ hr =>
    ⟨by rw [hr.isGuaranteed, hr.resource, hr.serviceClass], hr.committed⟩

theorem contingentOn_raised (h : List.Forall₂ DemandRecord.Raised rs rs') (id : ResourceId) :
    contingentOn domain index rs id ≤ contingentOn domain index rs' id :=
  sumWhere_forall₂ h fun _ _ hr => ⟨by rw [hr.isContingent, hr.resource], hr.committed⟩

/-- Pending demand is the same on both sides. -/
theorem pendingIn_raised (h : List.Forall₂ DemandRecord.Raised rs rs') :
    pendingIn domain index rs ≤ pendingIn domain index rs' :=
  sumWhere_forall₂ h fun _ _ hr => ⟨hr.isContingent.symm, by rw [pending, pending, hr.pending]⟩

theorem pendingOn_raised (h : List.Forall₂ DemandRecord.Raised rs rs') (id : ResourceId) :
    pendingOn domain index rs id ≤ pendingOn domain index rs' id :=
  sumWhere_forall₂ h fun _ _ hr =>
    ⟨by rw [hr.isContingent, hr.resource], by rw [pending, pending, hr.pending]⟩

theorem demandsOk_raised (h : List.Forall₂ DemandRecord.Raised rs rs')
    (hok : DemandsOk index domain rs') : DemandsOk index domain rs where
  nodup := admissions_raised h ▸ hok.nodup
  entry := forall_of_forall h.flip (fun _ _ hr hent hcov =>
    hr.demandOk.mp (hent (hr.resource ▸ hcov))) hok.entry

/-- Where a raised record still fits, so does the record. -/
theorem demandFits_raised (h : List.Forall₂ DemandRecord.Raised rs rs') (hr : r.Raised r')
    (hfits : DemandFits A index domain rs' r') : DemandFits A index domain rs r := by
  have hcom : committed r ≤ committed r' := hr.committed
  have hpen : pending r ≤ pending r' := by rw [pending, pending, hr.pending]
  refine ⟨fun hk => ?_, fun hk => ?_, fun hk => ?_, fun hk => ?_, fun hk => ?_, fun hk => ?_,
    fun hk => ?_, fun hk => ?_⟩
  · exact A.fits_mono (Nat.add_le_add (admittedIn_raised h) hcom)
      (hfits.admitted (hr.isGuaranteed.trans hk))
  · have hf := hfits.admittedByClass (hr.isGuaranteed.trans hk)
    rw [hr.resource, hr.serviceClass] at hf
    exact A.fits_mono (Nat.add_le_add (get_admitted_raised h _) hcom) hf
  · have hf := hfits.contingentOn (hr.isContingent.trans hk)
    rw [hr.resource] at hf
    exact A.fits_mono (Nat.add_le_add (contingentOn_raised h _) hcom) hf
  · exact A.fits_mono (Nat.add_le_add (contingentIn_raised h) hcom)
      (hfits.contingent (hr.isContingent.trans hk))
  · have hf := hfits.pendingOn (hr.isContingent.trans hk)
    rw [hr.resource] at hf
    exact A.fits_mono (Nat.add_le_add (pendingOn_raised h _) hpen) hf
  · exact A.fits_mono (Nat.add_le_add (pendingIn_raised h) hpen)
      (hfits.pending (hr.isContingent.trans hk))
  · exact A.fits_mono (Nat.add_le_add (burstIn_raised h) hcom)
      (hfits.burst (hr.isBurst.trans hk))
  · have hf := hfits.contingentByClass (hr.isContingent.trans hk)
    rw [hr.serviceClass, get_contingentByClass] at hf
    rw [get_contingentByClass]
    exact A.fits_mono (Nat.add_le_add (contingentOf_raised h _) hcom) hf

end

/-! ## What the demand loop refuses with -/

/-- What the loop checks of a record before it counts anything. -/
def Consistent (index : PolicyIndex) (domain : DomainConfig) (s : DemandState) (r : DemandRecord) :
    Prop :=
  r.admission ∉ s.seen ∧
    ((findResource s.resources r.resource).isSome = true → DemandOk index domain r)

section

variable {A : Arith} {index : PolicyIndex} {domain : DomainConfig} {s : DemandState}
  {r : DemandRecord} {x : Refusal}

theorem guaranteedDemand_error (h : guaranteedDemand A s r = .error x) : x.outcome = .unknown := by
  simp only [guaranteedDemand, bind_eq_error, orRefuse_eq_error, reduceCtorEq, and_false,
    exists_false, or_false] at h
  rcases h with ⟨-, rfl⟩ | ⟨_, -, -, rfl⟩
  · rfl
  · rfl

theorem contingentDemand_error {cls : ServiceClassRef} {ra : ResourceAccum}
    (h : contingentDemand A cls ra s r = .error x) : x.outcome = .unknown := by
  unfold contingentDemand at h
  split at h
  · cases h
  · simp only [bind_eq_error, orRefuse_eq_error] at h
    rcases h with ⟨-, rfl⟩ | ⟨_, -, ⟨-, rfl⟩ | ⟨_, -, ⟨-, rfl⟩ | ⟨_, -, ⟨-, rfl⟩ | ⟨_, -, h⟩⟩⟩⟩
    · rfl
    · rfl
    · rfl
    · rfl
    · split at h
      · simp only [bind_eq_error, orRefuse_eq_error, reduceCtorEq, and_false, exists_false,
          or_false] at h
        rcases h with ⟨-, rfl⟩ | ⟨_, -, -, rfl⟩
        · rfl
        · rfl
      · simp only [bind_eq_error, orRefuse_eq_error, reduceCtorEq, and_false, exists_false,
          or_false, false_or] at h
        obtain ⟨_, -, -, rfl⟩ := h
        rfl

/-- A step refuses an inconsistent record as conflicting, and a consistent one
only because a sum overflows. -/
theorem demandStep_error (h : demandStep A index domain s r = .error x) :
    (Consistent index domain s r → x.outcome = .unknown) ∧
      (¬ Consistent index domain s r → x.outcome = .conflictingInput) := by
  unfold demandStep at h
  rw [bind_eq_error] at h
  rcases h with h | ⟨_, hseen, h⟩
  · obtain ⟨hseen, rfl⟩ := require_eq_error.mp h
    exact ⟨fun hc => absurd hc.1 hseen, fun _ => rfl⟩
  rw [require_eq_ok] at hseen
  dsimp only at h
  cases hfind : findResource s.resources r.resource with
  | none => simp [hfind] at h
  | some ra =>
      have hcons : Consistent index domain s r ↔ DemandOk index domain r :=
        ⟨fun hc => hc.2 (by rw [hfind]; rfl), fun hok => ⟨hseen, fun _ => hok⟩⟩
      rw [hcons]
      simp only [hfind, bind_eq_error, require_eq_error, require_eq_ok, orRefuse_eq_error,
        orRefuse_eq_ok] at h
      rcases h with ⟨hpool, rfl⟩ | ⟨_, hpool, ⟨hcls, rfl⟩ | ⟨cls, hcls, h⟩⟩
      · exact ⟨fun hok => absurd hok.1 hpool, fun _ => rfl⟩
      · exact ⟨fun hok => absurd hok.2.1 (by rw [hcls]; decide), fun _ => rfl⟩
      · have hok : r.kind ≠ .unknown → DemandOk index domain r := fun hk =>
          ⟨hpool, by rw [hcls]; rfl, hk⟩
        cases hk : r.kind with
        | guaranteed =>
            rw [hk] at h
            exact ⟨fun _ => guaranteedDemand_error h, fun hn => absurd (hok (by simp [hk])) hn⟩
        | contingent =>
            rw [hk] at h
            exact ⟨fun _ => contingentDemand_error h, fun hn => absurd (hok (by simp [hk])) hn⟩
        | burst =>
            rw [hk] at h
            exact ⟨fun _ => contingentDemand_error h, fun hn => absurd (hok (by simp [hk])) hn⟩
        | unknown =>
            rw [hk] at h
            cases h
            exact ⟨fun hok => absurd hk hok.2.2, fun _ => rfl⟩
        | unnamed raw hraw =>
            rw [hk] at h
            cases h

end

/-! ## Stage by stage -/

/-- Refusals with one outcome. -/
def SameOutcome (x y : Refusal) : Prop := x.outcome = y.outcome

def Overflows (x : Refusal) : Prop := x.outcome = .unknown

section

variable {A : Arith} {order order' : MapOrder} {policy : OversubscriptionPolicy}
  {index : PolicyIndex} {domain : DomainConfig} {expectation : AuthorityExpectation}
  {adm adm' : AdmissionSnapshot} {sn : Snapshots} {tick : UInt64} {acc : DomainAccounting}
  {entries : List ResourceCapacity} {gs : List Guarantee}

/-- The two demand loops stand after records of which one list raises the other. -/
def BothAfter (A : Arith) (index : PolicyIndex) (domain : DomainConfig) (acc : DomainAccounting)
    (entries : List ResourceCapacity) (gs : List Guarantee) (s s' : DemandState) : Prop :=
  ∃ pre pre', List.Forall₂ DemandRecord.Raised pre pre' ∧
    s = demandState A index domain acc entries gs pre ∧
    s' = demandState A index domain acc entries gs pre'

theorem consistent_demandState (ht : MemberTable domain entries) {pre : List DemandRecord}
    {r : DemandRecord} :
    Consistent index domain (demandState A index domain acc entries gs pre) r ↔
      r.admission ∉ pre.map (·.admission) ∧
        (domain.covers r.resource = true → DemandOk index domain r) := by
  have hfind : findResource (demandState A index domain acc entries gs pre).resources r.resource =
      (entries.find? (·.resource = r.resource)).map (demandAccum index domain gs pre) :=
    findResource_map fun _ => rfl
  have hsome : (findResource (demandState A index domain acc entries gs pre).resources
      r.resource).isSome = true ↔ domain.covers r.resource = true := by
    rw [hfind, Option.isSome_map, ← Bool.not_eq_false, ← Bool.not_eq_false, ← ht.find_eq_none,
      Option.isSome_eq_false_iff, Option.isNone_iff_eq_none]
  rw [Consistent, hsome, demandState, List.mem_reverse]

/-- **Demand step**: the step on a raised record overflows, or is refused as
the step on the record, or keeps the two loops together. -/
theorem demandStep_dominated (ht : MemberTable domain entries) {s s' : DemandState}
    {r r' : DemandRecord} (hs : BothAfter A index domain acc entries gs s s') (hr : r.Raised r') :
    Dominated (BothAfter A index domain acc entries gs) SameOutcome Overflows
      (demandStep A index domain s r) (demandStep A index domain s' r') := by
  obtain ⟨pre, pre', hpre, rfl, rfl⟩ := hs
  have hcons : Consistent index domain (demandState A index domain acc entries gs pre') r' ↔
      Consistent index domain (demandState A index domain acc entries gs pre) r := by
    rw [consistent_demandState ht, consistent_demandState ht, admissions_raised hpre,
      hr.admission, hr.resource, hr.demandOk]
  cases h' : demandStep A index domain (demandState A index domain acc entries gs pre') r' with
  | ok t' =>
      obtain ⟨⟨hseen, hok, hfits⟩, rfl⟩ := (demandStep_eq_ok ht _).mp h'
      obtain ⟨hseen, hok⟩ := (consistent_demandState ht).mp
        (hcons.mp ((consistent_demandState ht).mpr ⟨hseen, hok⟩))
      have h : demandStep A index domain (demandState A index domain acc entries gs pre) r =
          .ok (demandState A index domain acc entries gs (pre ++ [r])) :=
        (demandStep_eq_ok ht _).mpr ⟨⟨hseen, hok, demandFits_raised hpre hr hfits⟩, rfl⟩
      rw [h]
      exact .values ⟨_, _, List.rel_append hpre (.cons hr .nil), rfl, rfl⟩
  | error x' =>
      obtain ⟨hover, hconf⟩ := demandStep_error h'
      by_cases hc : Consistent index domain (demandState A index domain acc entries gs pre') r'
      · exact .stopped _ (hover hc)
      · -- an inconsistent record is refused on both sides
        cases h : demandStep A index domain (demandState A index domain acc entries gs pre) r with
        | ok t =>
            obtain ⟨⟨hseen, hok, -⟩, -⟩ := (demandStep_eq_ok ht _).mp h
            exact absurd (hcons.mpr ((consistent_demandState ht).mpr ⟨hseen, hok⟩)) hc
        | error x =>
            exact .errors (((demandStep_error h).2 (mt hcons.mpr hc)).trans (hconf hc).symm)

theorem gatherTotals_dominated (hacc : ∀ rs, countCapacity A (countDemand A index domain acc rs) [] =
      countDemand A index domain acc rs)
    (hfits : ∀ id, A.fits (guaranteesOn domain gs id) = true) {s s' : DemandState}
    (hs : BothAfter A index domain acc entries gs s s') :
    Dominated (fun _ _ => True) SameOutcome Overflows (gatherTotals A policy.limits s.acc s.resources)
      (gatherTotals A policy.limits s'.acc s'.resources) := by
  obtain ⟨pre, pre', -, rfl, rfl⟩ := hs
  show Dominated _ _ _ (gatherTotals A policy.limits (countDemand A index domain acc pre)
      (entries.map (demandAccum index domain gs pre)))
    (gatherTotals A policy.limits (countDemand A index domain acc pre')
      (entries.map (demandAccum index domain gs pre')))
  by_cases hb : A.sumSat (entries.map (·.physicalCapacity.toNat)) ≤
      policy.limits.maxCapacityUnits.toNat ∧ A.sumSat (entries.map (·.usableCapacity.toNat)) ≤
      policy.limits.maxCapacityUnits.toNat
  · rw [(gatherTotals_eq_ok (hacc pre) hfits).mpr ⟨hb, rfl⟩,
      (gatherTotals_eq_ok (hacc pre') hfits).mpr ⟨hb, rfl⟩]
    exact .values trivial
  · rw [(gatherTotals_eq_error (hacc pre) hfits).mpr ⟨hb, rfl⟩,
      (gatherTotals_eq_error (hacc pre') hfits).mpr ⟨hb, rfl⟩]
    exact .errors rfl

theorem gatherDemand_dominated (ht : MemberTable domain entries)
    (hacc : countDemand A index domain acc [] = acc) (hadm : adm.Raised adm') :
    Dominated (BothAfter A index domain acc entries gs) SameOutcome Overflows
      (gatherDemand A index domain adm acc (entries.map (guaranteeAccum domain gs)))
      (gatherDemand A index domain adm' acc (entries.map (guaranteeAccum domain gs))) := by
  have hstart : ({ acc, resources := entries.map (guaranteeAccum domain gs) } : DemandState) =
      demandState A index domain acc entries gs [] := by
    rw [demandState, hacc]
    rfl
  have hstep : ∀ s s' r r', BothAfter A index domain acc entries gs s s' → DemandRecord.Raised r r' →
      Dominated (BothAfter A index domain acc entries gs) SameOutcome Overflows
        (demandStep A index domain s r) (demandStep A index domain s' r') :=
    fun _ _ _ _ hs hr => demandStep_dominated ht hs hr
  unfold gatherDemand
  rw [hstart]
  exact foldlM_dominated hstep hadm.records ⟨[], [], .nil, rfl, rfl⟩

/-- Every stage after the members. -/
theorem gatherEvidence_dominated (ht : MemberTable domain (memberEntries domain sn.cap))
    (hadm : sn.adm.Raised adm') {authority authority' : AuthorityVector} :
    Dominated (fun _ _ => True) SameOutcome Overflows
      (gatherEvidence A order policy index domain sn authority
        { acc := countHealth (initialAccounting A domain) (memberEntries domain sn.cap)
          resources := (memberEntries domain sn.cap).map memberAccum })
      (gatherEvidence A order' policy index domain (sn.withAdmissions adm') authority'
        { acc := countHealth (initialAccounting A domain) (memberEntries domain sn.cap)
          resources := (memberEntries domain sn.cap).map memberAccum }) := by
  unfold gatherEvidence
  have hrefl : ∀ x, SameOutcome x x := fun _ => rfl
  refine (Dominated.same hrefl _).bind ?_
  rintro s _ ⟨rfl, hs⟩
  obtain ⟨-, ⟨hon, -⟩, rfl⟩ := (gatherGuarantees_eq_ok ht rfl).mp hs
  refine (Dominated.same hrefl _).bind ?_
  rintro total _ ⟨rfl, -⟩
  refine (gatherDemand_dominated ht rfl hadm).bind fun s s' hst => ?_
  refine (gatherTotals_dominated (fun _ => rfl) hon hst).bind fun _ _ _ => ?_
  exact .values trivial

theorem bindEvidence_raised (hadm : adm.Raised adm') {cap : CapacitySnapshot}
    {res : ReservationSnapshot} :
    bindEvidence policy domain expectation ⟨some cap, some res, some adm'⟩ acc =
      (fun sn : Snapshots => sn.withAdmissions adm') <$>
        bindEvidence policy domain expectation ⟨some cap, some res, some adm⟩ acc := by
  unfold bindEvidence
  dsimp only
  rw [hadm.domain, hadm.epoch, hadm.generation]
  simp only [map_bind]
  rfl

/-- The first stage tells the two evaluations apart by the demand alone. -/
theorem bindEvidence_dominated (hadm : adm.Raised adm') {cap : Option CapacitySnapshot}
    {res : Option ReservationSnapshot} :
    Dominated (fun sn sn' : Snapshots => sn.adm = adm ∧ sn' = sn.withAdmissions adm') SameOutcome
      Overflows (bindEvidence policy domain expectation ⟨cap, res, some adm⟩ acc)
      (bindEvidence policy domain expectation ⟨cap, res, some adm'⟩ acc) := by
  cases cap with
  | none => exact .errors rfl
  | some cap =>
      cases res with
      | none => exact .errors rfl
      | some res =>
          rw [bindEvidence_raised hadm]
          cases h : bindEvidence policy domain expectation ⟨some cap, some res, some adm⟩ acc with
          | error x => exact .errors rfl
          | ok sn =>
              obtain ⟨hev, -⟩ := bindEvidence_eq_ok.mp h
              refine .values ⟨?_, rfl⟩
              exact (Option.some.inj (congrArg DomainEvidence.admissions hev)).symm

/-- Ending the evaluation keeps the outcomes. -/
theorem stop_dominated {α β : Type} {R : α → β → Prop} {x : Except Refusal α}
    {y : Except Refusal β} (h : Dominated R SameOutcome Overflows x y)
    {authority authority' : AuthorityVector} :
    Dominated R (fun r r' : EvaluationResult => r.outcome = r'.outcome)
      (fun r => r.outcome = .unknown) (x.mapError (stop policy domain authority))
      (y.mapError (stop policy domain authority')) :=
  h.mapError (fun _ _ h => h) fun _ h => h

/-- **Gathering under more demand** overflows, or is refused with the same
outcome, or succeeds if it does under less. -/
theorem gather_dominated (hn : domain.members.Nodup) (hadm : adm.Raised adm')
    {cap : Option CapacitySnapshot} {res : Option ReservationSnapshot} :
    Dominated (fun _ _ => True) (fun r r' : EvaluationResult => r.outcome = r'.outcome)
      (fun r => r.outcome = .unknown)
      (gather A order policy index domain expectation ⟨cap, res, some adm⟩ tick)
      (gather A order' policy index domain expectation ⟨cap, res, some adm'⟩ tick) := by
  have hrefl : ∀ x, SameOutcome x x := fun _ => rfl
  unfold gather
  refine (stop_dominated (bindEvidence_dominated hadm)).bind ?_
  rintro sn _ ⟨rfl, rfl⟩
  have hfresh : checkFreshness policy (sn.withAdmissions adm') tick (initialAccounting A domain) =
      checkFreshness policy sn tick (initialAccounting A domain) := by
    unfold checkFreshness
    rw [Snapshots.withAdmissions, hadm.observedTick]
  have hbounds : checkBounds policy.limits (sn.withAdmissions adm') (initialAccounting A domain) =
      checkBounds policy.limits sn (initialAccounting A domain) := by
    unfold checkBounds
    rw [Snapshots.withAdmissions, hadm.records.length_eq]
  rw [hfresh, hbounds]
  refine (stop_dominated (Dominated.same hrefl _)).bind fun _ _ _ => ?_
  refine (stop_dominated (Dominated.same hrefl _)).bind fun _ _ _ => ?_
  refine (stop_dominated (Dominated.same hrefl _)).bind ?_
  rintro members _ ⟨rfl, hm⟩
  obtain ⟨-, hok, rfl⟩ := gatherMembers_eq_ok.mp hm
  have ht := EvidenceGate.memberTable hn (forall_memberOk.mp hok).1
  exact stop_dominated (gatherEvidence_dominated ht hadm)

/-! ## The standings -/

theorem standing_raised (hadm : sn.adm.Raised adm') :
    (standing policy index domain sn).MoreDemand
      (standing policy index domain (sn.withAdmissions adm')) where
  unmapped h := by
    refine any_mono hadm.records (fun r r' hr hun => ?_) h
    simp only [isUnbacked, Bool.and_eq_true, decide_eq_true_eq] at hun ⊢
    rw [hr.isGuaranteed, hr.resource, hr.serviceClass]
    exact ⟨hun.1, Nat.lt_of_lt_of_le hun.2 (get_admitted_raised hadm.records _)⟩
  ineligible h := by
    refine any_mono hadm.records (fun r r' hr hin => ?_) h
    have hcom : committed r ≤ committed r' := hr.committed
    simp only [Bool.and_eq_true, Bool.or_eq_true, bne_iff_ne] at hin ⊢
    rw [hr.isIneligible, pending, hr.pending, ← pending]
    exact ⟨hin.1, hin.2.imp_left fun h0 => by omega⟩
  violated := rfl
  capacity := rfl
  guarantees := rfl
  reserve := rfl
  headroom := rfl
  contingent := contingentIn_raised hadm.records
  ceiling := rfl
  emergencyPpm := rfl
  burst h := by
    have hle : burstIn domain index sn.adm.records ≤ burstIn domain index adm'.records :=
      burstIn_raised hadm.records
    simp only [standing, Bool.and_eq_true, decide_eq_true_eq] at h ⊢
    exact ⟨h.1, Nat.lt_of_lt_of_le h.2 hle⟩
  share h := by
    refine any_mono hadm.records (fun r r' hr hbroken => ?_) h
    rw [Bool.and_eq_true] at hbroken ⊢
    rw [hr.isContingent, hr.serviceClass]
    refine ⟨hbroken.1, ?_⟩
    have hle : contingentOf domain index sn.adm.records r.serviceClass ≤
        contingentOf domain index adm'.records r.serviceClass := contingentOf_raised hadm.records _
    have hshare := hbroken.2
    unfold shareBroken at hshare ⊢
    cases hcls : index.serviceClass r.serviceClass with
    | none => rw [hcls] at hshare; exact hshare
    | some cls =>
        simp only [hcls, Bool.and_eq_true, decide_eq_true_eq] at hshare ⊢
        exact ⟨hshare.1, Nat.lt_of_lt_of_le hshare.2 hle⟩

/-- Evidence that reaches the cascade under more demand does so under less. -/
theorem reaches_of_raised (hadm : sn.adm.Raised adm')
    (h : Reaches A policy domain expectation (sn.withAdmissions adm') tick) :
    Reaches A policy domain expectation sn tick where
  gate := {
    bound := { h.gate.bound with
      domain_eq := hadm.domain ▸ h.gate.bound.domain_eq
      epoch_eq := hadm.epoch ▸ h.gate.bound.epoch_eq
      admissionGeneration_eq := hadm.generation ▸ h.gate.bound.admissionGeneration_eq }
    fresh := { h.gate.fresh with admissions := hadm.observedTick ▸ h.gate.fresh.admissions }
    bounded := { h.gate.bounded with
      records_le := hadm.records.length_eq ▸ h.gate.bounded.records_le }
    capacity_nodup := h.gate.capacity_nodup
    members := h.gate.members
    guarantees := h.gate.guarantees
    demands := demandsOk_raised hadm.records h.gate.demands }
  fits := {
    scaled := h.fits.scaled
    guarantees := h.fits.guarantees
    demand := {
      admitted := A.fits_mono (admittedIn_raised hadm.records) h.fits.demand.admitted
      contingent := A.fits_mono (contingentIn_raised hadm.records) h.fits.demand.contingent
      pending := A.fits_mono (pendingIn_raised hadm.records) h.fits.demand.pending } }
  closes := {
    capacity := h.closes.capacity
    ceilings := h.closes.ceilings
    floor := h.closes.floor
    committed := A.fits_mono (standing_raised hadm).committed_le h.closes.committed }
  within := h.within

end

/-! ## More demand never relaxes the outcome -/

section

variable {order order' : MapOrder} {policy : OversubscriptionPolicy} {domain : DomainConfig}
  {expectation : AuthorityExpectation} {cap : Option CapacitySnapshot}
  {res : Option ReservationSnapshot} {adm adm' : AdmissionSnapshot} {tick : UInt64}

/-- Evidence with one admission snapshot, against the same with another. -/
theorem exists_withAdmissions {sn' : Snapshots}
    (h : (⟨cap, res, some adm'⟩ : DomainEvidence) = sn'.evidence) (adm : AdmissionSnapshot) :
    ∃ sn : Snapshots, sn.adm = adm ∧ sn' = sn.withAdmissions adm' ∧
      (⟨cap, res, some adm⟩ : DomainEvidence) = sn.evidence := by
  obtain ⟨c, r, a⟩ := sn'
  rw [Snapshots.evidence, DomainEvidence.mk.injEq, Option.some.injEq] at h
  obtain ⟨rfl, rfl, rfl⟩ := h
  exact ⟨⟨c, r, adm⟩, rfl, rfl, rfl⟩

/-- What the second evaluation decides, the first one decides with less demand. -/
theorem decides_raised (order order' : MapOrder) (hp : policy.Installable) (hd : domain.Installable policy)
    (hadm : adm.Raised adm') {sn' : Snapshots}
    (hev : (⟨cap, res, some adm'⟩ : DomainEvidence) = sn'.evidence)
    (hreach : Reaches .u64 policy domain expectation sn' tick) :
    ∃ s s' : Standing, s.MoreDemand s' ∧
      Decides (evaluateDomain order policy (.rebuild policy) domain expectation ⟨cap, res, some adm⟩
        tick) s ∧
      Decides (evaluateDomain order' policy (.rebuild policy) domain expectation
        ⟨cap, res, some adm'⟩ tick) s' := by
  obtain ⟨sn, rfl, rfl, hev₀⟩ := exists_withAdmissions hev adm
  rw [hev, hev₀]
  exact ⟨_, _, standing_raised hadm, evaluate_decides hp hd (reaches_of_raised hadm hreach),
    evaluate_decides hp hd hreach⟩

theorem severity_raised (hp : policy.Installable) (hd : domain.Installable policy)
    (hadm : adm.Raised adm') :
    (evaluateDomain order policy (.rebuild policy) domain expectation ⟨cap, res, some adm⟩
        tick).outcome.severity ≤
      (evaluateDomain order' policy (.rebuild policy) domain expectation ⟨cap, res, some adm'⟩
        tick).outcome.severity := by
  by_cases hover : (evaluateDomain order' policy (.rebuild policy) domain expectation
      ⟨cap, res, some adm'⟩ tick).outcome = .unknown
  · rw [hover]
    exact Outcome.severity_le _
  have hdom : Dominated (fun _ _ => True) (fun r r' : EvaluationResult => r.outcome = r'.outcome)
      (fun r => r.outcome = .unknown)
      (gather .u64 order policy (.rebuild policy) domain expectation ⟨cap, res, some adm⟩ tick)
      (gather .u64 order' policy (.rebuild policy) domain expectation ⟨cap, res, some adm'⟩ tick) :=
    gather_dominated hd.members_nodup hadm
  cases hg' : gather .u64 order' policy (.rebuild policy) domain expectation
      ⟨cap, res, some adm'⟩ tick with
  | error r' =>
      -- the second evaluation is refused, and not for an overflow: so is the first
      rw [evaluateDomain, evaluateDomainIn, hg'] at hover
      rw [hg'] at hdom
      rw [evaluateDomain, evaluateDomainIn, evaluateDomain, evaluateDomainIn, hg']
      generalize gather .u64 order policy (.rebuild policy) domain expectation ⟨cap, res, some adm⟩
        tick = x at hdom ⊢
      cases hdom with
      | stopped _ hunknown => exact absurd hunknown hover
      | errors hsame => exact Nat.le_of_eq (congrArg Outcome.severity hsame)
  | ok g' =>
      by_cases hclosed : (settle .u64 policy domain g').closed = true
      · obtain ⟨sn', hev, hgate, hfits, hwithin, rfl⟩ := (gather_eq_ok hd.members_nodup).mp hg'
        obtain ⟨s, s', hmore, hdec, hdec'⟩ := decides_raised order order' hp hd
          hadm hev ⟨⟨hgate, hfits, (settle_closed hp hd).mp hclosed⟩, hwithin⟩
        rw [hdec.outcome, hdec'.outcome]
        exact hmore.severity_le
      · rw [evaluateDomain, evaluate_of_gather hg'] at hover
        exact absurd (conclude_of_not_closed hclosed) hover

/-- The flag of a grant is set by the outcome. -/
theorem authorized_iff {evidence : DomainEvidence} {index : PolicyIndex} :
    (evaluateDomain order policy index domain expectation evidence
        tick).newOversubscriptionAuthorized = true ↔
      (evaluateDomain order policy index domain expectation evidence tick).outcome =
        .withinPolicy := by
  obtain ⟨r, hr⟩ : ∃ r, evaluateDomainIn .u64 order policy index domain expectation evidence tick =
    finalizeEvaluationResult r := evaluate_finalized
  rw [evaluateDomain, hr, finalize_outcome]
  exact allowsNewAuthority_iff

/-- **More demand** never relaxes the outcome, and never enlarges a grant. -/
theorem demand_raised (hp : (validatePolicy policy).isOk = true) (hd : domain ∈ policy.domains)
    (hadm : adm.Raised adm') :
    let r := evaluateDomain order policy (.rebuild policy) domain expectation ⟨cap, res, some adm⟩ tick
    let r' := evaluateDomain order' policy (.rebuild policy) domain expectation
      ⟨cap, res, some adm'⟩ tick
    r.outcome.severity ≤ r'.outcome.severity ∧
      (r.newOversubscriptionAuthorized = true → r'.newOversubscriptionAuthorized = true →
        r'.authorizedIncrementUnits ≤ r.authorizedIncrementUnits) := by
  have hpi := validatePolicy_installable hp
  have hdi := hpi.domains domain hd
  refine ⟨severity_raised hpi hdi hadm, fun hw hw' => ?_⟩
  rw [authorized_iff] at hw hw'
  have hauth : (evaluateDomain order' policy (.rebuild policy) domain expectation
      ⟨cap, res, some adm'⟩ tick).outcome.isAuthoritative = true := by
    rw [hw']
    rfl
  obtain ⟨sn', hev, hreach⟩ := evaluate_authoritative hpi hdi hauth
  obtain ⟨s, s', hmore, hdec, hdec'⟩ := decides_raised order order' hpi hdi hadm hev hreach
  rw [hdec.outcome] at hw
  rw [hdec'.outcome] at hw'
  rw [hdec.increment, hdec'.increment, if_pos hw, if_pos hw']
  exact hmore.contingentFree_le

theorem sampleDemand_raised (usable demand demand' : UInt64) (h : demand.toNat ≤ demand'.toNat) :
    (sampleSnapshots usable demand).adm.Raised (sampleSnapshots usable demand').adm where
  domain := rfl
  generation := rfl
  epoch := rfl
  observedTick := rfl
  records := .cons ⟨rfl, rfl, rfl, rfl, rfl, rfl, rfl, h⟩ .nil

theorem demand_raised_sample :
    let r := evaluateDomain .listed samplePolicy (.rebuild samplePolicy) sampleDomain
      sampleExpectation (sampleSnapshots 100 50).evidence 0
    let r' := evaluateDomain .listed samplePolicy (.rebuild samplePolicy) sampleDomain
      sampleExpectation (sampleSnapshots 100 60).evidence 0
    r.outcome.severity ≤ r'.outcome.severity ∧
      (r.newOversubscriptionAuthorized = true → r'.newOversubscriptionAuthorized = true →
        r'.authorizedIncrementUnits ≤ r.authorizedIncrementUnits) :=
  demand_raised samplePolicy_valid sampleDomain_mem (sampleDemand_raised 100 50 60 (by decide))

end

end Oversub
