import Oversub.Lib.Rearrange
import Oversub.Engine.Demand

/-!
# Oversub.Engine.Use

A grant under use.  Contingent demand that draws on a grant, in a class
without a share cap, moves the standing along its ceiling and nothing else
(`standing_drawn`): the domain stays within its policy until the grant is
used up, and is at its limit then (`grant_used`).
-/

namespace Oversub

open Rearrange Tally

/-! ## The standing of a used grant -/

namespace Standing

/-- `s` with `amount` more units of contingent demand. -/
def draw (s : Standing) (amount : Nat) : Standing := { s with contingent := s.contingent + amount }

variable {s : Standing} {amount : Nat}

theorem contingentFree_draw :
    (s.draw amount).contingentFree = s.contingentFree - amount := by
  have hceil : (s.draw amount).contingentCeiling = s.contingentCeiling := rfl
  have hcon : (s.draw amount).contingent = s.contingent + amount := rfl
  unfold contingentFree
  rw [hceil, hcon, Nat.sub_sub]

theorem overage_draw (h : s.outcome = .withinPolicy) (hle : amount ≤ s.contingentFree) :
    (s.draw amount).overage = 0 := by
  have hfill := grant_fills h
  have hcom : (s.draw amount).committed = s.guarantees + (s.contingent + amount) := rfl
  have hceil : (s.draw amount).ceiling = s.ceiling := rfl
  unfold overage
  omega

/-- Nothing but the room left tells a used grant from an unused one. -/
theorem outcome_draw (h : s.outcome = .withinPolicy) (hle : amount ≤ s.contingentFree) :
    (s.draw amount).outcome = if amount < s.contingentFree then .withinPolicy else .atLimit := by
  obtain ⟨hs, hE, -, hB, hS, -⟩ := outcome_eq_withinPolicy.mp h
  have hsound : (s.draw amount).Sound := ⟨hs.mapped, hs.eligible, hs.protectedFits, hs.floorFits⟩
  have hover := overage_draw h hle
  have hfree : (s.draw amount).contingentFree = s.contingentFree - amount := contingentFree_draw
  split
  next hlt => exact outcome_eq_withinPolicy.mpr ⟨hsound, hE, hover, hB, hS, by omega⟩
  next hlt => exact outcome_eq_atLimit.mpr ⟨hsound, .inr ⟨hE, hover, hB, hS, by omega⟩⟩

end Standing

/-! ## Drawing on a grant -/

/-- A contingent record that draws on a grant of `grant` units: fresh, within
the domain, and of an eligible class without a share cap. -/
structure DemandRecord.Draws (policy : OversubscriptionPolicy) (domain : DomainConfig)
    (adm : AdmissionSnapshot) (grant : Nat) (r : DemandRecord) : Prop where
  fresh : r.admission ∉ adm.records.map (·.admission)
  kind : r.kind = .contingent
  pending : r.pendingCapacity = 0
  member : r.resource ∈ domain.members
  pool : r.pool = domain.pool
  uncapped : ∃ cls ∈ policy.serviceClasses, cls.id = r.serviceClass ∧
    cls.oversubscriptionEligible = true ∧ cls.hasContingentShareCap = false
  positive : 0 < r.committedCapacity.toNat
  within : r.committedCapacity.toNat ≤ grant

/-- `adm'` is `adm` with `r` added somewhere. -/
structure AdmissionSnapshot.Adds (adm adm' : AdmissionSnapshot) (r : DemandRecord) : Prop where
  domain : adm'.domain = adm.domain
  generation : adm'.generation = adm.generation
  epoch : adm'.epoch = adm.epoch
  observedTick : adm'.observedTick = adm.observedTick
  records : adm'.records.Perm (r :: adm.records)

section

variable {policy : OversubscriptionPolicy} {domain : DomainConfig} {adm adm' : AdmissionSnapshot}
  {grant : Nat} {r : DemandRecord} {sn : Snapshots}

namespace DemandRecord.Draws

theorem serviceClass (hp : policy.Installable) (h : r.Draws policy domain adm grant) :
    ∃ cls, (PolicyIndex.rebuild policy).serviceClass r.serviceClass = some cls ∧
      cls.oversubscriptionEligible = true ∧ cls.hasContingentShareCap = false := by
  obtain ⟨cls, hcls, hid, helig, hcap⟩ := h.uncapped
  refine ⟨cls, ?_, helig, hcap⟩
  rw [← hid]
  exact PolicyIndex.serviceClass_of_mem hp.classes_nodup hcls

theorem isGuaranteed (h : r.Draws policy domain adm grant) :
    Oversub.isGuaranteed domain r = false := by
  rw [Oversub.isGuaranteed, h.kind]
  exact Bool.and_false _

theorem isContingent (hp : policy.Installable) (h : r.Draws policy domain adm grant) :
    Oversub.isContingent domain (.rebuild policy) r = true := by
  obtain ⟨cls, hcls, helig, -⟩ := h.serviceClass hp
  have hcov : domain.covers r.resource = true := covers_iff.mpr h.member
  rw [Oversub.isContingent, isOversubscribed, h.kind, hcov, eligible, hcls, Option.map_some,
    Option.getD_some, helig]
  rfl

theorem isIneligible (hp : policy.Installable) (h : r.Draws policy domain adm grant) :
    Oversub.isIneligible domain (.rebuild policy) r = false := by
  have hcon := h.isContingent hp
  rw [Oversub.isContingent, Bool.and_eq_true] at hcon
  rw [Oversub.isIneligible, hcon.2, Bool.not_true, Bool.and_false]

theorem isBurst (h : r.Draws policy domain adm grant) :
    Oversub.isBurst domain (.rebuild policy) r = false := by
  rw [Oversub.isBurst, h.kind]
  exact Bool.and_false _

/-- The record's own class never exceeds a share. -/
theorem shareBroken (hp : policy.Installable) (h : r.Draws policy domain adm grant)
    {ceiling amount : Nat} :
    Oversub.shareBroken (.rebuild policy) ceiling r.serviceClass amount = false := by
  obtain ⟨cls, hcls, -, hcap⟩ := h.serviceClass hp
  rw [Oversub.shareBroken, hcls]
  simp only [hcap, Bool.false_and]

end DemandRecord.Draws

/-! ## The totals -/

theorem sumWhere_added {p : DemandRecord → Bool} {f : DemandRecord → Nat}
    (h : adm.Adds adm' r) :
    sumWhere p f adm'.records = (if p r then f r else 0) + sumWhere p f adm.records :=
  (sumWhere_perm h.records).trans sumWhere_cons

theorem get_admitted_added (h : adm.Adds adm' r) (hr : r.Draws policy domain adm grant)
    (key : ResourceId × ServiceClassId) :
    get (admitted domain adm'.records) key = get (admitted domain adm.records) key := by
  rw [get_admitted, get_admitted, sumWhere_added h, hr.isGuaranteed, Bool.false_and,
    if_neg Bool.false_ne_true, Nat.zero_add]

theorem contingentIn_added (hp : policy.Installable) (h : adm.Adds adm' r)
    (hr : r.Draws policy domain adm grant) :
    contingentIn domain (.rebuild policy) adm'.records =
      contingentIn domain (.rebuild policy) adm.records + committed r := by
  rw [contingentIn, sumWhere_added h, if_pos (hr.isContingent hp), Nat.add_comm]
  rfl

theorem contingentOf_added (h : adm.Adds adm' r) {id : ServiceClassId}
    (hid : r.serviceClass ≠ id) :
    contingentOf domain (.rebuild policy) adm'.records id =
      contingentOf domain (.rebuild policy) adm.records id := by
  rw [contingentOf, sumWhere_added h, decide_eq_false hid, Bool.and_false,
    if_neg Bool.false_ne_true, Nat.zero_add]
  rfl

/-- **The standing** only moves along its ceiling. -/
theorem standing_drawn (hp : policy.Installable) (h : sn.adm.Adds adm' r)
    (hr : r.Draws policy domain sn.adm grant) :
    standing policy (.rebuild policy) domain (sn.withAdmissions adm') =
      (standing policy (.rebuild policy) domain sn).draw (committed r) := by
  have hunmapped : adm'.records.any (isUnbacked domain (sn.withAdmissions adm')) =
      sn.adm.records.any (isUnbacked domain sn) := by
    have hsame : isUnbacked domain (sn.withAdmissions adm') = isUnbacked domain sn := by
      funext x
      rw [isUnbacked, isUnbacked]
      simp only [Snapshots.withAdmissions, get_admitted_added h hr]
    rw [any_perm h.records, List.any_cons, hsame, isUnbacked, hr.isGuaranteed, Bool.false_and,
      Bool.false_or]
  have hineligible : (adm'.records.any fun x => isIneligible domain (.rebuild policy) x &&
        (committed x != 0 || pending x != 0)) =
      sn.adm.records.any fun x => isIneligible domain (.rebuild policy) x &&
        (committed x != 0 || pending x != 0) := by
    rw [any_perm h.records, List.any_cons, hr.isIneligible hp, Bool.false_and, Bool.false_or]
  have hburst : burstIn domain (.rebuild policy) adm'.records =
      burstIn domain (.rebuild policy) sn.adm.records := by
    rw [burstIn, sumWhere_added h, hr.isBurst, if_neg Bool.false_ne_true, Nat.zero_add]
    rfl
  have hshare : ∀ ceiling : Nat, (adm'.records.any fun x => isContingent domain (.rebuild policy) x &&
        shareBroken (.rebuild policy) ceiling x.serviceClass
          (contingentOf domain (.rebuild policy) adm'.records x.serviceClass)) =
      sn.adm.records.any fun x => isContingent domain (.rebuild policy) x &&
        shareBroken (.rebuild policy) ceiling x.serviceClass
          (contingentOf domain (.rebuild policy) sn.adm.records x.serviceClass) := by
    intro ceiling
    rw [any_perm h.records, List.any_cons, hr.shareBroken hp, Bool.and_false, Bool.false_or]
    congr 1
    funext x
    by_cases hx : r.serviceClass = x.serviceClass
    · rw [← hx, hr.shareBroken hp, hr.shareBroken hp]
    · rw [contingentOf_added h hx]
  have hcap : (sn.withAdmissions adm').cap = sn.cap := rfl
  have hres : (sn.withAdmissions adm').res = sn.res := rfl
  have hadm : (sn.withAdmissions adm').adm = adm' := rfl
  have hratio : ratioOf domain (sn.withAdmissions adm') = ratioOf domain sn := rfl
  simp only [standing, Standing.draw, hcap, hres, hadm, hratio, hunmapped, hineligible, hburst,
    hshare, contingentIn_added hp h hr]

/-- Evidence that reaches the cascade still does while the grant covers the demand. -/
theorem reaches_drawn (hp : policy.Installable) {expectation : AuthorityExpectation}
    {tick : UInt64} (hreach : Reaches .u64 policy domain expectation sn tick)
    (h : sn.adm.Adds adm' r)
    (hw : (standing policy (.rebuild policy) domain sn).outcome = .withinPolicy)
    (hr : r.Draws policy domain sn.adm
      (standing policy (.rebuild policy) domain sn).contingentFree)
    (hlimit : adm'.records.length ≤ policy.limits.maxDemandRecordsPerSnapshot.toNat)
    (hhard : adm'.records.length ≤ kHardMaxDemandRecordsPerSnapshot) :
    Reaches .u64 policy domain expectation (sn.withAdmissions adm') tick := by
  have hfill := Standing.grant_fills hw
  have hcom : committed r ≤ (standing policy (.rebuild policy) domain sn).contingentFree := hr.within
  have hceiling : (standing policy (.rebuild policy) domain sn).ceiling ≤
      ratioCeiling (ratioOf domain sn) (effectiveIn (memberEntries domain sn.cap)) :=
    legalCeiling_le_ratio
  have hfit : ∀ n, n ≤ (standing policy (.rebuild policy) domain sn).ceiling →
      Arith.u64.fits n = true :=
    fun n hn => Arith.u64.fits_mono (Nat.le_trans hn hceiling) hreach.closes.ceilings.ratio
  have hcon : (standing policy (.rebuild policy) domain sn).contingent =
    contingentIn domain (.rebuild policy) sn.adm.records := rfl
  obtain ⟨cls, hcls, -, -⟩ := hr.serviceClass hp
  exact {
    gate := {
      bound := { hreach.gate.bound with
        domain_eq := h.domain ▸ hreach.gate.bound.domain_eq
        epoch_eq := h.epoch ▸ hreach.gate.bound.epoch_eq
        admissionGeneration_eq := h.generation ▸ hreach.gate.bound.admissionGeneration_eq }
      fresh := { hreach.gate.fresh with
        admissions := h.observedTick ▸ hreach.gate.fresh.admissions }
      bounded := { hreach.gate.bounded with records_le := ⟨hlimit, hhard⟩ }
      capacity_nodup := hreach.gate.capacity_nodup
      members := hreach.gate.members
      guarantees := hreach.gate.guarantees
      demands := {
        nodup := ((h.records.map _).nodup_iff).mpr
          (List.nodup_cons.mpr ⟨hr.fresh, hreach.gate.demands.nodup⟩)
        entry := by
          intro x hx
          rcases List.mem_cons.mp (h.records.mem_iff.mp hx) with rfl | hx
          · refine fun _ => ⟨hr.pool, ?_, ?_⟩
            · rw [hcls]
              rfl
            · rw [hr.kind]
              exact DemandKind.noConfusion
          · exact hreach.gate.demands.entry x hx } }
    fits := {
      scaled := hreach.fits.scaled
      guarantees := hreach.fits.guarantees
      demand := {
        admitted := by
          have hsame : admittedIn domain adm'.records = admittedIn domain sn.adm.records := by
            rw [admittedIn, sumWhere_added h, hr.isGuaranteed, if_neg Bool.false_ne_true,
              Nat.zero_add]
            rfl
          show Arith.u64.fits (admittedIn domain adm'.records) = true
          rw [hsame]
          exact hreach.fits.demand.admitted
        contingent := by
          show Arith.u64.fits (contingentIn domain (.rebuild policy) adm'.records) = true
          rw [contingentIn_added hp h hr]
          exact hfit _ (by omega)
        pending := by
          have hsame : pendingIn domain (.rebuild policy) adm'.records =
              pendingIn domain (.rebuild policy) sn.adm.records := by
            rw [pendingIn, sumWhere_added h, if_pos (hr.isContingent hp), pending, hr.pending]
            exact Nat.zero_add _
          show Arith.u64.fits (pendingIn domain (.rebuild policy) adm'.records) = true
          rw [hsame]
          exact hreach.fits.demand.pending } }
    closes := {
      capacity := hreach.closes.capacity
      ceilings := hreach.closes.ceilings
      floor := hreach.closes.floor
      committed := by
        rw [standing_drawn hp h hr]
        refine hfit _ ?_
        have hdraw : ((standing policy (.rebuild policy) domain sn).draw (committed r)).committed =
          (standing policy (.rebuild policy) domain sn).guarantees +
            ((standing policy (.rebuild policy) domain sn).contingent + committed r) := rfl
        omega }
    within := hreach.within }

end

/-! ## A grant is closed under use -/

section

variable {order order' : MapOrder} {policy : OversubscriptionPolicy} {domain : DomainConfig}
  {expectation : AuthorityExpectation} {cap : Option CapacitySnapshot}
  {res : Option ReservationSnapshot} {adm adm' : AdmissionSnapshot} {r : DemandRecord}
  {tick : UInt64}

/-- **Use of a grant**: the part that is left is granted again, and a grant
used up puts the domain at its limit. -/
theorem grant_used (hp : (validatePolicy policy).isOk = true) (hd : domain ∈ policy.domains)
    (hw : (evaluateDomain order policy (.rebuild policy) domain expectation ⟨cap, res, some adm⟩
      tick).outcome = .withinPolicy)
    (hadds : adm.Adds adm' r)
    (hr : r.Draws policy domain adm
      (evaluateDomain order policy (.rebuild policy) domain expectation ⟨cap, res, some adm⟩
        tick).authorizedIncrementUnits)
    (hlimit : adm'.records.length ≤ policy.limits.maxDemandRecordsPerSnapshot.toNat)
    (hhard : adm'.records.length ≤ kHardMaxDemandRecordsPerSnapshot) :
    let k := (evaluateDomain order policy (.rebuild policy) domain expectation
      ⟨cap, res, some adm⟩ tick).authorizedIncrementUnits
    let r' := evaluateDomain order' policy (.rebuild policy) domain expectation
      ⟨cap, res, some adm'⟩ tick
    r'.outcome = (if r.committedCapacity.toNat < k then .withinPolicy else .atLimit) ∧
      r'.authorizedIncrementUnits = k - r.committedCapacity.toNat := by
  have hpi := validatePolicy_installable hp
  have hdi := hpi.domains domain hd
  have hauth : (evaluateDomain order policy (.rebuild policy) domain expectation
      ⟨cap, res, some adm⟩ tick).outcome.isAuthoritative = true := by
    rw [hw]
    rfl
  obtain ⟨sn', hev, hreach⟩ := evaluate_authoritative hpi hdi hauth
  obtain ⟨sn, hadm, rfl, hev'⟩ := exists_withAdmissions hev adm'
  obtain ⟨c, s, a⟩ := sn
  obtain rfl : a = adm' := hadm
  set sn : Snapshots := Snapshots.withAdmissions ⟨c, s, a⟩ adm
  have hdec : Decides (evaluateDomain order policy (.rebuild policy) domain expectation
      sn.evidence tick) (standing policy (.rebuild policy) domain sn) :=
    evaluate_decides hpi hdi hreach
  rw [← hev] at hdec
  have hout : (standing policy (.rebuild policy) domain sn).outcome = .withinPolicy :=
    hdec.outcome.symm.trans hw
  have hk := hdec.increment
  rw [if_pos hout] at hk
  rw [hk] at hr
  have hdraw : standing policy (.rebuild policy) domain (sn.withAdmissions a) = _ :=
    standing_drawn hpi hadds hr
  have hreach' : Reaches .u64 policy domain expectation (sn.withAdmissions a) tick :=
    reaches_drawn hpi hreach hadds hout hr hlimit hhard
  have hdec' : Decides (evaluateDomain order' policy (.rebuild policy) domain expectation
      (sn.withAdmissions a).evidence tick) _ := evaluate_decides hpi hdi hreach'
  have hev'' : (⟨cap, res, some a⟩ : DomainEvidence) = (sn.withAdmissions a).evidence := hev'
  rw [← hev'', hdraw] at hdec'
  have hle : committed r ≤ (standing policy (.rebuild policy) domain sn).contingentFree := hr.within
  have hout' := Standing.outcome_draw hout hle
  intro k r'
  have hkk : k = (standing policy (.rebuild policy) domain sn).contingentFree := hk
  have hinc : r'.authorizedIncrementUnits = _ := hdec'.increment
  have hr' : r'.outcome = _ := hdec'.outcome
  rw [hkk, hr', hinc, hout', Standing.contingentFree_draw]
  refine ⟨rfl, ?_⟩
  by_cases hlt : committed r < (standing policy (.rebuild policy) domain sn).contingentFree
  · rw [if_pos hlt, if_pos rfl]
    rfl
  · rw [if_neg hlt, if_neg (by decide)]
    exact (Nat.sub_eq_zero_of_le (Nat.not_lt.mp hlt)).symm

/-- A record of 15 units for the sample domain. -/
def sampleDraw : DemandRecord where
  admission := ⟨2⟩
  resource := ⟨1⟩
  pool := ⟨1⟩
  serviceClass := ⟨1⟩
  kind := .contingent
  committedCapacity := 15
  generation := ⟨1⟩

def sampleDrawn : AdmissionSnapshot :=
  let adm := (sampleSnapshots 100 50).adm
  { adm with records := adm.records ++ [sampleDraw] }

theorem sampleDrawn_adds : (sampleSnapshots 100 50).adm.Adds sampleDrawn sampleDraw where
  domain := rfl
  generation := rfl
  epoch := rfl
  observedTick := rfl
  records := List.perm_append_singleton _ _

theorem grant_used_sample :
    let k := (evaluateDomain .listed samplePolicy (.rebuild samplePolicy) sampleDomain
      sampleExpectation (sampleSnapshots 100 50).evidence 0).authorizedIncrementUnits
    let r' := evaluateDomain .listed samplePolicy (.rebuild samplePolicy) sampleDomain
      sampleExpectation ((sampleSnapshots 100 50).withAdmissions sampleDrawn).evidence 0
    r'.outcome =
        (if sampleDraw.committedCapacity.toNat < k then .withinPolicy else .atLimit) ∧
      r'.authorizedIncrementUnits = k - sampleDraw.committedCapacity.toNat :=
  grant_used samplePolicy_valid sampleDomain_mem (by decide +kernel) sampleDrawn_adds
    { fresh := by decide
      kind := rfl
      pending := rfl
      member := by decide
      pool := rfl
      uncapped := ⟨{ id := ⟨1⟩ }, List.mem_cons_self, rfl, rfl, rfl⟩
      positive := by decide
      within := by decide +kernel }
    (by decide) (by decide)

end

end Oversub
