import Oversub.Engine.Demand
import Oversub.Engine.Iteration

/-!
# Oversub.Engine.Reduction

The intent to reduce contingent demand.  Its amount is the overage, which the
contingent demand can always give up; demand lowered by less still exceeds the
ceiling by the rest, and demand lowered by all of it does not (`reduction_tight`).
-/

namespace Oversub

open EarlyFold Tally Pointwise

/-! ## The standing of an overage -/

namespace Standing

variable {s t : Standing} {b : Nat}

/-- An overage is the reason once nothing before it is. -/
theorem reason_eq_overage :
    s.reason = .admissionExceedsContingentCeiling ↔ s.Sound ∧ s.capacity ≠ 0 ∧ 0 < s.overage := by
  constructor
  · intro h
    unfold reason at h
    split_ifs at h with h1 h2 h3 h4 h5 _ h6
    exact ⟨⟨Bool.eq_false_iff.mpr h1, Bool.eq_false_iff.mpr h2, h3, h4⟩, h5, h6⟩
  · intro ⟨hs, hE, hO⟩
    rw [reason, hs.mapped, hs.eligible, if_neg Bool.false_ne_true, if_neg Bool.false_ne_true,
      if_neg hs.protectedFits, if_neg hs.floorFits, if_neg hE, if_pos hO]

/-- The floor keeps the guarantees under the ceiling, so the contingent demand
covers the overage. -/
theorem Sound.overage_le (h : s.Sound) : s.overage ≤ s.contingent := by
  have hfloor := h.floorFits
  simp only [FloorShort, floorRequired, protectedRequired] at hfloor
  unfold overage committed
  omega

/-- `t` is `s` with `b` units of contingent demand less. -/
structure Reduced (s t : Standing) (b : Nat) : Prop where
  less : t.MoreDemand s
  contingent : t.contingent + b = s.contingent

theorem Reduced.sound (h : s.Reduced t b) (hs : s.Sound) : t.Sound where
  mapped := by
    have hmapped := mt h.less.unmapped
    simpa [hs.mapped] using hmapped
  eligible := by
    have heligible := mt h.less.ineligible
    simpa [hs.eligible] using heligible
  protectedFits := by
    rw [← h.less.protectedShort]
    exact hs.protectedFits
  floorFits := by
    rw [← h.less.floorShort]
    exact hs.floorFits

/-- The overage goes down by what the demand does. -/
theorem Reduced.overage (h : s.Reduced t b) (hs : s.Sound) : t.overage = s.overage - b := by
  have hfloor := hs.floorFits
  have hcontingent := h.contingent
  have hguarantees := h.less.guarantees
  have hceiling := h.less.ceiling
  simp only [FloorShort, floorRequired, protectedRequired] at hfloor
  unfold Standing.overage committed
  omega

/-- With the whole overage gone nothing contingent is free. -/
theorem Reduced.contingentFree (h : s.Reduced t b) (hs : s.Sound) (hO : 0 < s.overage) (hb : b = s.overage) :
    t.contingentFree = 0 := by
  have hle := hs.overage_le
  have hcontingent := h.contingent
  have hguarantees := h.less.guarantees
  have hceiling := h.less.ceiling
  have hreserve := h.less.reserve
  unfold Standing.overage committed at hO hb hle
  unfold Standing.contingentFree contingentCeiling protectedRequired
  omega

/-- What the reduction leaves is still the reason, or nothing is over the
ceiling any more. -/
theorem Reduced.judgement (h : s.Reduced t b) (hs : s.reason = .admissionExceedsContingentCeiling) :
    (b < s.overage → t.reason = .admissionExceedsContingentCeiling) ∧
      (b = s.overage → t.reason ≠ .admissionExceedsContingentCeiling ∧
        t.outcome = if t.burstExceeded || t.shareExceeded then .reductionRequired else .atLimit) := by
  obtain ⟨hsound, hE, hO⟩ := reason_eq_overage.mp hs
  have hover := h.overage hsound
  have hsound' := h.sound hsound
  have hE' : t.capacity ≠ 0 := by
    rw [← h.less.capacity]
    exact hE
  constructor
  · intro hb
    exact reason_eq_overage.mpr ⟨hsound', hE', by omega⟩
  · intro hb
    have hfree := h.contingentFree hsound hO hb
    have hnone : ¬ 0 < t.overage := by omega
    constructor
    · intro hreason
      exact hnone (reason_eq_overage.mp hreason).2.2
    · rw [outcome_of_sound hsound', if_neg hE', if_neg hnone, if_pos hfree]

end Standing

/-! ## Lowered demand -/

/-- `r'` is `r` with less committed capacity, if it is contingent or burst
demand in scope. -/
structure DemandRecord.Lowered (domain : DomainConfig) (r r' : DemandRecord) : Prop where
  raised : r'.Raised r
  only : isOversubscribed domain r = false → r'.committedCapacity = r.committedCapacity

/-- `adm'` is `adm` with `b` committed units less on such records. -/
structure AdmissionSnapshot.Lowered (d : DomainConfig) (adm adm' : AdmissionSnapshot) (b : Nat) : Prop where
  domain : adm'.domain = adm.domain
  generation : adm'.generation = adm.generation
  epoch : adm'.epoch = adm.epoch
  observedTick : adm'.observedTick = adm.observedTick
  records : List.Forall₂ (DemandRecord.Lowered d) adm.records adm'.records
  total : (adm'.records.map committed).sum + b = (adm.records.map committed).sum

section

variable {policy : OversubscriptionPolicy} {index : PolicyIndex} {domain : DomainConfig}
  {adm adm' : AdmissionSnapshot} {sn : Snapshots} {r r' : DemandRecord} {rs rs' : List DemandRecord} {b : Nat}

theorem AdmissionSnapshot.Lowered.raised (h : adm.Lowered domain adm' b) : adm'.Raised adm where
  domain := h.domain.symm
  generation := h.generation.symm
  epoch := h.epoch.symm
  observedTick := h.observedTick.symm
  records := (h.records.imp fun _ _ hr => hr.raised).flip

/-- Where no ineligible record holds anything, only what counts is lowered. -/
theorem lowered_committed (hr : r.Lowered domain r')
    (hineligible : isIneligible domain index r = true → committed r = 0)
    (hcounts : isContingent domain index r = false) : committed r' = committed r := by
  cases hover : isOversubscribed domain r with
  | false =>
      rw [committed, hr.only hover, committed]
  | true =>
      have heligible : eligible index r.serviceClass = false := by
        simpa [isContingent, hover] using hcounts
      have hzero := hineligible (by simp [isIneligible, hover, heligible])
      have hle : committed r' ≤ committed r := hr.raised.committed
      omega

theorem contingentIn_lowered (h : List.Forall₂ (DemandRecord.Lowered domain) rs rs')
    (hineligible : ∀ r ∈ rs, isIneligible domain index r = true → committed r = 0) :
    contingentIn domain index rs + (rs'.map committed).sum =
      contingentIn domain index rs' + (rs.map committed).sum := by
  induction h with
  | nil => rfl
  | @cons r r' rs rs' hr _ ih =>
      obtain ⟨hzero, hrest⟩ := List.forall_mem_cons.mp hineligible
      have hsum := ih hrest
      have hcounts : isContingent domain index r' = isContingent domain index r := hr.raised.isContingent.symm
      have hother : isContingent domain index r = false → committed r' = committed r := lowered_committed hr hzero
      simp only [contingentIn, List.map_cons, List.sum_cons, sumWhere_cons, hcounts] at hsum ⊢
      cases hcon : isContingent domain index r with
      | true =>
          simp only [if_true]
          omega
      | false =>
          have hsame := hother hcon
          simp only [Bool.false_eq_true, if_false]
          omega

/-- **Lowered demand** lowers the standing, where no ineligible record holds
anything. -/
theorem standing_lowered (h : sn.adm.Lowered domain adm' b)
    (hs : (standing policy index domain sn).ineligible = false) :
    (standing policy index domain sn).Reduced (standing policy index domain (sn.withAdmissions adm')) b where
  less := @standing_raised policy index domain _ (sn.withAdmissions adm') h.raised
  contingent := by
    have hineligible : ∀ r ∈ sn.adm.records, isIneligible domain index r = true → committed r = 0 := by
      intro r hr hin
      have hnone := List.any_eq_false.mp hs r hr
      have hzero : committed r = 0 ∧ pending r = 0 := by simpa [hin] using hnone
      exact hzero.1
    have hsum := contingentIn_lowered h.records hineligible
    have htotal := h.total
    show contingentIn domain index adm'.records + b = contingentIn domain index sn.adm.records
    omega

end

/-! ## The evaluation of an overage -/

section

variable {order order' : MapOrder} {policy : OversubscriptionPolicy} {domain : DomainConfig}
  {expectation : AuthorityExpectation} {evidence : DomainEvidence} {sn : Snapshots} {tick : UInt64}
  {adm adm' : AdmissionSnapshot} {b : Nat}

/-- Only the cascade finds an overage. -/
theorem reaches_of_overage (hp : policy.Installable) (hd : domain.Installable policy)
    (h : (evaluateDomain order policy (.rebuild policy) domain expectation evidence tick).reason =
      .admissionExceedsContingentCeiling) :
    ∃ sn : Snapshots, evidence = sn.evidence ∧ Reaches .u64 policy domain expectation sn tick := by
  rw [evaluateDomain] at h
  cases hg : gather .u64 order policy (.rebuild policy) domain expectation evidence tick with
  | error r =>
      rw [evaluateDomainIn, hg] at h
      exact absurd h (gather_error_early hg).2
  | ok g =>
      rw [evaluate_of_gather hg] at h
      obtain ⟨sn, rfl, hgate, hfits, hwithin, rfl⟩ := (gather_eq_ok hd.members_nodup).mp hg
      refine ⟨sn, rfl, ⟨hgate, hfits, Classical.byContradiction fun hc => ?_⟩, hwithin⟩
      have hopen : ¬ (settle .u64 policy domain (gathered .u64 order (.rebuild policy) domain sn
          (gatheredAuthority policy domain expectation sn tick))).closed = true :=
        mt (settle_closed hp hd).mp hc
      rw [conclude, if_neg hopen] at h
      cases h

theorem ite_intents {c : Prop} [Decidable c] {v v' : Verdict}
    (hv : v.reason = .admissionExceedsContingentCeiling → v.intents = [])
    (hv' : v'.reason = .admissionExceedsContingentCeiling → v'.intents = []) :
    (if c then v else v').reason = .admissionExceedsContingentCeiling → (if c then v else v').intents = [] := by
  split
  · exact hv
  · exact hv'

/-- The cascade adds no intent for an overage itself. -/
theorem verdict_intents {index : PolicyIndex} {g : Gathered} {s : Settled} :
    (verdict .u64 order policy index domain g s).reason = .admissionExceedsContingentCeiling →
      (verdict .u64 order policy index domain g s).intents = [] := by
  unfold verdict
  dsimp only
  refine ite_intents nofun <| ite_intents nofun <| ite_intents nofun <| ite_intents nofun <|
    ite_intents nofun <| ite_intents nofun <| ite_intents nofun <|
    ite_intents (ite_intents nofun nofun) <|
    ite_intents (ite_intents (fun _ => rfl) fun _ => rfl) <| ite_intents nofun ?_
  cases shareFinding .u64 index s.acc.contingentCeiling (order.contingent g.contingentByClass.entries) with
  | within => exact ite_intents nofun nofun
  | overflowed => exact nofun
  | exceeded serviceClass excess => exact nofun

/-- The first intent is to give up the overage. -/
theorem evaluate_overage_intent (hp : (validatePolicy policy).isOk = true) (hd : domain ∈ policy.domains)
    (h : Reaches .u64 policy domain expectation sn tick)
    (hs : (standing policy (.rebuild policy) domain sn).reason = .admissionExceedsContingentCeiling) :
    ∃ rest, (evaluateDomain order policy (.rebuild policy) domain expectation sn.evidence tick).intents =
      overageIntent domain (standing policy (.rebuild policy) domain sn).overage :: rest := by
  have hpi := validatePolicy_installable hp
  have hdi := hpi.domains _ hd
  have hroom : ¬ policy.limits.maxCorrectiveIntents.toNat ≤ 0 :=
    Nat.not_le.mpr (validatePolicy_intents_pos hp)
  have hpos := (Standing.reason_eq_overage.mp hs).2.2
  rw [evaluateDomain, evaluate_eq_finish hpi hdi h]
  generalize gatheredAuthority policy domain expectation sn tick = authority
  have hreason := @verdict_reason policy domain sn authority hpi hdi h.closes order order
  have hmatches : Matches (settle .u64 policy domain (gathered .u64 order (.rebuild policy) domain sn
      authority)).acc (standing policy (.rebuild policy) domain sn) := settle_matches hpi hdi h.closes
  have hover := hmatches.overage
  dsimp only at hreason
  have hnone := verdict_intents (hreason.trans hs)
  generalize gathered .u64 order (.rebuild policy) domain sn authority = g at *
  generalize verdict .u64 order policy (.rebuild policy) domain g (settle .u64 policy domain g) = v at *
  obtain ⟨rest, hrest⟩ := @overageIntent_extends policy.limits domain g (settle .u64 policy domain g) v
  refine ⟨rest, ?_⟩
  rw [finish, finalize_intents]
  dsimp only
  rw [← hrest, hnone, hover]
  simp [addIntentIf, addIntent, hpos, hroom]

/-- What `b` units less make of an overage of `a`. -/
structure GivenUp (policy : OversubscriptionPolicy) (domain : DomainConfig) (sn : Snapshots) (r : EvaluationResult)
    (a b : Nat) : Prop where
  part : b < a → r.reason = .admissionExceedsContingentCeiling ∧ r.accounting.overage = a - b
  whole : b = a → r.reason ≠ .admissionExceedsContingentCeiling ∧
    r.outcome.severity ≤ Outcome.reductionRequired.severity ∧
      (r.outcome = .atLimit ∨
        (domain.burstPoolEnabled = true ∧
          domain.burstPoolCapUnits.toNat < burstIn domain (.rebuild policy) sn.adm.records) ∨
        ∃ id, OverShare policy domain sn id)

theorem evaluate_lowered (hp : policy.Installable) (hd : domain.Installable policy)
    (h : Reaches .u64 policy domain expectation sn tick)
    (hs : (standing policy (.rebuild policy) domain sn).reason = .admissionExceedsContingentCeiling)
    (hlowered : sn.adm.Lowered domain adm' b) :
    GivenUp policy domain (sn.withAdmissions adm')
      (evaluateDomain order policy (.rebuild policy) domain expectation (sn.withAdmissions adm').evidence tick)
      (standing policy (.rebuild policy) domain sn).overage b := by
  have hreach : Reaches .u64 policy domain expectation (sn.withAdmissions adm') tick :=
    @reaches_of_raised .u64 policy domain expectation sn.adm (sn.withAdmissions adm') tick hlowered.raised h
  have hdecides : Decides (evaluateDomain order policy (.rebuild policy) domain expectation
      (sn.withAdmissions adm').evidence tick) (standing policy (.rebuild policy) domain (sn.withAdmissions adm')) :=
    evaluate_decides hp hd hreach
  have hsound := (Standing.reason_eq_overage.mp hs).1
  have hreduced := standing_lowered hlowered hsound.eligible
  obtain ⟨hpart, hwhole⟩ := hreduced.judgement hs
  constructor
  · intro hb
    rw [hdecides.reason, hdecides.amounts.overage]
    exact ⟨hpart hb, hreduced.overage hsound⟩
  · intro hb
    obtain ⟨hreason, houtcome⟩ := hwhole hb
    rw [hdecides.reason, hdecides.outcome, houtcome]
    refine ⟨hreason, ?_, ?_⟩
    · split <;> decide
    · split
      next hexceeded =>
        rw [Bool.or_eq_true] at hexceeded
        refine .inr (hexceeded.imp (fun hburst => ?_) fun hshare => ?_)
        · simpa [standing] using hburst
        · obtain ⟨r, -, hr⟩ := List.any_eq_true.mp hshare
          rw [Bool.and_eq_true] at hr
          exact ⟨r.serviceClass, hr.2⟩
      · exact .inl rfl

/-- **The intent to reduce** is first, is within what the contingent demand can
give up, and is exactly what is needed. -/
theorem reduction_tight (hp : (validatePolicy policy).isOk = true) (hd : domain ∈ policy.domains)
    (h : (evaluateDomain order policy (.rebuild policy) domain expectation evidence tick).reason =
      .admissionExceedsContingentCeiling) :
    let r := evaluateDomain order policy (.rebuild policy) domain expectation evidence tick
    (∃ intent rest, r.intents = intent :: rest ∧ intent.kind = .reduceContingentAdmissionBudget ∧
        intent.target = .domain ∧ intent.amountUnits = r.accounting.overage) ∧
      r.accounting.overage ≤ r.accounting.contingentCommitted ∧
      ∃ sn : Snapshots, evidence = sn.evidence ∧ ∀ order' adm' b, sn.adm.Lowered domain adm' b →
        GivenUp policy domain (sn.withAdmissions adm')
          (evaluateDomain order' policy (.rebuild policy) domain expectation (sn.withAdmissions adm').evidence tick)
          r.accounting.overage b := by
  intro r
  have hpi := validatePolicy_installable hp
  have hdi := hpi.domains _ hd
  obtain ⟨sn, rfl, hreach⟩ := reaches_of_overage hpi hdi h
  have hdecides : Decides r (standing policy (.rebuild policy) domain sn) := evaluate_decides hpi hdi hreach
  have hs := hdecides.reason.symm.trans h
  have hover := hdecides.amounts.overage
  obtain ⟨rest, hrest⟩ : ∃ rest, r.intents = _ :: rest := evaluate_overage_intent hp hd hreach hs
  refine ⟨⟨_, rest, hrest, rfl, rfl, hover.symm⟩, ?_, sn, rfl, fun order' adm' b hlowered => ?_⟩
  · rw [hover, hdecides.amounts.contingent]
    exact (Standing.reason_eq_overage.mp hs).1.overage_le
  · rw [hover]
    exact evaluate_lowered hpi hdi hreach hs hlowered

example : (sampleSnapshots 100 120).adm.Lowered sampleDomain (sampleSnapshots 100 100).adm 20 where
  domain := rfl
  generation := rfl
  epoch := rfl
  observedTick := rfl
  records := .cons ⟨⟨rfl, rfl, rfl, rfl, rfl, rfl, rfl, by decide⟩, nofun⟩ .nil
  total := rfl

/-- 120 units under a ceiling of 100 are 20 too many. -/
theorem reduction_tight_sample :
    let r := evaluateDomain .listed samplePolicy (.rebuild samplePolicy) sampleDomain sampleExpectation
      (sampleSnapshots 100 120).evidence 0
    (∃ intent rest, r.intents = intent :: rest ∧ intent.kind = .reduceContingentAdmissionBudget ∧
        intent.target = .domain ∧ intent.amountUnits = r.accounting.overage) ∧
      r.accounting.overage ≤ r.accounting.contingentCommitted ∧
      ∃ sn : Snapshots, (sampleSnapshots 100 120).evidence = sn.evidence ∧
        ∀ order' adm' b, sn.adm.Lowered sampleDomain adm' b →
          GivenUp samplePolicy sampleDomain (sn.withAdmissions adm')
            (evaluateDomain order' samplePolicy (.rebuild samplePolicy) sampleDomain sampleExpectation
              (sn.withAdmissions adm').evidence 0) r.accounting.overage b :=
  reduction_tight samplePolicy_valid sampleDomain_mem (by decide +kernel)

end

end Oversub
