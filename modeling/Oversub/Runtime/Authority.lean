import Oversub.Engine.Demand
import Oversub.Runtime.Later
import Oversub.Runtime.Room

/-!
# Oversub.Runtime.Authority

What a decision with authority rests on when it is made, and what
`revalidate` asks of it later.

An evaluation takes the content of the slots and their generations;
revalidation also reads the flag that an adoption leaves on them.  So a
decision is still bound where it was made exactly when no slot it rests on was
flagged.
-/

namespace Oversub

namespace Governor

variable {order : MapOrder} {g g' : Governor} {domain : OversubscriptionDomainId}
  {tick wall : UInt64} {dc : DomainConfig} {sn : Snapshots}

/-! ## Grounds -/

/-- What an evaluation with authority rests on. -/
structure Grounds (g : Governor) (domain : OversubscriptionDomainId) (tick : UInt64)
    (dc : DomainConfig) (sn : Snapshots) (authority : AuthorityVector) : Prop where
  domain_eq : g.index.domain domain = some dc
  mem : dc ∈ g.state.policy.domains
  id_eq : dc.id = domain
  evidence : g.evidenceFor domain = sn.evidence
  vetted : Vetted g.state.policy dc (g.expectationFor domain) sn tick
  authority_eq : authority = gatheredAuthority g.state.policy dc (g.expectationFor domain) sn tick
  complete : authority.complete = true

theorem authorityValid_iff {policy : OversubscriptionPolicy} {index : PolicyIndex}
    {expectation : AuthorityExpectation} {evidence : DomainEvidence} :
    (evaluateDomain order policy index dc expectation evidence tick).authorityValid =
      (evaluateDomain order policy index dc expectation evidence tick).outcome.isAuthoritative := by
  obtain ⟨r, hr⟩ : ∃ r, evaluateDomainIn .u64 order policy index dc expectation evidence tick =
    finalizeEvaluationResult r := evaluate_finalized
  rw [evaluateDomain, hr]
  rfl

/-- Authority has grounds in an open runtime. -/
theorem grounds_of_authorityValid (hg : g.Live)
    (h : (g.evaluationAt order domain tick).authorityValid = true) :
    ∃ dc sn, Grounds g domain tick dc sn (g.evaluationAt order domain tick).authority := by
  unfold evaluationAt at h ⊢
  cases hdomain : g.index.domain domain with
  | none =>
      rw [hdomain] at h
      cases h
  | some dc =>
      rw [hdomain] at h
      dsimp only at h ⊢
      rw [hg.index] at hdomain h ⊢
      obtain ⟨hmem, hid⟩ := PolicyIndex.domain_eq_some hdomain
      have hpi := validatePolicy_installable hg.policy
      have hdi := hpi.domains dc hmem
      rw [authorityValid_iff] at h
      obtain ⟨sn, hsn, hreach, hgov⟩ := (authoritative_iff hpi hdi).mp h
      have hauthority : (evaluateDomain order g.state.policy (.rebuild g.state.policy) dc
          (g.expectationFor domain) (g.evidenceFor domain) tick).authority =
            gatheredAuthority g.state.policy dc (g.expectationFor domain) sn tick := by
        rw [evaluateDomain, hsn, evaluate_authority hpi hdi hreach]
      refine ⟨dc, sn, hg.index ▸ hdomain, hmem, hid, hsn,
        vetted_of_reaches hpi hreach hgov.mapped hgov.eligible, hauthority, ?_⟩
      rw [hauthority]
      exact gatheredAuthority_complete hpi hdi hreach.gate.bound

/-! ## Decisions that are still bound -/

/-- What `revalidate` asks of a decision. -/
structure StillBound (g : Governor) (d : Decision) : Prop where
  complete : d.evaluation.authority.complete = true
  authorityValid : d.evaluation.authorityValid = true
  incarnation : d.incarnation = g.state.incarnation
  epoch : d.epoch = g.state.epoch
  policyGeneration : d.evaluation.authority.policyGeneration = g.state.policy.generation
  riskBudgetGeneration :
    d.evaluation.authority.riskBudgetGeneration = g.state.policy.riskBudget.generation
  domain : ∃ dc, g.index.domain d.evaluation.authority.domain = some dc ∧
    d.evaluation.authority.domainGeneration = dc.generation
  runtime : ∀ r, g.runtime d.evaluation.authority.domain = some r →
    r.fenced = false ∧ (r.lastDecision.valid = true → r.lastDecision = d.id)
  slots : ∀ c ∈ slotChecks d.evaluation.authority,
    g.slotCurrent d.evaluation.authority.domain c.1 c.2.1 = true

theorem revalidateSlots_valid {a : AuthorityVector} : (g.revalidateSlots a).valid = true ↔
    ∀ c ∈ slotChecks a, g.slotCurrent a.domain c.1 c.2.1 = true := by
  unfold revalidateSlots
  split
  next c hc =>
    have hbad := List.find?_some hc
    have hmem := List.mem_of_find?_eq_some hc
    constructor
    · intro h
      cases h
    · intro h
      rw [h c hmem] at hbad
      cases hbad
  next hnone =>
    rw [List.find?_eq_none] at hnone
    exact ⟨fun _ c hc => by simpa using hnone c hc, fun _ => rfl⟩

/-- **Revalidation** reports what is still bound. -/
theorem revalidationOf_valid {d : Decision} :
    (g.revalidationOf d).valid = true ↔ StillBound g d := by
  unfold revalidationOf
  dsimp only
  constructor
  · intro h
    split at h
    · cases h
    next hauthority =>
    split at h
    · cases h
    next hincarnation =>
    split at h
    · cases h
    next hepoch =>
    split at h
    · cases h
    next hpolicy =>
    split at h
    · cases h
    next hrisk =>
    rw [Bool.or_eq_true, not_or, Bool.not_eq_true, Bool.not_eq_true, Bool.not_eq_false',
      Bool.not_eq_false'] at hauthority
    have hbound (dc : DomainConfig) (hdomain : g.index.domain d.evaluation.authority.domain = some dc)
        (hgeneration : ¬ d.evaluation.authority.domainGeneration.value ≠ dc.generation.value)
        (hruntime : ∀ r, g.runtime d.evaluation.authority.domain = some r →
          r.fenced = false ∧ (r.lastDecision.valid = true → r.lastDecision = d.id))
        (hslots : (g.revalidateSlots d.evaluation.authority).valid = true) : StillBound g d :=
      { complete := hauthority.1
        authorityValid := hauthority.2
        incarnation := not_not.mp hincarnation
        epoch := congrArg FabricEpoch.mk (not_not.mp hepoch)
        policyGeneration := congrArg Gen.mk (not_not.mp hpolicy)
        riskBudgetGeneration := congrArg Gen.mk (not_not.mp hrisk)
        domain := ⟨dc, hdomain, congrArg Gen.mk (not_not.mp hgeneration)⟩
        runtime := hruntime
        slots := revalidateSlots_valid.mp hslots }
    split at h
    · cases h
    next dc hdomain =>
    split at h
    · cases h
    next hgeneration =>
    split at h
    next hnone => exact hbound dc hdomain hgeneration (fun r hr => by simp [hnone] at hr) h
    next r hsome =>
    split at h
    · cases h
    next hfenced =>
    split at h
    · cases h
    next hlast =>
      refine hbound dc hdomain hgeneration (fun r' hr' => ?_) h
      obtain rfl : r = r' := Option.some.inj (hsome.symm.trans hr')
      exact ⟨by simpa using hfenced, fun hvalid => Classical.byContradiction fun hne => hlast ⟨hvalid, hne⟩⟩
  · intro h
    obtain ⟨dc, hdomain, hgeneration⟩ := h.domain
    have hslots := revalidateSlots_valid.mpr h.slots
    rw [if_neg (by simp [h.complete, h.authorityValid]), if_neg (not_not.mpr h.incarnation),
      if_neg (not_not.mpr (congrArg FabricEpoch.value h.epoch)),
      if_neg (not_not.mpr (congrArg Gen.value h.policyGeneration)),
      if_neg (not_not.mpr (congrArg Gen.value h.riskBudgetGeneration)), hdomain]
    dsimp only
    rw [if_neg (not_not.mpr (congrArg Gen.value hgeneration))]
    cases hr : g.runtime d.evaluation.authority.domain with
    | none => exact hslots
    | some r =>
        obtain ⟨hfenced, hlast⟩ := h.runtime r hr
        dsimp only
        rw [if_neg (by simp [hfenced]), if_neg fun h => h.2 (hlast h.1)]
        exact hslots

theorem stillBound_congr {d : Decision} (h : g'.core = g.core) : StillBound g' d ↔ StillBound g d := by
  rw [← revalidationOf_valid, ← revalidationOf_valid]
  exact iff_of_eq (core_congr (fun g => (g.revalidationOf d).valid = true) (fun _ => rfl) h)

/-- `revalidate` reports that a decision is valid. -/
def Revalidates (g : Governor) (d : Decision) : Prop :=
  ∃ report, g.revalidate d = .ok report ∧ report.valid = true

theorem revalidates_iff_stillBound {d : Decision} :
    Revalidates g d ↔ g.isOpen = true ∧ StillBound g d := by
  unfold Revalidates revalidate
  rw [← revalidationOf_valid]
  cases g.isOpen with
  | false => simp
  | true => simp

theorem revalidates_of_valid {d : Decision} (hopen : g.isOpen = true)
    (h : (g.revalidationOf d).valid = true) : Revalidates g d :=
  revalidates_iff_stillBound.mpr ⟨hopen, revalidationOf_valid.mp h⟩

/-! ## Rulings -/

/-- A decision that authorizes takes effect as it is, and fences nothing. -/
theorem authorized_spec
    (h : (g.rule order domain tick wall).decision.newOversubscriptionAuthorized = true) :
    (g.rule order domain tick wall).decision.fenced = false ∧
      (g.evaluationAt order domain tick).newOversubscriptionAuthorized = true := by
  obtain ⟨heffective, hauthorized⟩ := Bool.and_eq_true_iff.mp h
  refine ⟨?_, hauthorized⟩
  let before := g.workingFor domain (g.evaluationAt order domain tick)
  have hfenced : (g.rule order domain tick wall).decision.fenced =
      (fenceWorthy (g.rule order domain tick wall).decision.effectiveOutcome ||
        (before.fenced &&
          !(g.rule order domain tick wall).decision.effectiveOutcome.isAuthoritative)) := rfl
  have hwithin : (g.rule order domain tick wall).decision.effectiveOutcome =
      Outcome.withinPolicy.code := eq_of_beq heffective
  rw [hfenced, hwithin]
  cases before.fenced <;> rfl

/-- What an evaluation may grant carries authority. -/
theorem authorityValid_of_authorized
    (h : (g.evaluationAt order domain tick).newOversubscriptionAuthorized = true) :
    (g.evaluationAt order domain tick).authorityValid = true := by
  unfold evaluationAt at h ⊢
  cases hdomain : g.index.domain domain with
  | none =>
      rw [hdomain] at h
      cases h
  | some dc =>
      rw [hdomain] at h
      dsimp only at h ⊢
      rw [authorityValid_iff, authorized_iff.mp h]
      rfl

/-! ## Slots of a decision -/

section

variable {σ : Type} {K : SnapshotKind σ} {s : σ}

theorem offered_eq_some (h : offered K g domain = some s) : ∃ slot,
    g.findSlot domain K.kind = some slot ∧ slot.hasContent = true ∧ K.content slot = some s := by
  unfold offered at h
  cases hfind : g.findSlot domain K.kind with
  | none =>
      rw [hfind] at h
      cases h
  | some slot =>
      rw [hfind] at h
      dsimp only at h
      split at h
      next hcontent => exact ⟨slot, rfl, hcontent, h⟩
      · cases h

/-- A slot that offers a snapshot is current, unless it was flagged. -/
theorem slotCurrent_iff (h : offered K g domain = some s) :
    g.slotCurrent domain K.kind (g.slotState domain K.kind).generation = true ↔
      ∀ slot, g.findSlot domain K.kind = some slot → slot.state.revalidationRequired = false := by
  obtain ⟨slot, hfind, hcontent, -⟩ := offered_eq_some h
  rw [slotCurrent, slotState, hfind]
  simp [hcontent]

end

/-- The slots of a decision on its grounds are current exactly when none was
flagged. -/
theorem slotsCurrent_iff {authority : AuthorityVector} (h : Grounds g domain tick dc sn authority) :
    (∀ c ∈ slotChecks authority, g.slotCurrent domain c.1 c.2.1 = true) ↔
      ∀ kind slot, g.findSlot domain kind = some slot → slot.state.revalidationRequired = false := by
  have hbound := h.vetted.bound
  have hcap : offered capacityKind g domain = some sn.cap :=
    congrArg DomainEvidence.capacity h.evidence
  have hres : offered reservationKind g domain = some sn.res :=
    congrArg DomainEvidence.reservations h.evidence
  have hadm : offered admissionKind g domain = some sn.adm :=
    congrArg DomainEvidence.admissions h.evidence
  have hcapgen : authority.capacityGeneration = ⟨(g.slotState domain .capacity).generation⟩ :=
    h.authority_eq ▸ hbound.capacityGeneration_eq
  have hresgen : authority.reservationGeneration = ⟨(g.slotState domain .reservation).generation⟩ :=
    h.authority_eq ▸ hbound.reservationGeneration_eq
  have hadmgen : authority.admissionGeneration = ⟨(g.slotState domain .admission).generation⟩ :=
    h.authority_eq ▸ hbound.admissionGeneration_eq
  simp only [slotChecks, List.forall_mem_cons, List.not_mem_nil, false_implies, implies_true,
    and_true, hcapgen, hresgen, hadmgen]
  refine Iff.trans (and_congr (slotCurrent_iff hcap)
    (and_congr (slotCurrent_iff hres) (slotCurrent_iff hadm))) ?_
  constructor
  · intro hall kind
    cases kind with
    | capacity => exact hall.1
    | reservation => exact hall.2.1
    | admission => exact hall.2.2
  · intro hall
    exact ⟨hall .capacity, hall .reservation, hall .admission⟩

/-! ## Evaluate and revalidate -/

/-- A decision that was just recorded is still bound, but for flags on its
slots. -/
theorem stillBound_withRuling (hg : g.Live)
    (hd : (g.rule order domain tick wall).decision.newOversubscriptionAuthorized = true) :
    StillBound (g.withRuling domain (g.rule order domain tick wall))
        (g.rule order domain tick wall).decision ↔
      ∀ kind slot, g.findSlot domain kind = some slot → slot.state.revalidationRequired = false := by
  obtain ⟨hfenced, hauthorized⟩ := authorized_spec hd
  have hvalid := authorityValid_of_authorized hauthorized
  obtain ⟨dc, sn, hgrounds⟩ := grounds_of_authorityValid hg hvalid
  have hdomain : (g.evaluationAt order domain tick).authority.domain = domain :=
    (congrArg AuthorityVector.domain hgrounds.authority_eq).trans hgrounds.id_eq
  have hruntime := runtime_withRuling (g := g) (r := g.rule order domain tick wall)
    rule_working_domain
  rw [← slotsCurrent_iff hgrounds]
  constructor
  · intro h c hc
    have hslot : g.slotCurrent (g.evaluationAt order domain tick).authority.domain c.1 c.2.1 = true :=
      h.slots c hc
    rwa [hdomain] at hslot
  · intro h
    exact {
      complete := hgrounds.complete
      authorityValid := hvalid
      incarnation := rfl
      epoch := rfl
      policyGeneration := (congrArg AuthorityVector.policyGeneration hgrounds.authority_eq :)
      riskBudgetGeneration := (congrArg AuthorityVector.riskBudgetGeneration hgrounds.authority_eq :)
      domain := ⟨dc, (congrArg g.index.domain hdomain).trans hgrounds.domain_eq,
        (congrArg AuthorityVector.domainGeneration hgrounds.authority_eq :)⟩
      runtime := fun r hr => by
        have hr' : (g.withRuling domain (g.rule order domain tick wall)).runtime
            (g.evaluationAt order domain tick).authority.domain = some r := hr
        rw [hdomain, hruntime] at hr'
        obtain rfl := Option.some.inj hr'
        exact ⟨hfenced, fun _ => rfl⟩
      slots := fun c hc => by
        have hslot := h c hc
        rwa [← hdomain] at hslot }

/-- **Evaluate and revalidate** agree on a decision that authorizes exactly
when none of the slots it rests on asks for revalidation. -/
theorem revalidates_iff {disk : Disk} {ts : List Step} {s : System} (hrun : SessionRun disk ts s)
    {c : System.Call} {request : EvaluationRequest} {d : Decision}
    (hc : c.command = .evaluate order wall request)
    (hreply : (s.perform c).1 = some (.decided (.ok d)))
    (hd : d.newOversubscriptionAuthorized = true) :
    Revalidates (s.step c).governor d ↔
      ∀ kind slot, s.governor.findSlot request.domain kind = some slot →
        slot.state.revalidationRequired = false := by
  have heffect := System.effect_of_reply hreply
  rw [hc] at heffect
  cases heffect.evaluates with
  | recorded hopen _ _ hruling hcore =>
      obtain rfl := hruling d rfl
      have hopen' : (s.step c).governor.isOpen = true :=
        (core_congr (·.isOpen) (fun _ => rfl) hcore).trans hopen
      rw [revalidates_iff_stillBound, stillBound_congr hcore,
        stillBound_withRuling (live_of_run hrun hopen) hd]
      exact and_iff_right hopen'

/-- In the sample session nothing was flagged. -/
theorem revalidates_sample :
    Revalidates ((sampleCalls.foldl System.step (System.boot emptyDisk)).step
        ⟨.evaluate .listed 0 sampleRequest, []⟩).governor
        (sampleReported.ruling .listed 0 sampleRequest).decision ↔
      ∀ kind slot, (sampleCalls.foldl System.step (System.boot emptyDisk)).governor.findSlot
        sampleRequest.domain kind = some slot → slot.state.revalidationRequired = false :=
  revalidates_iff (Trace.run_play _ _) rfl
    (by
      obtain ⟨disk, hsession⟩ := sample_session
      obtain ⟨disk', heval⟩ := perform_evaluate disk answers_sample
      rw [hsession, heval])
    sampleRequest_authorized

/-- The sample session, its publisher adopted under another incarnation. -/
def sampleAdopted : Governor := (sampleReported.adopting ⟨1⟩ ⟨2⟩ ⟨1⟩ 0).saved

/-- What has to be computed about the decision of the sample session, and
about one after an adoption. -/
theorem revalidation_checks :
    (sampleDecided.revalidationOf sampleDecision).valid = true ∧
    (sampleLate.revalidationOf sampleDecision).valid = true ∧
    sampleReported.registration ⟨1⟩ =
      some { publisher := ⟨1⟩, incarnation := ⟨1⟩, epoch := ⟨1⟩, lastSequence := 3 } ∧
    (sampleAdopted.ruling .listed 0 sampleRequest).decision.newOversubscriptionAuthorized = true ∧
    ((sampleAdopted.ticking sampleRequest).findSlot ⟨1⟩ .capacity).any
      (fun slot => slot.state.revalidationRequired) = true := by
  decide +kernel

/-- The decision is valid right after it was made. -/
theorem revalidates_sampleDecision : Revalidates sampleDecided sampleDecision :=
  revalidates_of_valid roomy_sampleDecided.isOpen revalidation_checks.1

theorem revalidates_sampleLate : Revalidates sampleLate sampleDecision :=
  revalidates_of_valid sampleLate_isOpen revalidation_checks.2.1

def adoptCall : System.Call := ⟨.adoptIncarnation ⟨1⟩ ⟨2⟩ ⟨1⟩ 0, []⟩

theorem roomy_sampleAdopted : Roomy 95 sampleAdopted := roomy_sampleReported.adopting.saved

theorem sample_adopted (disk : Disk) : ∃ disk',
    System.step ⟨sampleReported, disk⟩ adoptCall = ⟨sampleAdopted, disk'⟩ :=
  ⟨_, System.step_of_perform (System.perform_of_completes (completes_replying
    (completes_adoptIncarnation rfl rfl rfl rfl revalidation_checks.2.2.1 (by decide)
      roomy_sampleReported.adopting.savable)))⟩

theorem sampleAdopted_authorized :
    (sampleAdopted.ruling .listed 0 sampleRequest).decision.newOversubscriptionAuthorized = true :=
  revalidation_checks.2.2.2.1

theorem sampleAdopted_flagged :
    ∃ slot, (sampleAdopted.ticking sampleRequest).findSlot ⟨1⟩ .capacity = some slot ∧
      slot.state.revalidationRequired = true :=
  (Option.any_eq_true _ _).mp revalidation_checks.2.2.2.2

/-- After an adoption an evaluation grants what `revalidate` refuses. -/
theorem evaluation_not_revalidated : ¬ ∀ (disk : Disk) (ts : List Step) (s : System)
    (c : System.Call) (order : MapOrder) (wall : UInt64) (request : EvaluationRequest) (d : Decision),
    SessionRun disk ts s → c.command = .evaluate order wall request →
      (s.perform c).1 = some (.decided (.ok d)) → d.newOversubscriptionAuthorized = true →
        Revalidates (s.step c).governor d := by
  intro h
  obtain ⟨disk₁, hsession⟩ := sample_session
  obtain ⟨disk₂, hadopted⟩ := sample_adopted disk₁
  have hanswers : Answers .listed 0 sampleAdopted sampleRequest := roomy_sampleAdopted.answers rfl
  obtain ⟨disk₃, heval⟩ := perform_evaluate disk₂ hanswers
  have hrun : SessionRun emptyDisk
      (Trace.play System.step (System.boot emptyDisk) (sampleCalls ++ [adoptCall]))
      ⟨sampleAdopted, disk₂⟩ := by
    have hfold : (sampleCalls ++ [adoptCall]).foldl System.step (System.boot emptyDisk) =
        ⟨sampleAdopted, disk₂⟩ := by
      rw [List.foldl_append, hsession, List.foldl_cons, hadopted, List.foldl_nil]
    exact Trace.run_play_foldl hfold
  have hauthorized := sampleAdopted_authorized
  have hvalid := h emptyDisk _ _ _ _ _ _ _ hrun rfl (congrArg Prod.fst heval) hauthorized
  rw [System.step_of_perform heval] at hvalid
  have hbound := (revalidates_iff_stillBound.mp hvalid).2
  have hlive : (sampleAdopted.ticking sampleRequest).Live :=
    (live_congr core_ticking).mpr (live_of_run hrun hanswers.isOpen)
  have hflags := (stillBound_withRuling hlive hauthorized).mp ((stillBound_congr core_decided).mp hbound)
  obtain ⟨slot, hslot, hflagged⟩ := sampleAdopted_flagged
  rw [hflags .capacity slot hslot] at hflagged
  cases hflagged

end Governor

end Oversub
