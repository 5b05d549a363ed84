import Oversub.Runtime.Authority
import Oversub.Runtime.Restart

/-!
# Oversub.Runtime.Revalidate

What `revalidate` is worth later on.  A decision that is still valid was made
in the session that goes on, and nothing that ends its authority has happened
since, as long as decisions find ids of their own: the counter behind them
starts over where every other counter of the runtime stops.
-/

namespace Oversub

open Crash Files Trace

namespace System

/-! ## Sessions -/

/-- A step inside a session. -/
structure InSession (s : System) (c : Call) : Prop where
  wasOpen : s.governor.isOpen = true
  later : s.governor.Later (s.step c).governor
  decidedLater : ¬ Step.ExhaustsIds ⟨s, c⟩ → ∀ domain,
    s.governor.DecidedLater (s.step c).governor domain

/-- An attempt to open a runtime that is open changes nothing. -/
theorem step_same {s : System} {c : Call} (h : ¬ Step.Reopens ⟨s, c⟩)
    (hopen : (s.step c).governor.isOpen = true) (hc : c.command.opens = true) :
    (s.step c).governor = s.governor := by
  obtain ⟨options, policy, hcommand⟩ := Command.opens_eq_true.mp hc
  have hwas : s.governor.isOpen = true := by
    by_contra hclosed
    exact h ⟨⟨options, policy, hcommand⟩, by simpa using hclosed, hopen⟩
  obtain ⟨x, hx, hgovernor⟩ := open_cases hcommand
  rcases hgovernor with rfl | ⟨_, hboot⟩
  · exact (hx.same hwas).1
  · rw [hboot] at hopen
    cases hopen

theorem inSession {s : System} {c : Call} (h : ¬ Step.Reopens ⟨s, c⟩)
    (hopen : (s.step c).governor.isOpen = true) : InSession s c := by
  cases hc : c.command.opens with
  | true =>
      have hsame := step_same h hopen hc
      refine ⟨hsame ▸ hopen, ?_, fun _ _ => ?_⟩
      · rw [hsame]
        exact Governor.later_refl
      · rw [hsame]
        exact Governor.decidedLater_refl
  | false =>
      obtain ⟨reply, x, heffect, _, hend⟩ := s.step_cases c hc
      rcases hend with ⟨_, rfl⟩ | ⟨_, hboot⟩
      · refine ⟨heffect.wasOpen hc hopen, heffect.later hc, fun hids domain => ?_⟩
        refine heffect.decidedLater hc fun hjournals => Governor.add_one_ne_zero_of_ne_max fun hmax => ?_
        exact hids ⟨Command.journals_eq_true.mp hjournals, hmax⟩
      · rw [hboot] at hopen
        cases hopen

/-- What holds between two points of a session. -/
structure Session (a s : System) (us : List Step) : Prop where
  wasOpen : a.governor.isOpen = true
  later : a.governor.Later s.governor
  decidedLater : (∀ t ∈ us, ¬ t.ExhaustsIds) → ∀ domain, a.governor.DecidedLater s.governor domain

/-- **Sessions**: a run on which no runtime was opened. -/
theorem session_of_run {a s : System} {us : List Step} (hrun : Run System.step a us s)
    (hsession : ∀ t ∈ us, ¬ t.Reopens) (hopen : s.governor.isOpen = true) : Session a s us := by
  induction hrun with
  | nil => exact ⟨hopen, Governor.later_refl, fun _ _ => Governor.decidedLater_refl⟩
  | snoc _ c ih =>
      rw [List.forall_mem_append, List.forall_mem_singleton] at hsession
      have hstep := inSession hsession.2 hopen
      have hbefore := ih hsession.1 hstep.wasOpen
      refine ⟨hbefore.wasOpen, hbefore.later.trans hstep.later, fun hids domain => ?_⟩
      rw [List.forall_mem_append, List.forall_mem_singleton] at hids
      exact (hbefore.decidedLater hids.1 domain).trans (hstep.decidedLater hids.2 domain)

/-- A call that leaves an open runtime has returned. -/
theorem effect_of_open {s : System} {c : Call} (hopen : (s.step c).governor.isOpen = true) :
    ∃ reply, (s.perform c).1 = some reply ∧
      Governor.Effect s.governor c.command reply (s.step c).governor := by
  rcases s.perform_cases c with h | ⟨_, hboot⟩
  · exact h
  · rw [hboot] at hopen
    cases hopen

end System

namespace Governor

/-! ## What ends the authority of a decision -/

section

variable {g g' : Governor} {c : Command} {reply : Reply} {domain : OversubscriptionDomainId}
  {kind : EvidenceKind} {n : UInt64}

/-- An accepted publication takes its slot to a later generation. -/
theorem Effect.generation_lt (h : Effect g c reply g') (hc : c.publication = some (domain, kind))
    (hacc : reply.accepted = some n) :
    (g.slotState domain kind).generation < (g'.slotState domain kind).generation := by
  obtain ⟨o, rfl, hok, hnew⟩ := Reply.accepted_eq_some hacc
  cases h with
  | kept hquiet => cases hquiet
  | @ingested σ K snapshot _ _ _ hpub h =>
      have hK := SnapshotKind.lawful_of_publication hpub
      obtain ⟨d, hheader⟩ := hK.header_digested snapshot
      have hdomain : (K.header (digested K snapshot)).domain = (K.header snapshot).domain := by
        rw [hheader]
      have hkey := Option.some.inj ((SnapshotKind.publication_eq hpub).symm.trans hc)
      obtain ⟨rfl, rfl⟩ := Prod.mk.inj hkey
      cases h with
      | refused ho => exact absurd hok (by simp [ho])
      | duplicated => cases hnew
      | unsaved _ ho => exact absurd hok (by simp [ho])
      | accepted _ _ _ hnext hcore =>
          have hslots : g'.slots = (g.published K (digested K snapshot)).slots :=
            core_congr (·.slots) (fun _ => rfl) hcore
          have hgeneration : ((g.published K (digested K snapshot)).slotState
              (K.header (digested K snapshot)).domain K.kind).generation =
                (g.slotState (K.header (digested K snapshot)).domain K.kind).generation + 1 :=
            generation_published hK
          rw [hdomain] at hgeneration hnext
          have hstate : g'.slotState (K.header snapshot).domain K.kind =
              (g.published K (digested K snapshot)).slotState (K.header snapshot).domain K.kind := by
            rw [slotState, slotState, findSlot_congr hslots]
          rw [hstate, hgeneration]
          exact lt_add_one_of_ne hnext

/-- An adoption that changes a registration flags the slots of the publisher. -/
theorem Effect.flags {publisher : PublisherId} {incarnation : IncarnationId} {epoch : FabricEpoch}
    {tick : UInt64} (h : Effect g (.adoptIncarnation publisher incarnation epoch tick) reply g')
    (hne : g'.registration publisher ≠ g.registration publisher) :
    g'.slots = (g.flagPublisher publisher).slots := by
  cases h with
  | kept _ hcore => exact absurd (core_congr (·.registration publisher) (fun _ => rfl) hcore) hne
  | stopped _ hcore =>
      exact absurd (core_congr (·.registration publisher) (fun _ => rfl) hcore) hne
  | registered hc => exact absurd rfl (hc publisher incarnation epoch tick)
  | adopted hcore => exact (core_congr (·.slots) (fun _ => rfl) hcore :)
  | ingested hpub => cases hpub

/-- A recorded decision is the last one for its domain. -/
theorem Effect.records {order : MapOrder} {wall tick : UInt64}
    (h : Effect g (.evaluate order wall ⟨domain, tick⟩) reply g')
    (hne : g'.state.decisionsIssued ≠ g.state.decisionsIssued) :
    g'.lastDecision domain = g.state.decisionsIssued + 1 ∧
      g'.state.decisionsIssued = g.state.decisionsIssued + 1 := by
  have hsame {x : Governor} (h : g'.core = x.core) :
      g'.state.decisionsIssued = x.state.decisionsIssued :=
    core_congr (·.state.decisionsIssued) (fun _ => rfl) h
  cases h with
  | kept _ hcore => exact absurd (hsame hcore) hne
  | stopped _ hcore => exact absurd (hsame hcore :) hne
  | registered _ hcore => exact absurd (hsame hcore :) hne
  | ingested hpub => cases hpub
  | evaluated h =>
      cases h with
      | refused hcore => exact absurd (hsame hcore) hne
      | recorded _ _ _ _ hcore =>
          refine ⟨?_, (hsame hcore :)⟩
          have hlast := core_congr (·.lastDecision domain) (fun _ => rfl) hcore
          rw [hlast, lastDecision, runtime_withRuling rule_working_domain]
          rfl

end

/-! ## Issued decisions -/

/-- The three slots a decision rests on, as `revalidate` looks them up. -/
theorem Grounds.checks {g : Governor} {domain : OversubscriptionDomainId} {tick : UInt64}
    {dc : DomainConfig} {sn : Snapshots} {authority : AuthorityVector}
    (h : Grounds g domain tick dc sn authority) :
    ∀ c ∈ slotChecks authority, c.2.1 = (g.slotState domain c.1).generation := by
  have hbound := h.vetted.bound
  have hcap : authority.capacityGeneration = ⟨(g.slotState domain .capacity).generation⟩ :=
    h.authority_eq ▸ hbound.capacityGeneration_eq
  have hres : authority.reservationGeneration = ⟨(g.slotState domain .reservation).generation⟩ :=
    h.authority_eq ▸ hbound.reservationGeneration_eq
  have hadm : authority.admissionGeneration = ⟨(g.slotState domain .admission).generation⟩ :=
    h.authority_eq ▸ hbound.admissionGeneration_eq
  simp [slotChecks, hcap, hres, hadm]

/-- What a decision says of the governor it was issued by. -/
structure IssuedBy (g : Governor) (domain : OversubscriptionDomainId) (d : Decision) : Prop where
  isOpen : g.isOpen = true
  incarnation : d.incarnation = g.state.incarnation
  epoch : d.epoch = g.state.epoch
  id : d.id.value = g.state.decisionsIssued
  domain_eq : d.evaluation.authorityValid = true → d.evaluation.authority.domain = domain
  policy : d.evaluation.authorityValid = true →
    d.evaluation.authority.policyGeneration = g.state.policy.generation
  slots : d.evaluation.authorityValid = true →
    ∀ c ∈ slotChecks d.evaluation.authority, c.2.1 = (g.slotState domain c.1).generation

theorem issuedBy_congr {g g' : Governor} {domain : OversubscriptionDomainId} {d : Decision}
    (h : g'.core = g.core) : IssuedBy g' domain d ↔ IssuedBy g domain d := by
  have hcore : ∀ g : Governor, IssuedBy g.core domain d = IssuedBy g domain d := fun g =>
    propext ⟨fun h => ⟨h.1, h.2, h.3, h.4, h.5, h.6, h.7⟩, fun h => ⟨h.1, h.2, h.3, h.4, h.5, h.6, h.7⟩⟩
  exact iff_of_eq (core_congr (fun g => IssuedBy g domain d) hcore h)

theorem issuedBy_withRuling {g : Governor} {order : MapOrder} {domain : OversubscriptionDomainId}
    {tick wall : UInt64} (hg : g.Live) (hopen : g.isOpen = true) :
    IssuedBy (g.withRuling domain (g.rule order domain tick wall)) domain
      (g.rule order domain tick wall).decision := by
  have hevaluation : (g.rule order domain tick wall).decision.evaluation =
      g.evaluationAt order domain tick := rfl
  have hincarnation : (g.rule order domain tick wall).decision.incarnation = g.state.incarnation :=
    rfl
  have hepoch : (g.rule order domain tick wall).decision.epoch = g.state.epoch := rfl
  have hgrounds : (g.evaluationAt order domain tick).authorityValid = true →
      ∃ dc sn, Grounds g domain tick dc sn (g.evaluationAt order domain tick).authority :=
    grounds_of_authorityValid hg
  generalize g.evaluationAt order domain tick = result at hevaluation hgrounds
  generalize g.rule order domain tick wall = r at hevaluation hincarnation hepoch
  rw [← hevaluation] at hgrounds
  exact {
    isOpen := hopen
    incarnation := hincarnation
    epoch := hepoch
    id := rfl
    domain_eq := fun h => by
      obtain ⟨dc, sn, hg⟩ := hgrounds h
      exact (congrArg AuthorityVector.domain hg.authority_eq).trans hg.id_eq
    policy := fun h => by
      obtain ⟨dc, sn, hg⟩ := hgrounds h
      exact (congrArg AuthorityVector.policyGeneration hg.authority_eq :)
    slots := fun h => by
      obtain ⟨dc, sn, hg⟩ := hgrounds h
      exact hg.checks }

/-- **Issued decisions** name the governor that has just recorded them. -/
theorem issuedBy_of_reply {disk : Disk} {ts : List Step} {s : System} (hrun : SessionRun disk ts s)
    {c : System.Call} {order : MapOrder} {wall : UInt64} {request : EvaluationRequest} {d : Decision}
    (hc : c.command = .evaluate order wall request)
    (hreply : (s.perform c).1 = some (.decided (.ok d))) :
    IssuedBy (s.step c).governor request.domain d := by
  have heffect := System.effect_of_reply hreply
  rw [hc] at heffect
  cases heffect.evaluates with
  | recorded hopen _ _ hruling hcore =>
      rw [issuedBy_congr hcore, hruling d rfl]
      exact issuedBy_withRuling (live_of_run hrun hopen) hopen

theorem slotCurrent_eq_true {g : Governor} {domain : OversubscriptionDomainId} {kind : EvidenceKind}
    {n : UInt64} : g.slotCurrent domain kind n = true ↔
      ∃ slot, g.findSlot domain kind = some slot ∧ slot.Current ∧ slot.state.generation = n := by
  unfold slotCurrent
  cases g.findSlot domain kind with
  | none => simp
  | some slot => simp [EvidenceSlot.Current]

/-- The slots of a decision that is still bound are at the generations it was
issued at. -/
theorem StillBound.slot {a g : Governor} {domain : OversubscriptionDomainId} {d : Decision}
    (h : StillBound g d) (ha : IssuedBy a domain d) (kind : EvidenceKind) :
    ∃ slot, g.findSlot domain kind = some slot ∧ slot.Current ∧
      slot.state.generation = (a.slotState domain kind).generation := by
  have hdomain := ha.domain_eq h.authorityValid
  have hslots := ha.slots h.authorityValid
  have hcheck : ∃ c ∈ slotChecks d.evaluation.authority, c.1 = kind := by
    cases kind <;> simp [slotChecks]
  obtain ⟨c, hc, rfl⟩ := hcheck
  have hcurrent := h.slots c hc
  rw [hdomain, hslots c hc] at hcurrent
  exact slotCurrent_eq_true.mp hcurrent

section

variable {a b g : Governor} {domain : OversubscriptionDomainId} {d : Decision}

/-- They have been in place at every point in between. -/
theorem StillBound.held (h : StillBound g d) (ha : IssuedBy a domain d) (hab : a.Later b)
    (hbg : b.Later g) (kind : EvidenceKind) :
    ∃ slot, b.findSlot domain kind = some slot ∧ slot.Current ∧
      slot.state.generation = (a.slotState domain kind).generation := by
  obtain ⟨slot, hslot, hcurrent, hgeneration⟩ := h.slot ha kind
  have hg : (g.slotState domain kind).generation = (a.slotState domain kind).generation := by
    rw [slotState_eq, slotOf_eq hslot, hgeneration]
  have hle := (hab.slots domain kind).generation_le
  have hge := (hbg.slots domain kind).generation_le
  rw [hg] at hge
  have hb : (b.slotState domain kind).generation = (a.slotState domain kind).generation :=
    UInt64.le_antisymm hge hle
  exact ⟨slot, (hbg.slots domain kind).unchanged hslot hcurrent (hg.trans hb.symm), hcurrent,
    hgeneration⟩

/-- The last decision for the domain of a decision that is still bound. -/
theorem StillBound.lastDecision (h : StillBound g d) (ha : IssuedBy a domain d) :
    g.lastDecision domain = 0 ∨ g.lastDecision domain = d.id.value := by
  have hdomain := ha.domain_eq h.authorityValid
  unfold Governor.lastDecision
  cases hr : g.runtime domain with
  | none => exact .inl rfl
  | some r =>
      have hlast := (h.runtime r (hdomain ▸ hr)).2
      by_cases hvalid : r.lastDecision.valid = true
      · exact .inr (congrArg StrongId.value (hlast hvalid))
      · refine .inl ?_
        simpa [StrongId.valid] using hvalid

end

end Governor

/-! ## Revalidation over runs -/

namespace Step

variable {t : Step} {a s : System} {domain : OversubscriptionDomainId} {d : Decision}

/-- A step between a decision and a point where it is still bound. -/
structure Between (a : System) (t : Step) (s : System) : Prop where
  isOpen : t.after.governor.isOpen = true
  before : a.governor.Later t.before.governor
  step : t.before.governor.Later t.after.governor
  after : t.after.governor.Later s.governor

variable (ht : Between a t s) (ha : Governor.IssuedBy a.governor domain d)
  (h : Governor.StillBound s.governor d)
include ht ha h

theorem not_advancesEpoch : ¬ t.AdvancesEpoch := by
  intro ⟨_, hne⟩
  have hepoch : s.governor.state.epoch.value = a.governor.state.epoch.value := by
    rw [← h.epoch, ← ha.epoch]
  have hle := UInt64.le_trans ht.before.epoch ht.step.epoch
  have hge := ht.after.epoch
  rw [hepoch] at hge
  have hafter := UInt64.le_antisymm hge hle
  have hbefore : t.before.governor.state.epoch.value = a.governor.state.epoch.value :=
    UInt64.le_antisymm (UInt64.le_trans ht.step.epoch hge) ht.before.epoch
  exact hne (congrArg FabricEpoch.mk (hafter.trans hbefore.symm))

theorem not_installsPolicy : ¬ t.InstallsPolicy := by
  intro ⟨_, hne⟩
  have hpolicy : s.governor.state.policy.generation.value =
      a.governor.state.policy.generation.value := by
    rw [← h.policyGeneration, ha.policy h.authorityValid]
  have hlt := ht.step.policy.resolve_left hne
  have hle := UInt64.lt_of_le_of_lt ht.before.policy_le hlt
  have hge := ht.after.policy_le
  rw [hpolicy] at hge
  exact UInt64.lt_irrefl _ (UInt64.lt_of_lt_of_le hle hge)

theorem not_accepts (kind : EvidenceKind) : ¬ t.Accepts domain kind := by
  intro ⟨hpub, reply, generation, hreply, hacc⟩
  obtain ⟨slot, hslot, _, hgeneration⟩ := h.held ha ht.before (ht.step.trans ht.after) kind
  obtain ⟨slot', hslot', _, hgeneration'⟩ := h.held ha (ht.before.trans ht.step) ht.after kind
  have hlt := (System.effect_of_reply hreply).generation_lt hpub hacc
  have hafter : t.before.step t.label = t.after := rfl
  rw [hafter, Governor.slotState_eq, Governor.slotState_eq, Governor.slotOf_eq hslot,
    Governor.slotOf_eq hslot', hgeneration, hgeneration'] at hlt
  exact UInt64.lt_irrefl _ hlt

theorem not_adopts {publisher : PublisherId} (hadopts : t.Adopts publisher) (kind : EvidenceKind)
    (slot : EvidenceSlot) (hslot : t.before.governor.findSlot domain kind = some slot) :
    slot.state.publisher ≠ publisher := by
  intro hpublisher
  obtain ⟨⟨incarnation, epoch, tick, hcommand⟩, hne⟩ := hadopts
  obtain ⟨reply, _, heffect⟩ := System.effect_of_open ht.isOpen
  replace hcommand : t.label.command = .adoptIncarnation publisher incarnation epoch tick := hcommand
  rw [hcommand] at heffect
  have hflags := heffect.flags hne
  obtain ⟨slot', hslot', hcurrent, _⟩ := h.held ha (ht.before.trans ht.step) ht.after kind
  have hfind : t.after.governor.findSlot domain kind =
      (t.before.governor.findSlot domain kind).map _ :=
    (Governor.findSlot_congr hflags).trans (Governor.findSlot_map fun slot => by split <;> rfl)
  rw [hslot, Option.map_some, if_pos hpublisher] at hfind
  obtain rfl := Option.some.inj (hfind.symm.trans hslot')
  exact absurd hcurrent.2 (by simp)

theorem not_records (hids : ¬ t.ExhaustsIds)
    (hbefore : a.governor.DecidedLater t.before.governor domain)
    (hafter : t.after.governor.DecidedLater s.governor domain) : ¬ t.Records domain := by
  intro ⟨⟨order, wall, tick, hcommand⟩, hne⟩
  obtain ⟨reply, _, heffect⟩ := System.effect_of_open ht.isOpen
  replace hcommand : t.label.command = .evaluate order wall ⟨domain, tick⟩ := hcommand
  rw [hcommand] at heffect
  obtain ⟨hlast, hissued⟩ := heffect.records hne
  have hnext : t.before.governor.state.decisionsIssued + 1 ≠ 0 :=
    Governor.add_one_ne_zero_of_ne_max fun hmax => hids ⟨⟨order, wall, _, hcommand⟩, hmax⟩
  -- the decision of this step, or a later one, is the last one for the domain
  have hlt : d.id.value < s.governor.lastDecision domain := by
    rw [ha.id]
    have hlater := UInt64.lt_of_le_of_lt hbefore.issued (Governor.lt_add_one_of_ne hnext)
    rcases hafter.last with hsame | hnewer
    · rw [hsame]
      exact hlast ▸ hlater
    · rw [show t.after.governor.state.decisionsIssued = _ from hissued] at hnewer
      exact UInt64.lt_trans hlater hnewer
  rcases h.lastDecision ha with hzero | hsame
  · rw [hzero] at hlt
    exact absurd hlt (by simp)
  · rw [hsame] at hlt
    exact UInt64.lt_irrefl _ hlt

end Step

/-- A decision that is still bound was made in the session that goes on. -/
theorem Governor.StillBound.not_reopened {disk : Disk} {ts us : List Step} {a s : System}
    {domain : OversubscriptionDomainId} {d : Decision} (hrun : SessionRun disk ts a)
    (hus : Run System.step a us s) (h : Governor.StillBound s.governor d)
    (hopen : s.governor.isOpen = true) (ha : Governor.IssuedBy a.governor domain d) :
    ∀ t ∈ us, ¬ t.Reopens := by
  intro t ht hreopens
  obtain ⟨us₁, us₂, rfl⟩ := List.append_of_mem ht
  obtain ⟨hbefore, hafter⟩ := hus.at_step
  have hrun' := hrun.append hbefore
  have hsince := (since_of_run hrun ha.isOpen).of_run hrun hbefore
  obtain ⟨m, hlt, hm⟩ := System.since_reopened hsince hreopens
  have hstep : SessionRun disk _ (t.before.step t.label) := hrun'.snoc t.label
  have hle := (hm.of_run hstep hafter).incarnation hopen
  rw [← h.incarnation, ha.incarnation] at hle
  exact UInt64.lt_irrefl _ (UInt64.lt_of_lt_of_le hlt hle)

namespace Governor

/-- The state of a runtime that has issued all ids but one. -/
def spentState (policy : OversubscriptionPolicy) : DurableState :=
  { freshState policy with
    decisionsIssued := 18446744073709551614
    domains := [{
      domain := ⟨1⟩
      generation := ⟨1⟩
      lastDecision := ⟨18446744073709551614⟩ }] }

theorem digest_spentState {policy : OversubscriptionPolicy} :
    (spentState policy).policyDigest = (spentState policy).policy.digest := rfl

def spentDisk : Disk := withState emptyDisk (spentState (initialPolicy samplePolicy))

/-- The runtime that takes it over. -/
def spentRecovered : Governor :=
  ({} : Governor).recovered sampleOptions spentDisk (spentState (initialPolicy samplePolicy)) []

def spentStarted : Governor := spentRecovered.live

/-- With evidence of each kind. -/
def spentReported : Governor :=
  (staffed spentStarted).reporting (nthCapacity 1 100) (nthReservations 2) (nthAdmissions 3 50)

/-- Its first decision takes the last id. -/
def spentDecision : Decision := (spentReported.ruling .listed 0 sampleRequest).decision

def spentDecided : Governor := spentReported.decided .listed 0 sampleRequest

/-- The runtime after its second decision, whose id is 0. -/
def spentAgain : Governor := spentDecided.decided .listed 0 sampleRequest

/-- What has to be computed to open it. -/
theorem spent_bounds :
    (spentState (initialPolicy samplePolicy)).size ≤ 4096 ∧
    SummariesFit spentRecovered.state.audit ∧
    spentRecovered.size ≤ 4096 ∧
    spentRecovered.state.publishers = [] ∧
    spentRecovered.state.domains.length ≤ 1 ∧
    spentRecovered.store.journalBytes = 0 ∧
    spentRecovered.store.journalRecords = 0 ∧
    spentRecovered.state.epoch.value = 1 := by
  decide +kernel

/-- What has to be computed for its session. -/
theorem spent_checks :
    admitted capacityKind (staffed spentStarted) (nthCapacity 1 100) = true ∧
    admitted reservationKind (taking capacityKind (staffed spentStarted) (nthCapacity 1 100))
      (nthReservations 2) = true ∧
    admitted admissionKind
      (taking reservationKind (taking capacityKind (staffed spentStarted) (nthCapacity 1 100))
        (nthReservations 2)) (nthAdmissions 3 50) = true ∧
    (spentAgain.revalidationOf spentDecision).valid = true ∧
    spentAgain.state.decisionsIssued ≠ spentDecided.state.decisionsIssued := by
  decide +kernel

theorem readable_spent :
    Readable sampleOptions spentDisk (spentState (initialPolicy samplePolicy)) [] where
  state_eq := withState_state
  journal := reads_nil withState_journal
  summaries := nofun
  policy := initialPolicy_sample
  digest := digest_spentState
  fits := ⟨rfl, Nat.zero_le _, (by decide : 1 ≤ kMaxDomainsState), Nat.zero_le _, Nat.zero_le _⟩
  bytes := by
    have hle := length_writeState_le (s := spentState (initialPolicy samplePolicy)) nofun
    have hsize := spent_bounds.1
    exact Nat.le_trans (Nat.le_trans hle hsize) (by decide)
  bound := by
    have hle := length_writeState_le (s := spentState (initialPolicy samplePolicy)) nofun
    have hsize := spent_bounds.1
    exact Nat.le_trans (Nat.add_le_add_right (Nat.le_trans hle hsize) 56) (by decide)

theorem savable_spent : Savable spentRecovered :=
  savable_of_size rfl spent_bounds.2.1 (Nat.le_trans spent_bounds.2.2.1 (by decide))

theorem roomy_spent : Roomy 100 spentStarted := by
  obtain ⟨-, hsummaries, hsize, hpublishers, hdomains, hbytes, hrecords, -⟩ := spent_bounds
  refine roomy_live rfl hsummaries ?_ ?_ ?_ ?_ ?_ (by decide)
  · exact Nat.le_trans (Nat.add_le_add_right hsize _) (by decide)
  · rw [hpublishers]
    decide
  · exact Nat.le_trans (Nat.add_le_add_right hdomains _) (by decide)
  · rw [hbytes]
    decide
  · rw [hrecords]
    decide

theorem spent_started : ∃ disk, (System.boot spentDisk).step (openCall samplePolicy) =
    ⟨spentStarted, disk⟩ :=
  ⟨_, System.step_of_perform (System.perform_of_completes (completes_replying
    (completes_open_recovered rfl accepts_sample readable_spent (by decide) savable_spent)))⟩

theorem spent_staffed (disk : Disk) : ∃ disk',
    System.step ⟨spentStarted, disk⟩ registerCall = ⟨staffed spentStarted, disk'⟩ :=
  step_register disk roomy_spent spent_bounds.2.2.2.2.2.2.2 spent_bounds.2.2.2.1

theorem spent_session : ∃ disk,
    sampleCalls.foldl System.step (System.boot spentDisk) = ⟨spentReported, disk⟩ := by
  obtain ⟨disk₁, h₁⟩ := spent_started
  obtain ⟨disk₂, h₂⟩ := spent_staffed disk₁
  rw [sampleCalls, List.foldl_cons, List.foldl_cons, h₁, h₂]
  refine foldl_reportCalls ?_ ?_ ?_
  · exact takes_of_admitted roomy_spent.staffed (.capacity _) spent_checks.1
  · exact takes_of_admitted roomy_spent.staffed.taking (.reservations _) spent_checks.2.1
  · exact takes_of_admitted roomy_spent.staffed.taking.taking (.admissions _) spent_checks.2.2.1

theorem roomy_spentReported : Roomy 96 spentReported := roomy_spent.staffed.taking.taking.taking

theorem answers_spent : Answers .listed 0 spentReported sampleRequest :=
  roomy_spentReported.answers rfl

theorem roomy_spentDecided : Roomy 95 spentDecided := roomy_spentReported.decided rfl

theorem answers_spentDecided : Answers .listed 0 spentDecided sampleRequest :=
  roomy_spentDecided.answers rfl

theorem roomy_spentAgain : Roomy 94 spentAgain := roomy_spentDecided.decided rfl

theorem spent_decided (disk : Disk) : ∃ disk', System.perform ⟨spentReported, disk⟩ evaluateCall =
    (some (.decided (.ok spentDecision)), ⟨spentDecided, disk'⟩) := perform_evaluate disk answers_spent

theorem spent_again (disk : Disk) : ∃ disk', System.step ⟨spentDecided, disk⟩ evaluateCall =
    ⟨spentAgain, disk'⟩ := by
  obtain ⟨disk', h⟩ := perform_evaluate disk answers_spentDecided
  exact ⟨disk', System.step_of_perform h⟩

theorem revalidates_spentDecision : Revalidates spentAgain spentDecision :=
  revalidates_of_valid roomy_spentAgain.isOpen spent_checks.2.2.2.1

theorem records_of_step {s s' : System} {call : System.Call} {order : MapOrder} {wall tick : UInt64}
    {domain : OversubscriptionDomainId} (h : s.step call = s')
    (hcommand : call.command = .evaluate order wall ⟨domain, tick⟩)
    (hne : s'.governor.state.decisionsIssued ≠ s.governor.state.decisionsIssued) :
    Step.Records ⟨s, call⟩ domain := by
  subst h
  exact ⟨⟨order, wall, tick, hcommand⟩, hne⟩

end Governor

end Oversub
