import Oversub.Runtime.Clock

/-!
# Oversub.Runtime.Expiry

How long the evidence of a decision stays within its budgets.  Revalidation
finds the evidence in place but does not look at the clock, so a decision that
it reports as valid rests on fresh evidence exactly as long as the clock has
not used up what the budgets had left when the decision was made.
-/

namespace Oversub

open Crash Files Trace

/-! ## Budgets -/

/-- The ticks that a budget has left for a snapshot. -/
def leftover (tick observed budget : UInt64) : Nat :=
  budget.toNat - (tick.toNat - observed.toNat)

/-- A fresh snapshot stays fresh for what its budget has left. -/
theorem freshAt_later {tick now observed budget : UInt64} (h : FreshAt tick observed budget)
    (hle : tick ≤ now) :
    FreshAt now observed budget ↔ now.toNat - tick.toNat ≤ leftover tick observed budget := by
  unfold FreshAt leftover at *
  rw [UInt64.le_iff_toNat_le] at hle
  omega

/-- The least that the budgets of three snapshots have left. -/
def Snapshots.slack (policy : OversubscriptionPolicy) (sn : Snapshots) (tick : UInt64) : Nat :=
  min (leftover tick sn.cap.observedTick policy.maxCapacityAgeTicks)
    (min (leftover tick sn.res.observedTick policy.maxReservationAgeTicks)
      (leftover tick sn.adm.observedTick policy.maxAdmissionAgeTicks))

theorem fresh_later {policy : OversubscriptionPolicy} {sn : Snapshots} {tick now : UInt64}
    (h : Fresh policy sn tick) (hle : tick ≤ now) :
    Fresh policy sn now ↔ now.toNat - tick.toNat ≤ sn.slack policy tick := by
  have hcap := freshAt_later h.capacity hle
  have hres := freshAt_later h.reservations hle
  have hadm := freshAt_later h.admissions hle
  unfold Snapshots.slack
  rw [le_min_iff, le_min_iff, ← hcap, ← hres, ← hadm]
  exact ⟨fun h => ⟨h.1, h.2, h.3⟩, fun h => ⟨h.1, h.2.1, h.2.2⟩⟩

namespace Governor

variable {g : Governor} {domain : OversubscriptionDomainId} {sn : Snapshots}

/-- The three snapshots a governor holds for a domain are within their budgets
at its clock. -/
def EvidenceFresh (g : Governor) (domain : OversubscriptionDomainId) : Prop :=
  ∃ sn : Snapshots, g.evidenceFor domain = sn.evidence ∧ Fresh g.state.policy sn g.clock.tick

/-- The least that the budgets of the evidence for a domain have left. -/
def slack (g : Governor) (domain : OversubscriptionDomainId) (tick : UInt64) : Nat :=
  match g.evidenceFor domain with
  | ⟨some cap, some res, some adm⟩ => Snapshots.slack g.state.policy ⟨cap, res, adm⟩ tick
  | _ => 0

theorem slack_eq {tick : UInt64} (h : g.evidenceFor domain = sn.evidence) :
    g.slack domain tick = sn.slack g.state.policy tick := by
  rw [slack, h]
  rfl

theorem evidenceFresh_iff (h : g.evidenceFor domain = sn.evidence) :
    g.EvidenceFresh domain ↔ Fresh g.state.policy sn g.clock.tick := by
  constructor
  · intro ⟨sn', hsn', hfresh⟩
    rw [h] at hsn'
    injection hsn' with hcap hres hadm
    obtain rfl : sn = sn' := by
      cases sn
      cases sn'
      cases hcap
      cases hres
      cases hadm
      rfl
    exact hfresh
  · exact fun hfresh => ⟨sn, h, hfresh⟩

theorem evidenceFor_congr {g' : Governor}
    (h : ∀ kind, g'.findSlot domain kind = g.findSlot domain kind) :
    g'.evidenceFor domain = g.evidenceFor domain := by
  unfold evidenceFor offered
  rw [h, h, h]

end Governor

/-! ## Revalidation and the clock -/

/-- Where an evaluation leaves the clock. -/
theorem timely_of_reply {s : System} {c : System.Call} {order : MapOrder} {wall : UInt64}
    {request : EvaluationRequest} {result : Except Status Decision}
    (hc : c.command = .evaluate order wall request)
    (hreply : (s.perform c).1 = some (.decided result)) :
    Governor.Timely (max request.tick s.governor.clock.tick) s.governor
      (result, (s.step c).governor) := by
  obtain ⟨governor, w, hp, hs⟩ := System.perform_eq_some hreply
  rw [hc, Command.perform, replying] at hp
  have hmeets : Meets (s.governor.evaluate order wall request >>= fun r =>
      pure (Reply.decided r.1, r.2))
      (fun r _ => ∀ result, r.1 = .decided result →
        Governor.Timely (max request.tick s.governor.clock.tick) s.governor (result, r.2))
      (fun _ => True) ⟨s.disk, c.fates⟩ := by
    rw [meets_bind]
    refine (Governor.clock_evaluate _).mono (fun r _ h result hresult => ?_) fun _ => id
    injection hresult with hresult
    exact hresult ▸ h
  rw [hs]
  exact hmeets.returned hp result rfl

/-- A decision is issued at the tick the clock then stands at. -/
theorem issuedTick_of_reply {s : System} {c : System.Call} {order : MapOrder} {wall : UInt64}
    {request : EvaluationRequest} {d : Decision} (hc : c.command = .evaluate order wall request)
    (hreply : (s.perform c).1 = some (.decided (.ok d))) :
    (s.step c).governor.clock.tick = d.issuedTick := (timely_of_reply hc hreply).2 d rfl

/-- What an evaluation that issues a decision leaves behind. -/
theorem Governor.ruling_of_reply {s : System} {c : System.Call} {order : MapOrder} {wall : UInt64}
    {request : EvaluationRequest} {d : Decision} (hc : c.command = .evaluate order wall request)
    (hreply : (s.perform c).1 = some (.decided (.ok d))) :
    s.governor.isOpen = true ∧ d = (s.governor.rule order request.domain d.issuedTick wall).decision ∧
      (s.step c).governor.core = (s.governor.withRuling request.domain
        (s.governor.rule order request.domain d.issuedTick wall)).core := by
  have heffect := System.effect_of_reply hreply
  rw [hc] at heffect
  cases heffect.evaluates with
  | @recorded tick _ _ hopen _ _ hruling hcore =>
      have hd := hruling d rfl
      have htick : d.issuedTick = tick := by rw [hd, issuedTick_rule]
      rw [htick]
      exact ⟨hopen, hd, hcore⟩

/-- A decision is issued at the tick of its request, unless that has passed. -/
theorem Governor.issuedTick_eq {s : System} {c : System.Call} {order : MapOrder} {wall : UInt64}
    {request : EvaluationRequest} {d : Decision} (hc : c.command = .evaluate order wall request)
    (hreply : (s.perform c).1 = some (.decided (.ok d))) :
    d.issuedTick = max request.tick s.governor.clock.tick := by
  have heffect := System.effect_of_reply hreply
  rw [hc] at heffect
  cases heffect.evaluates with
  | recorded _ _ htick hruling => rw [hruling d rfl, issuedTick_rule, htick]

/-- **Quiet telemetry**: the evidence of a decision that is still valid is in
place, and fresh exactly as long as the clock has not used up its budgets. -/
theorem revalidation_fresh_iff {disk : Disk} {ts us : List Step} {x : Step} {s : System}
    {order : MapOrder} {wall : UInt64} {request : EvaluationRequest} {d : Decision}
    (hrun : SessionRun disk (ts ++ x :: us) s) (hx : x.command = .evaluate order wall request)
    (hd : x.reply = some (.decided (.ok d))) (hauthorized : d.newOversubscriptionAuthorized = true)
    (hvalid : Governor.Revalidates s.governor d) :
    s.governor.evidenceFor request.domain = x.before.governor.evidenceFor request.domain ∧
      (s.governor.EvidenceFresh request.domain ↔
        s.governor.clock.tick.toNat - d.issuedTick.toNat ≤
          x.before.governor.slack request.domain d.issuedTick) := by
  obtain ⟨hopen, hbound⟩ := Governor.revalidates_iff_stillBound.mp hvalid
  obtain ⟨hts, hus⟩ := hrun.at_step
  replace hus : Run System.step (x.before.step x.label) us s := hus
  have ha := Governor.issuedBy_of_reply hts hx hd
  have hstart : SessionRun disk _ (x.before.step x.label) := hts.snoc x.label
  have hsession := hbound.not_reopened hstart hus hopen ha
  have hlater := (System.session_of_run hus hsession hopen).later
  have hclock := clock_of_run hus hsession hopen
  have htick : (x.before.step x.label).governor.clock.tick = d.issuedTick :=
    issuedTick_of_reply hx hd
  replace hclock : d.issuedTick ≤ s.governor.clock.tick := htick ▸ hclock
  have hslots (kind : EvidenceKind) : s.governor.findSlot request.domain kind =
      (x.before.step x.label).governor.findSlot request.domain kind := by
    obtain ⟨slot, hslot, hcurrent, hgeneration⟩ := hbound.slot ha kind
    have hg : (s.governor.slotState request.domain kind).generation =
        ((x.before.step x.label).governor.slotState request.domain kind).generation := by
      rw [Governor.slotState_eq, Governor.slotOf_eq hslot, hgeneration]
    rw [hslot, (hlater.slots request.domain kind).unchanged hslot hcurrent hg]
  have hpolicy : s.governor.state.policy = (x.before.step x.label).governor.state.policy := by
    refine hlater.policy.resolve_right fun hlt => ?_
    rw [← hbound.policyGeneration, ha.policy hbound.authorityValid] at hlt
    exact UInt64.lt_irrefl _ hlt
  obtain ⟨hgov, hruling, hcore⟩ := Governor.ruling_of_reply hx hd
  have hkept : (x.before.step x.label).governor.slots = x.before.governor.slots :=
    (Governor.core_congr (·.slots) (fun _ => rfl) hcore :)
  have hsame : (x.before.step x.label).governor.state.policy = x.before.governor.state.policy :=
    (Governor.core_congr (·.state.policy) (fun _ => rfl) hcore :)
  have hevidence : s.governor.evidenceFor request.domain =
      x.before.governor.evidenceFor request.domain :=
    Governor.evidenceFor_congr fun kind => (hslots kind).trans (Governor.findSlot_congr hkept)
  rw [hruling] at hauthorized
  obtain ⟨dc, sn, hgrounds⟩ := Governor.grounds_of_authorityValid (live_of_run hts hgov)
    (Governor.authorityValid_of_authorized (Governor.authorized_spec hauthorized).2)
  refine ⟨hevidence, ?_⟩
  rw [Governor.evidenceFresh_iff (hevidence.trans hgrounds.evidence),
    Governor.slack_eq hgrounds.evidence, hpolicy.trans hsame]
  exact fresh_later hgrounds.vetted.fresh hclock

namespace Governor

theorem revalidation_fresh_sample :
    (sampleSystem.step evaluateCall).governor.evidenceFor sampleRequest.domain =
        sampleSystem.governor.evidenceFor sampleRequest.domain ∧
      ((sampleSystem.step evaluateCall).governor.EvidenceFresh sampleRequest.domain ↔
        (sampleSystem.step evaluateCall).governor.clock.tick.toNat - sampleDecision.issuedTick.toNat ≤
          sampleSystem.governor.slack sampleRequest.domain sampleDecision.issuedTick) := by
  obtain ⟨disk, hdecided⟩ := sampleSystem_decided
  have hvalid : Revalidates (sampleSystem.step evaluateCall).governor sampleDecision := by
    rw [System.step_of_perform hdecided]
    exact revalidates_sampleDecision
  have hreply : Step.reply ⟨sampleSystem, evaluateCall⟩ = some (.decided (.ok sampleDecision)) :=
    System.reply_of_perform hdecided
  have hcommand : Step.command ⟨sampleSystem, evaluateCall⟩ = .evaluate .listed 0 sampleRequest := rfl
  have hrun := sampleSystem_run []
  rw [List.foldl_nil] at hrun
  have hfresh := revalidation_fresh_iff hrun hcommand hreply sampleRequest_authorized hvalid
  exact hfresh

/-- The capacity it still holds has expired. -/
theorem sampleLate_expired : (sampleLate.evidenceFor ⟨1⟩).capacity.all (fun cap =>
    !decide (FreshAt 1000000 cap.observedTick sampleLate.state.policy.maxCapacityAgeTicks)) = true := by
  decide +kernel

/-- Once its evidence has expired, a decision is still reported as valid. -/
theorem expired_revalidates : ¬ ∀ (disk : Disk) (ts us : List Step) (x : Step) (s : System)
    (order : MapOrder) (wall : UInt64) (request : EvaluationRequest) (d : Decision),
    SessionRun disk (ts ++ x :: us) s → x.command = .evaluate order wall request →
      x.reply = some (.decided (.ok d)) → d.newOversubscriptionAuthorized = true →
        Revalidates s.governor d → s.governor.EvidenceFresh request.domain := by
  intro h
  obtain ⟨disk, hdecided⟩ := sampleSystem_decided
  have hlate : [tickCall].foldl System.step (sampleSystem.step evaluateCall) =
      ⟨sampleLate, disk⟩ := by
    rw [System.step_of_perform hdecided, List.foldl_cons, System.step_of_perform sample_late,
      List.foldl_nil]
  have hrun := sampleSystem_run [tickCall]
  rw [hlate] at hrun
  have hreply : Step.reply ⟨sampleSystem, evaluateCall⟩ = some (.decided (.ok sampleDecision)) :=
    System.reply_of_perform hdecided
  obtain ⟨sn, hsn, hfresh⟩ := h emptyDisk _ _ _ _ .listed 0 sampleRequest sampleDecision hrun rfl
    hreply sampleRequest_authorized revalidates_sampleLate
  have hexpired := sampleLate_expired
  have hcapacity : (sampleLate.evidenceFor ⟨1⟩).capacity = some sn.cap :=
    congrArg DomainEvidence.capacity hsn
  rw [hcapacity, Option.all_some, Bool.not_eq_true', decide_eq_false_iff_not] at hexpired
  exact hexpired hfresh.capacity

end Governor

end Oversub
