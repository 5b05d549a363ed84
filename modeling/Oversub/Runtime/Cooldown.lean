import Oversub.Runtime.Hysteresis

/-!
# Oversub.Runtime.Cooldown

What an escalation keeps away: until its cooldown is over, no decision for the
domain grants.  The escalation has to be recorded for that: a first decision
is not, and neither is one that follows a change of the epoch.
-/

namespace Oversub

open Crash Files Trace

namespace Governor

/-! ## The runtime state of a domain over a call -/

/-- The runtime state of a domain after a change of the epoch. -/
def fencedBy (next : FabricEpoch) (d : DomainRuntimeState) : DomainRuntimeState :=
  { d with
    fenced := true
    fenceReason := ReasonCode.epochMismatch.code
    fenceEpoch := next
    stickyOutcome := Outcome.stale.code }

section

variable {g g' : Governor} {c : Command} {reply : Reply} {domain : OversubscriptionDomainId}

theorem runtime_withEpoch {next : FabricEpoch} :
    (g.withEpoch next).runtime domain = (g.runtime domain).map (fencedBy next) :=
  Table.get_map fun _ => rfl

theorem runtime_congr (h : g'.core = g.core) : g'.runtime domain = g.runtime domain :=
  core_congr (fun g => g.runtime domain) (fun _ => rfl) h

theorem policy_congr (h : g'.core = g.core) : g'.state.policy = g.state.policy :=
  core_congr (fun g => g.state.policy) (fun _ => rfl) h

/-- A runtime state is touched by a change of the epoch, and by a decision for
its domain. -/
theorem Effect.runtime_cases (h : Effect g c reply g') (hc : c.opens = false)
    (domain : OversubscriptionDomainId) :
    g'.runtime domain = g.runtime domain ∨
      (∃ next, c = .advanceEpoch next ∧ g'.runtime domain = (g.runtime domain).map (fencedBy next)) ∨
      ∃ order wall request result, c = .evaluate order wall request ∧ reply = .decided result ∧
        request.domain = domain ∧ g'.runtime domain =
          some (g.rule order domain (max request.tick g.clock.tick) wall).working := by
  cases h with
  | kept _ hcore => exact .inl (runtime_congr hcore)
  | opened => cases hc
  | stopped _ hcore => exact .inl ((runtime_congr hcore).trans rfl)
  | installed _ _ hcore => exact .inl ((runtime_congr hcore).trans rfl)
  | @advanced next _ _ _ hcore =>
      exact .inr (.inl ⟨next, rfl, (runtime_congr hcore).trans runtime_withEpoch⟩)
  | registered _ hcore => exact .inl ((runtime_congr hcore).trans rfl)
  | adopted hcore => exact .inl ((runtime_congr hcore).trans rfl)
  | ingested _ h => exact .inl (rest_congr (fun g => g.runtime domain) (fun _ => rfl) h.rest :)
  | @evaluated order wall request result _ h =>
      cases h with
      | refused hcore => exact .inl (runtime_congr hcore)
      | recorded _ _ htick _ hcore =>
          subst htick
          by_cases hdomain : request.domain = domain
          · subst hdomain
            exact .inr (.inr ⟨order, wall, request, result, rfl, rfl, rfl,
              (runtime_congr hcore).trans (runtime_withRuling rule_working_domain)⟩)
          · exact .inl ((runtime_congr hcore).trans
              (runtime_withRuling_ne rule_working_domain (Ne.symm hdomain)))

/-- The policy is touched by an installation only. -/
theorem Effect.policy_eq (h : Effect g c reply g') (hc : c.opens = false)
    (hinstall : ∀ policy tick, c ≠ .installPolicy policy tick) :
    g'.state.policy = g.state.policy := by
  cases h with
  | kept _ hcore => exact policy_congr hcore
  | opened => cases hc
  | stopped _ hcore => exact (policy_congr hcore).trans rfl
  | installed => exact absurd rfl (hinstall _ _)
  | advanced _ hcore => exact (policy_congr hcore).trans rfl
  | registered _ hcore => exact (policy_congr hcore).trans rfl
  | adopted hcore => exact (policy_congr hcore).trans rfl
  | ingested _ h => exact (rest_congr (fun g => g.state.policy) (fun _ => rfl) h.rest :)
  | evaluated h =>
      cases h with
      | refused hcore => exact policy_congr hcore
      | recorded _ _ _ _ hcore => exact (policy_congr hcore).trans rfl

end

/-! ## Cooling -/

/-- A domain whose restriction was recorded at a tick, or later. -/
structure Cooling (since : UInt64) (r : DomainRuntimeState) : Prop where
  sticky : 2 ≤ r.stickyOutcome.severity
  since : since ≤ r.lastEscalationTick

section

variable {hysteresis : HysteresisPolicy} {result : EvaluationResult} {since tick : UInt64}
  {working : DomainRuntimeState}

/-- Until the cooldown is over, nothing relaxes. -/
theorem Cooling.not_mayRelax (h : Cooling since working)
    (htick : tick.toNat < since.toNat + hysteresis.cooldownTicks.toNat) :
    ¬ MayRelax hysteresis result tick working := by
  intro hrelax
  have hsince := UInt64.le_iff_toNat_le.mp h.since
  have hle := UInt64.le_iff_toNat_le.mp hrelax.since
  have hcooldown := UInt64.le_iff_toNat_le.mp hrelax.cooldown
  rw [UInt64.toNat_sub_of_le _ _ hrelax.since] at hcooldown
  omega

/-- An evaluation within the cooldown leaves the domain cooling. -/
theorem Cooling.weighed (h : Cooling since working) (hle : since ≤ tick)
    (htick : tick.toNat < since.toNat + hysteresis.cooldownTicks.toNat) :
    Cooling since (applyHysteresis hysteresis result tick working).1 ∧
      2 ≤ (applyHysteresis hysteresis result tick working).2.severity := by
  have hweighs : Weighs hysteresis result tick working
      (applyHysteresis hysteresis result tick working) := weighs_applyHysteresis
  have hnot : ¬ MayRelax hysteresis result tick working := h.not_mayRelax htick
  have hsticky := h.sticky
  generalize applyHysteresis hysteresis result tick working = r at hweighs ⊢
  cases hweighs with
  | restricted hraw =>
      simp only [Code.severity_code]
      refine ⟨⟨by simpa using hraw, ?_⟩, hraw⟩
      dsimp only
      split
      · exact hle
      · exact h.since
  | held => exact ⟨⟨hsticky, h.since⟩, hsticky⟩
  | limited _ _ hlow => omega
  | clear _ hlow => omega
  | confirmed _ hrelax => exact absurd hrelax hnot
  | relaxed _ hrelax => exact absurd hrelax hnot

/-- An outcome that restricts more than the sticky one starts a cooldown. -/
theorem cooling_of_escalation (hlow : working.stickyOutcome.severity < result.outcome.severity)
    (heffective : 2 ≤ (applyHysteresis hysteresis result tick working).2.severity) :
    Cooling tick (applyHysteresis hysteresis result tick working).1 := by
  have hweighs : Weighs hysteresis result tick working
      (applyHysteresis hysteresis result tick working) := weighs_applyHysteresis
  generalize applyHysteresis hysteresis result tick working = r at hweighs heffective ⊢
  have hwithin : Outcome.withinPolicy.severity = 0 := rfl
  have hlimit : Outcome.atLimit.severity = 1 := rfl
  cases hweighs with
  | restricted hraw =>
      refine ⟨by simpa using hraw, ?_⟩
      dsimp only
      rw [if_pos hlow]
      exact UInt64.le_refl _
  | held _ hsticky => omega
  | limited =>
      dsimp only at heffective
      split at heffective
      all_goals
        rw [Code.severity_code] at heffective
        omega
  | clear hraw => rw [hraw] at hlow; omega
  | confirmed _ hrelax => rw [hrelax.raw] at hlow; omega
  | relaxed _ hrelax => rw [hrelax.raw] at hlow; omega

end

/-! ## Cooldowns over runs -/

/-- A cooldown since a tick: it is over, or the domain is cooling. -/
structure Cools (since cooldown : UInt64) (domain : OversubscriptionDomainId) (g : Governor) :
    Prop where
  begun : since ≤ g.clock.tick
  cooling : since.toNat + cooldown.toNat ≤ g.clock.tick.toNat ∨
    ∃ r, g.runtime domain = some r ∧ Cooling since r

theorem cooling_fencedBy {since : UInt64} {next : FabricEpoch} {r : DomainRuntimeState}
    (h : Cooling since r) : Cooling since (fencedBy next r) :=
  ⟨by simp [fencedBy, Outcome.severity], h.since⟩

/-- A cooldown goes on over a call. -/
theorem cools_step {s : System} {c : System.Call} {since : UInt64}
    {domain : OversubscriptionDomainId} (h : ¬ Step.Reopens ⟨s, c⟩)
    (hopen : (s.step c).governor.isOpen = true)
    (hcools : Cools since s.governor.state.policy.hysteresis.cooldownTicks domain s.governor) :
    Cools since s.governor.state.policy.hysteresis.cooldownTicks domain (s.step c).governor := by
  cases hc : c.command.opens with
  | true => rwa [System.step_same h hopen hc]
  | false =>
      have hclock := clock_step h hopen
      have hbegun := hcools.begun
      refine ⟨UInt64.le_trans hbegun hclock, ?_⟩
      rw [UInt64.le_iff_toNat_le] at hbegun hclock
      rcases hcools.cooling with hover | ⟨r, hr, hcooling⟩
      · exact .inl (by omega)
      obtain ⟨reply, hreply, heffect⟩ := System.effect_of_open hopen
      rcases heffect.runtime_cases hc domain with hsame | ⟨next, _, hfenced⟩ |
        ⟨order, wall, request, result, hcommand, rfl, rfl, hruled⟩
      · exact .inr ⟨r, hsame.trans hr, hcooling⟩
      · rw [hr, Option.map_some] at hfenced
        exact .inr ⟨_, hfenced, cooling_fencedBy hcooling⟩
      · have hmax : s.governor.clock.tick ≤ max request.tick s.governor.clock.tick :=
          le_max_right_u64 _ _
        by_cases hwithin : (max request.tick s.governor.clock.tick).toNat <
            since.toNat + s.governor.state.policy.hysteresis.cooldownTicks.toNat
        · have hweighed : Cooling since (applyHysteresis s.governor.state.policy.hysteresis
              (s.governor.evaluationAt order request.domain (max request.tick s.governor.clock.tick))
              (max request.tick s.governor.clock.tick) r).1 :=
            (hcooling.weighed (UInt64.le_trans hcools.begun hmax) hwithin).1
          rw [← workingFor_of_runtime hr] at hweighed
          exact .inr ⟨_, hruled, hweighed.sticky, hweighed.since⟩
        · rcases (timely_of_reply hcommand hreply).1 with hsame | htick
          · exact .inr ⟨r, (congrArg (fun g => g.runtime request.domain) hsame).trans hr, hcooling⟩
          · refine .inl ?_
            rw [htick]
            omega

end Governor

namespace Step

/-- A decision for a domain was issued. -/
def Issues (t : Step) (domain : OversubscriptionDomainId) (d : Decision) : Prop :=
  (∃ order wall tick, t.command = .evaluate order wall ⟨domain, tick⟩) ∧
    t.reply = some (.decided (.ok d))

/-- An evaluation whose outcome is more severe than the sticky outcome that
its domain has. -/
def Escalates (t : Step) (domain : OversubscriptionDomainId) : Prop :=
  ∃ order wall tick r, t.command = .evaluate order wall ⟨domain, tick⟩ ∧
    t.before.governor.runtime domain = some r ∧
      r.stickyOutcome.severity < (t.before.governor.evaluationAt order domain
        (max tick t.before.governor.clock.tick)).outcome.severity

end Step

/-- The last decision that some steps issued for a domain. -/
def LastIssued (ts : List Step) (domain : OversubscriptionDomainId) (d : Decision) : Prop :=
  ∃ us x vs, ts = us ++ x :: vs ∧ Step.Issues x domain d ∧ ∀ v ∈ vs, ∀ d', ¬ Step.Issues v domain d'

/-- A decision that escalates starts a cooldown. -/
theorem cools_of_issues {x : Step} {domain : OversubscriptionDomainId} {d : Decision}
    (hx : x.Issues domain d) (hd : 2 ≤ d.effectiveOutcome.severity)
    (hescalates : x.Escalates domain) (cooldown : UInt64) :
    Governor.Cools d.issuedTick cooldown domain (x.before.step x.label).governor := by
  obtain ⟨⟨order, wall, tick, hcommand⟩, hreply⟩ := hx
  obtain ⟨_, _, _, r, hcommand', hr, hlow⟩ := hescalates
  obtain ⟨rfl, rfl, hrequest⟩ := Command.evaluate.inj (hcommand.symm.trans hcommand')
  obtain ⟨-, rfl⟩ := EvaluationRequest.mk.inj hrequest
  have htick := Governor.issuedTick_eq hcommand hreply
  obtain ⟨-, hruling, -⟩ := Governor.ruling_of_reply hcommand hreply
  have hruntime := Governor.runtime_of_reply hcommand hreply
  rw [← htick] at hlow
  rw [hruling, Governor.effectiveOutcome_rule, Governor.weighed, Governor.workingFor_of_runtime hr] at hd
  refine ⟨UInt64.le_of_eq (issuedTick_of_reply hcommand hreply).symm, .inr ⟨_, hruntime, ?_⟩⟩
  have hcooling := Governor.cooling_of_escalation hlow hd
  rw [← Governor.workingFor_of_runtime hr] at hcooling
  exact ⟨hcooling.sticky, hcooling.since⟩

/-- The policy stays over a step of a session that does not install one. -/
theorem policy_step {s : System} {c : System.Call} (h : ¬ Step.Reopens ⟨s, c⟩)
    (hopen : (s.step c).governor.isOpen = true) (hinstall : ¬ Step.InstallsPolicy ⟨s, c⟩) :
    (s.step c).governor.state.policy = s.governor.state.policy := by
  cases hc : c.command.opens with
  | true => rw [System.step_same h hopen hc]
  | false =>
      obtain ⟨reply, _, heffect⟩ := System.effect_of_open hopen
      by_contra hne
      refine hne (heffect.policy_eq hc fun policy tick hcommand => hinstall ?_)
      exact ⟨⟨policy, tick, hcommand⟩, hne⟩

/-- A cooldown goes on over a session under one policy. -/
theorem cools_of_run {a s : System} {us : List Step} {since : UInt64}
    {domain : OversubscriptionDomainId} (hrun : Run System.step a us s)
    (hsession : ∀ u ∈ us, ¬ u.Reopens) (hpolicy : ∀ u ∈ us, ¬ u.InstallsPolicy)
    (hopen : s.governor.isOpen = true)
    (hcools : Governor.Cools since a.governor.state.policy.hysteresis.cooldownTicks domain a.governor) :
    s.governor.state.policy = a.governor.state.policy ∧
      Governor.Cools since a.governor.state.policy.hysteresis.cooldownTicks domain s.governor := by
  induction hrun with
  | nil => exact ⟨rfl, hcools⟩
  | snoc _ c ih =>
      rw [List.forall_mem_append, List.forall_mem_singleton] at hsession hpolicy
      have hstep := System.inSession hsession.2 hopen
      obtain ⟨hsame, hbefore⟩ := ih hsession.1 hpolicy.1 hstep.wasOpen
      rw [← hsame] at hbefore ⊢
      exact ⟨policy_step hsession.2 hopen hpolicy.2, Governor.cools_step hsession.2 hopen hbefore⟩

/-- A decision that grants is within policy, and takes effect as that. -/
theorem Governor.effectiveOutcome_of_authorized {g : Governor} {order : MapOrder}
    {domain : OversubscriptionDomainId} {tick wall : UInt64}
    (h : (g.rule order domain tick wall).decision.newOversubscriptionAuthorized = true) :
    (g.rule order domain tick wall).decision.effectiveOutcome = Outcome.withinPolicy.code := by
  obtain ⟨heffective, -⟩ := Bool.and_eq_true_iff.mp h
  exact beq_iff_eq.mp heffective

/-- **Cooldowns**: a decision that escalates keeps away every grant for its
domain until the cooldown of the policy is over. -/
theorem cooldown_holds {disk : Disk} {ts us : List Step} {x y : Step}
    {domain : OversubscriptionDomainId} {d d' : Decision}
    (hrun : SessionRun disk (ts ++ x :: us) y.before) (hx : x.Issues domain d)
    (hd : 2 ≤ d.effectiveOutcome.severity) (hescalates : x.Escalates domain)
    (hsession : ∀ u ∈ us, ¬ u.Reopens) (hpolicy : ∀ u ∈ us, ¬ u.InstallsPolicy)
    (hy : y.Issues domain d')
    (hwithin : d'.issuedTick.toNat < d.issuedTick.toNat +
      x.before.governor.state.policy.hysteresis.cooldownTicks.toNat) :
    d'.newOversubscriptionAuthorized = false := by
  obtain ⟨-, hus⟩ := hrun.at_step
  replace hus : Run System.step (x.before.step x.label) us y.before := hus
  obtain ⟨⟨order, wall, tick, hcommand⟩, hreply⟩ := hy
  obtain ⟨hopen, hruling, -⟩ := Governor.ruling_of_reply hcommand hreply
  have htick := Governor.issuedTick_eq hcommand hreply
  have hbefore : (x.before.step x.label).governor.state.policy = x.before.governor.state.policy := by
    obtain ⟨⟨_, _, _, hevaluate⟩, hissued⟩ := hx
    obtain ⟨-, -, hcore⟩ := Governor.ruling_of_reply hevaluate hissued
    exact (Governor.policy_congr hcore).trans rfl
  obtain ⟨hsame, hcools⟩ := cools_of_run hus hsession hpolicy hopen
    (cools_of_issues hx hd hescalates _)
  rw [hbefore] at hsame hcools
  have hmax : y.before.governor.clock.tick ≤ d'.issuedTick := htick ▸ le_max_right_u64 _ _
  have hle := UInt64.le_iff_toNat_le.mp hmax
  rcases hcools.cooling with hover | ⟨r, hr, hcooling⟩
  · omega
  by_contra hgrants
  rw [Bool.not_eq_false, hruling] at hgrants
  have heffective := Governor.effectiveOutcome_of_authorized hgrants
  rw [← hsame] at hwithin
  rw [Governor.effectiveOutcome_rule, Governor.weighed, Governor.workingFor_of_runtime hr] at heffective
  have hsevere : 2 ≤ Outcome.withinPolicy.code.severity :=
    heffective ▸ (hcooling.weighed (UInt64.le_trans hcools.begun hmax) hwithin).2
  exact absurd hsevere (by decide)

/-! ## A first decision starts no cooldown -/

namespace Governor

/-- The sample policy with a cooldown of 10 ticks, and evidence that lasts. -/
def cautiousPolicy : OversubscriptionPolicy :=
  { samplePolicy with
    hysteresis := { cooldownTicks := 10 }
    maxCapacityAgeTicks := 100
    maxReservationAgeTicks := 100
    maxAdmissionAgeTicks := 100 }

/-- Evidence arrives after a first decision at tick 10. -/
def cautious : Governor :=
  rejoined cautiousPolicy ⟨⟨1⟩, 10⟩ (nthCapacity 1 100) (nthReservations 2) (nthAdmissions 3 50)

theorem cautious_checks :
    (validatePolicy cautiousPolicy).isOk = true ∧
    (writePolicy (initialPolicy cautiousPolicy)).length ≤ 4096 ∧
    admitted capacityKind (staffed ((started cautiousPolicy).decided .listed 0 ⟨⟨1⟩, 10⟩))
      (nthCapacity 1 100) = true ∧
    admitted reservationKind
      (taking capacityKind (staffed ((started cautiousPolicy).decided .listed 0 ⟨⟨1⟩, 10⟩))
        (nthCapacity 1 100)) (nthReservations 2) = true ∧
    admitted admissionKind (taking reservationKind
      (taking capacityKind (staffed ((started cautiousPolicy).decided .listed 0 ⟨⟨1⟩, 10⟩))
        (nthCapacity 1 100)) (nthReservations 2)) (nthAdmissions 3 50) = true ∧
    2 ≤ ((started cautiousPolicy).ruling .listed 0 ⟨⟨1⟩, 10⟩).decision.effectiveOutcome.severity ∧
    (cautious.ruling .listed 0 ⟨⟨1⟩, 11⟩).decision.newOversubscriptionAuthorized = true ∧
    (cautious.ruling .listed 0 ⟨⟨1⟩, 11⟩).decision.issuedTick = 11 := by
  decide +kernel

theorem cautiousPolicy_valid : (validatePolicy (initialPolicy cautiousPolicy)).isOk = true :=
  validatePolicy_computePolicyDigest cautious_checks.1

/-- The calls that bring the evidence. -/
def cautiousCalls : List System.Call :=
  registerCall :: reportCalls (nthCapacity 1 100) (nthReservations 2) (nthAdmissions 3 50)

theorem cautious_session : ∃ disk,
    (rejoiningCalls cautiousPolicy ⟨⟨1⟩, 10⟩ (nthCapacity 1 100) (nthReservations 2)
      (nthAdmissions 3 50)).foldl System.step (System.boot emptyDisk) = ⟨cautious, disk⟩ :=
  rejoined_session cautiousPolicy_valid cautious_checks.2.1 rfl
    cautious_checks.2.2.1 cautious_checks.2.2.2.1 cautious_checks.2.2.2.2.1

theorem roomy_cautious : Roomy 95 cautious := roomy_rejoined cautious_checks.2.1 rfl

/-- None of them opens the runtime or installs a policy. -/
theorem command_cautiousCalls {s : System} {u : Step}
    (h : u ∈ Trace.play System.step s cautiousCalls) : ¬ u.Reopens ∧ ¬ u.InstallsPolicy := by
  have hlabel := Trace.label_of_mem_play h
  simp only [cautiousCalls, reportCalls, List.mem_cons, List.not_mem_nil, or_false] at hlabel
  constructor
  · rintro ⟨⟨options, policy, hcommand⟩, _⟩
    rw [Step.command] at hcommand
    rcases hlabel with h | h | h | h <;> rw [h] at hcommand <;> cases hcommand
  · rintro ⟨⟨policy, tick, hcommand⟩, _⟩
    rw [Step.command] at hcommand
    rcases hlabel with h | h | h | h <;> rw [h] at hcommand <;> cases hcommand

def firstCall : System.Call := ⟨.evaluate .listed 0 ⟨⟨1⟩, 10⟩, []⟩

def secondCall : System.Call := ⟨.evaluate .listed 0 ⟨⟨1⟩, 11⟩, []⟩

theorem not_lastIssued_open {disk : Disk} {policy : OversubscriptionPolicy}
    {domain : OversubscriptionDomainId} {d : Decision} :
    ¬ LastIssued (Trace.play System.step (System.boot disk) [openCall policy]) domain d := by
  intro ⟨us, x, vs, hts, ⟨⟨order, wall, tick, hcommand⟩, _⟩, _⟩
  have hx : x ∈ Trace.play System.step (System.boot disk) [openCall policy] := by simp [hts]
  have hlabel := List.mem_singleton.mp (Trace.label_of_mem_play hx)
  rw [Step.command, hlabel] at hcommand
  cases hcommand

/-- An evaluation that is answered issues a decision. -/
theorem issues_of_answers {g : Governor} {request : EvaluationRequest} (disk : Disk)
    (h : Answers .listed 0 g request) :
    Step.Issues ⟨⟨g, disk⟩, ⟨.evaluate .listed 0 request, []⟩⟩ request.domain
        (g.ruling .listed 0 request).decision ∧
      ∃ disk', System.step ⟨g, disk⟩ ⟨.evaluate .listed 0 request, []⟩ =
        ⟨g.decided .listed 0 request, disk'⟩ := by
  obtain ⟨disk', hperform⟩ := perform_evaluate disk h
  exact ⟨⟨⟨.listed, 0, request.tick, rfl⟩, congrArg Prod.fst hperform⟩, disk',
    System.step_of_perform hperform⟩

theorem issues_first (disk : Disk) : Step.Issues ⟨⟨started cautiousPolicy, disk⟩, firstCall⟩ ⟨1⟩
    ((started cautiousPolicy).ruling .listed 0 ⟨⟨1⟩, 10⟩).decision := by
  have hanswers : Answers .listed 0 (started cautiousPolicy) ⟨⟨1⟩, 10⟩ :=
    (roomy_started cautious_checks.2.1).answers rfl
  exact (issues_of_answers disk hanswers).1

theorem issues_cautious (disk : Disk) : Step.Issues ⟨⟨cautious, disk⟩, secondCall⟩ ⟨1⟩
    (cautious.ruling .listed 0 ⟨⟨1⟩, 11⟩).decision := by
  have hanswers : Answers .listed 0 cautious ⟨⟨1⟩, 11⟩ := roomy_cautious.answers rfl
  exact (issues_of_answers disk hanswers).1

theorem issuedTick_first :
    ((started cautiousPolicy).ruling .listed 0 ⟨⟨1⟩, 10⟩).decision.issuedTick = 10 := rfl

theorem within_cautious : (cautious.ruling .listed 0 ⟨⟨1⟩, 11⟩).decision.issuedTick.toNat <
    ((started cautiousPolicy).ruling .listed 0 ⟨⟨1⟩, 10⟩).decision.issuedTick.toNat +
      (started cautiousPolicy).state.policy.hysteresis.cooldownTicks.toNat := by
  rw [cautious_checks.2.2.2.2.2.2.2, issuedTick_first]
  decide

theorem rejoiningCalls_cautious : rejoiningCalls cautiousPolicy ⟨⟨1⟩, 10⟩ (nthCapacity 1 100)
    (nthReservations 2) (nthAdmissions 3 50) = openCall cautiousPolicy :: firstCall :: cautiousCalls :=
  rfl

/-- The session as a run, around its first decision. -/
theorem cautious_run : ∃ disk₁ disk₂, SessionRun emptyDisk
    (Trace.play System.step (System.boot emptyDisk) [openCall cautiousPolicy] ++
      ⟨⟨started cautiousPolicy, disk₁⟩, firstCall⟩ ::
        Trace.play System.step (System.step ⟨started cautiousPolicy, disk₁⟩ firstCall) cautiousCalls)
    ⟨cautious, disk₂⟩ := by
  obtain ⟨disk₁, hopen⟩ := step_open cautiousPolicy_valid cautious_checks.2.1
  obtain ⟨disk₂, hsession⟩ := cautious_session
  have hopened : [openCall cautiousPolicy].foldl System.step (System.boot emptyDisk) =
      ⟨started cautiousPolicy, disk₁⟩ := by rw [List.foldl_cons, List.foldl_nil, hopen]
  have hrun := Trace.run_play_at firstCall cautiousCalls hopened
  rw [rejoiningCalls_cautious, List.foldl_cons, hopen, List.foldl_cons] at hsession
  rw [hsession] at hrun
  exact ⟨disk₁, disk₂, hrun⟩

/-- The first decision of a domain restricts it, and one tick later there is a
grant. -/
theorem cooldown_not_kept : ¬ ∀ (disk : Disk) (ts us : List Step) (x y : Step)
    (domain : OversubscriptionDomainId) (d d' : Decision),
    SessionRun disk (ts ++ x :: us) y.before → x.Issues domain d →
      2 ≤ d.effectiveOutcome.severity →
      (∀ d₀, LastIssued ts domain d₀ → d₀.effectiveOutcome.severity < d.effectiveOutcome.severity) →
      (∀ u ∈ us, ¬ u.Reopens) → (∀ u ∈ us, ¬ u.InstallsPolicy) → y.Issues domain d' →
      d'.issuedTick.toNat < d.issuedTick.toNat +
        x.before.governor.state.policy.hysteresis.cooldownTicks.toNat →
      d'.newOversubscriptionAuthorized = false := by
  intro h
  obtain ⟨disk₁, disk₂, hrun⟩ := cautious_run
  have hdenied := h emptyDisk _ _ _ ⟨⟨cautious, disk₂⟩, secondCall⟩ ⟨1⟩ _ _ hrun (issues_first disk₁)
    cautious_checks.2.2.2.2.2.1 (fun _ hlast => absurd hlast not_lastIssued_open)
    (fun _ hu => (command_cautiousCalls hu).1) (fun _ hu => (command_cautiousCalls hu).2)
    (issues_cautious disk₂) within_cautious
  rw [cautious_checks.2.2.2.2.2.2.1] at hdenied
  cases hdenied

/-! ## A later decision starts one -/

/-- Evidence is there before the first decision. -/
def granted : Governor :=
  (staffed (started cautiousPolicy)).reporting (nthCapacity 1 100) (nthReservations 2)
    (nthAdmissions 3 50)

/-- A second admission snapshot commits more than there is. -/
def pressed : Governor :=
  taking admissionKind (granted.decided .listed 0 sampleRequest) (nthAdmissions 4 150)

theorem pressed_checks :
    admitted capacityKind (staffed (started cautiousPolicy)) (nthCapacity 1 100) = true ∧
    admitted reservationKind (taking capacityKind (staffed (started cautiousPolicy))
      (nthCapacity 1 100)) (nthReservations 2) = true ∧
    admitted admissionKind (taking reservationKind (taking capacityKind
      (staffed (started cautiousPolicy)) (nthCapacity 1 100)) (nthReservations 2))
        (nthAdmissions 3 50) = true ∧
    admitted admissionKind (granted.decided .listed 0 sampleRequest) (nthAdmissions 4 150) = true ∧
    2 ≤ (pressed.ruling .listed 0 sampleRequest).decision.effectiveOutcome.severity ∧
    (granted.ruling .listed 0 sampleRequest).working.stickyOutcome.severity <
      (pressed.evaluationAt .listed ⟨1⟩ (max 0 pressed.clock.tick)).outcome.severity ∧
    (pressed.decided .listed 0 sampleRequest).clock.tick = 0 ∧
    pressed.state.policy.hysteresis.cooldownTicks = 10 := by
  decide +kernel

def pressedCalls : List System.Call :=
  openCall cautiousPolicy :: registerCall ::
    (reportCalls (nthCapacity 1 100) (nthReservations 2) (nthAdmissions 3 50) ++
      [evaluateCall, ⟨.ingestAdmissions (nthAdmissions 4 150), []⟩])

theorem roomy_granted : Roomy 96 granted :=
  (roomy_started cautious_checks.2.1).staffed.taking.taking.taking

theorem roomy_pressed : Roomy 94 pressed := (roomy_granted.decided rfl).taking

theorem pressed_session : ∃ disk,
    pressedCalls.foldl System.step (System.boot emptyDisk) = ⟨pressed, disk⟩ := by
  have hroomy : Roomy 99 (staffed (started cautiousPolicy)) := (roomy_started cautious_checks.2.1).staffed
  obtain ⟨hcap, hres, hadm, hpress, -⟩ := pressed_checks
  obtain ⟨disk₁, h₁⟩ := step_open cautiousPolicy_valid cautious_checks.2.1
  obtain ⟨disk₂, h₂⟩ := step_register disk₁ (roomy_started cautious_checks.2.1) rfl rfl
  obtain ⟨disk₃, h₃⟩ : ∃ disk₃, (reportCalls (nthCapacity 1 100) (nthReservations 2)
      (nthAdmissions 3 50)).foldl System.step ⟨staffed (started cautiousPolicy), disk₂⟩ =
        ⟨granted, disk₃⟩ :=
    foldl_reportCalls (takes_of_admitted hroomy (.capacity _) hcap)
      (takes_of_admitted hroomy.taking (.reservations _) hres)
      (takes_of_admitted hroomy.taking.taking (.admissions _) hadm)
  have hanswers : Answers .listed 0 granted sampleRequest := roomy_granted.answers rfl
  obtain ⟨disk₄, h₄⟩ := perform_evaluate disk₃ hanswers
  obtain ⟨disk₅, h₅⟩ := step_ingest disk₄ (.admissions (nthAdmissions 4 150))
    (takes_of_admitted (roomy_granted.decided rfl) (.admissions _) hpress)
  have hgranted : System.step ⟨granted, disk₃⟩ evaluateCall =
      ⟨granted.decided .listed 0 sampleRequest, disk₄⟩ := System.step_of_perform h₄
  rw [pressedCalls, List.foldl_cons, h₁, List.foldl_cons, h₂, List.foldl_append, h₃, List.foldl_cons,
    hgranted, List.foldl_cons, h₅, List.foldl_nil]
  exact ⟨disk₅, rfl⟩

theorem pressed_runtime :
    pressed.runtime ⟨1⟩ = some (granted.ruling .listed 0 sampleRequest).working := by
  rw [pressed, runtime_taking]
  exact runtime_decided

theorem escalates_pressed (disk : Disk) : Step.Escalates ⟨⟨pressed, disk⟩, evaluateCall⟩ ⟨1⟩ :=
  ⟨.listed, 0, 0, _, rfl, pressed_runtime, pressed_checks.2.2.2.2.2.1⟩

theorem within_pressed :
    ((pressed.decided .listed 0 sampleRequest).ruling .listed 0 sampleRequest).decision.issuedTick.toNat <
      (pressed.ruling .listed 0 sampleRequest).decision.issuedTick.toNat +
        pressed.state.policy.hysteresis.cooldownTicks.toNat := by
  have hissued : ∀ g : Governor, (g.ruling .listed 0 sampleRequest).decision.issuedTick =
      max sampleRequest.tick g.clock.tick := fun g => rfl
  rw [hissued, hissued, pressed_checks.2.2.2.2.2.2.1, pressed_checks.2.2.2.2.2.2.2]
  have hzero : (max sampleRequest.tick 0).toNat = 0 := rfl
  have hten : (10 : UInt64).toNat = 10 := rfl
  omega

theorem pressed_after (disk : Disk) : ∃ disk',
    Step.Issues ⟨⟨pressed, disk⟩, evaluateCall⟩ ⟨1⟩ (pressed.ruling .listed 0 sampleRequest).decision ∧
    System.step ⟨pressed, disk⟩ evaluateCall = ⟨pressed.decided .listed 0 sampleRequest, disk'⟩ ∧
    Step.Issues ⟨⟨pressed.decided .listed 0 sampleRequest, disk'⟩, evaluateCall⟩ ⟨1⟩
      ((pressed.decided .listed 0 sampleRequest).ruling .listed 0 sampleRequest).decision := by
  have hanswers : Answers .listed 0 pressed sampleRequest := roomy_pressed.answers rfl
  have hroomy : Roomy 93 (pressed.decided .listed 0 sampleRequest) := roomy_pressed.decided rfl
  have hanswers' : Answers .listed 0 (pressed.decided .listed 0 sampleRequest) sampleRequest :=
    hroomy.answers rfl
  obtain ⟨hx, disk', hstep⟩ := issues_of_answers disk hanswers
  exact ⟨disk', hx, hstep, (issues_of_answers disk' hanswers').1⟩

theorem pressed_run : ∃ disk disk', SessionRun emptyDisk
      (Trace.play System.step (System.boot emptyDisk) pressedCalls ++ [⟨⟨pressed, disk⟩, evaluateCall⟩])
      ⟨pressed.decided .listed 0 sampleRequest, disk'⟩ ∧
    Step.Issues ⟨⟨pressed, disk⟩, evaluateCall⟩ ⟨1⟩ (pressed.ruling .listed 0 sampleRequest).decision ∧
    Step.Issues ⟨⟨pressed.decided .listed 0 sampleRequest, disk'⟩, evaluateCall⟩ ⟨1⟩
      ((pressed.decided .listed 0 sampleRequest).ruling .listed 0 sampleRequest).decision := by
  obtain ⟨disk, hsession⟩ := pressed_session
  obtain ⟨disk', hx, hstep, hy⟩ := pressed_after disk
  have hrun : SessionRun emptyDisk _ ⟨pressed, disk⟩ := Trace.run_play_foldl hsession
  have hlast := hrun.snoc evaluateCall
  rw [hstep] at hlast
  exact ⟨disk, disk', hlast, hx, hy⟩

/-- The decision after one that escalates does not grant. -/
theorem cooldown_sample : ((pressed.decided .listed 0 sampleRequest).ruling .listed 0
    sampleRequest).decision.newOversubscriptionAuthorized = false := by
  obtain ⟨disk, disk', hrun, hx, hy⟩ := pressed_run
  exact @cooldown_holds emptyDisk (Trace.play System.step (System.boot emptyDisk) pressedCalls) []
    ⟨⟨pressed, disk⟩, evaluateCall⟩ ⟨⟨pressed.decided .listed 0 sampleRequest, disk'⟩, evaluateCall⟩
    ⟨1⟩ _ _ hrun hx pressed_checks.2.2.2.2.1 (escalates_pressed disk)
    (fun u hu => absurd hu List.not_mem_nil) (fun u hu => absurd hu List.not_mem_nil) hy within_pressed

end Governor

end Oversub
