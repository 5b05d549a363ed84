import Oversub.Runtime.Expiry

/-!
# Oversub.Runtime.Hysteresis

Hysteresis between the raw and the effective outcomes of a domain: when the
sticky severity is lowered, and what a cooldown keeps away.
-/

namespace Oversub

open Crash Files Trace

namespace Governor

/-! ## One evaluation -/

section

variable {hysteresis : HysteresisPolicy} {result : EvaluationResult} {tick : UInt64}
  {working : DomainRuntimeState}

/-- An evaluation may relax the sticky outcome: nothing restricts the domain,
and slack and cooldown permit it. -/
structure MayRelax (hysteresis : HysteresisPolicy) (result : EvaluationResult) (tick : UInt64)
    (working : DomainRuntimeState) : Prop where
  raw : result.outcome = .withinPolicy
  margin : UInt64.ofNat (min result.accounting.usedPpmOfCeiling kPpmScale) +
    hysteresis.deescalationMarginPpm ≤ UInt64.ofNat kPpmScale
  since : working.lastEscalationTick ≤ tick
  cooldown : hysteresis.cooldownTicks ≤ tick - working.lastEscalationTick

theorem mayRelax_iff (hraw : result.outcome = .withinPolicy) :
    mayRelax hysteresis result.accounting.usedPpmOfCeiling tick working = true ↔
      MayRelax hysteresis result tick working := by
  simp only [mayRelax, Bool.and_eq_true, decide_eq_true_eq]
  constructor
  · intro ⟨⟨hmargin, hsince⟩, hcooldown⟩
    exact ⟨hraw, hmargin, hsince, hcooldown⟩
  · intro h
    exact ⟨⟨h.margin, h.since⟩, h.cooldown⟩

/-- What an evaluation makes of the runtime state of its domain, and the
outcome that takes effect. -/
inductive Weighs (hysteresis : HysteresisPolicy) (result : EvaluationResult) (tick : UInt64)
    (working : DomainRuntimeState) : DomainRuntimeState × Code Outcome → Prop
  /-- Restriction is immediate. -/
  | restricted (hraw : 2 ≤ result.outcome.severity) :
      Weighs hysteresis result tick working
        ({ working with
            lastEscalationTick :=
              if working.stickyOutcome.severity < result.outcome.severity then tick
              else working.lastEscalationTick
            stickyOutcome := result.outcome.code
            confirmations := 0 }, result.outcome.code)
  /-- The sticky outcome stays, and confirmations start over. -/
  | held (hraw : result.outcome.severity < 2)
      (hsticky : result.outcome.severity < working.stickyOutcome.severity)
      (hrelax : ¬ MayRelax hysteresis result tick working) :
      Weighs hysteresis result tick working
        ({ working with confirmations := 0 }, working.stickyOutcome)
  /-- The limit is reached; it is announced once it is confirmed. -/
  | limited (confirmations : UInt32) (hraw : result.outcome = .atLimit)
      (hsticky : working.stickyOutcome.severity < 2)
      (hcount : confirmations = (if working.stickyOutcome = Outcome.atLimit.code then
        working.confirmations else 0) + 1) :
      Weighs hysteresis result tick working
        ({ working with stickyOutcome := Outcome.atLimit.code, confirmations },
          if hysteresis.escalationConfirmations ≤ confirmations.toUInt64 then Outcome.atLimit.code
          else Outcome.withinPolicy.code)
  /-- Nothing restricts the domain, and nothing did. -/
  | clear (hraw : result.outcome = .withinPolicy) (hsticky : working.stickyOutcome.severity = 0) :
      Weighs hysteresis result tick working
        ({ working with stickyOutcome := result.outcome.code, confirmations := 0 },
          result.outcome.code)
  /-- A relaxation is confirmed once more. -/
  | confirmed (hsticky : 0 < working.stickyOutcome.severity)
      (hrelax : MayRelax hysteresis result tick working)
      (hcount : (working.confirmations + 1).toUInt64 < hysteresis.deescalationConfirmations) :
      Weighs hysteresis result tick working
        ({ working with confirmations := working.confirmations + 1 }, working.stickyOutcome)
  /-- A relaxation has its confirmations. -/
  | relaxed (hsticky : 0 < working.stickyOutcome.severity)
      (hrelax : MayRelax hysteresis result tick working)
      (hcount : hysteresis.deescalationConfirmations ≤ (working.confirmations + 1).toUInt64) :
      Weighs hysteresis result tick working
        ({ working with stickyOutcome := result.outcome.code, confirmations := 0 },
          result.outcome.code)

theorem weighs_applyHysteresis :
    Weighs hysteresis result tick working (applyHysteresis hysteresis result tick working) := by
  unfold applyHysteresis
  dsimp only
  by_cases hrestricts : 2 ≤ result.outcome.severity
  · rw [if_pos hrestricts]
    exact .restricted hrestricts
  rw [if_neg hrestricts]
  have hraw : result.outcome.severity < 2 := Nat.lt_of_not_le hrestricts
  by_cases hlimit : result.outcome.severity = 1
  · rw [if_pos hlimit]
    have houtcome : result.outcome = .atLimit := by
      cases h : result.outcome <;> simp [h, Outcome.severity] at hlimit
      rfl
    split
    next hsticky =>
      refine .held hraw (by omega) fun h => ?_
      rw [h.raw] at hlimit
      cases hlimit
    next hsticky => exact .limited _ houtcome (Nat.lt_of_not_le hsticky) rfl
  rw [if_neg hlimit]
  have houtcome : result.outcome = .withinPolicy := Outcome.severity_eq_zero.mp (by omega)
  by_cases hclear : working.stickyOutcome.severity = 0
  · rw [if_pos hclear]
    exact .clear houtcome hclear
  rw [if_neg hclear]
  have hsticky : 0 < working.stickyOutcome.severity := Nat.pos_of_ne_zero hclear
  have hiff : mayRelax hysteresis result.accounting.usedPpmOfCeiling tick working = true ↔
      MayRelax hysteresis result tick working := mayRelax_iff houtcome
  cases hrelax : mayRelax hysteresis result.accounting.usedPpmOfCeiling tick working with
  | false =>
      refine .held hraw (by omega) fun h => ?_
      rw [hiff.mpr h] at hrelax
      cases hrelax
  | true =>
      rw [Bool.not_true, if_neg Bool.false_ne_true]
      split
      next hcount => exact .relaxed hsticky (hiff.mp hrelax) hcount
      next hcount => exact .confirmed hsticky (hiff.mp hrelax) (UInt64.not_le.mp hcount)

/-- The sticky severity is only lowered by hysteresis: unless an outcome
that restricts the domain less than the sticky one takes its place. -/
theorem lowered_iff (hs : 2 ≤ working.stickyOutcome.severity) :
    (((applyHysteresis hysteresis result tick working).1.stickyOutcome.severity <
          working.stickyOutcome.severity →
        MayRelax hysteresis result tick working ∧
          hysteresis.deescalationConfirmations ≤ (working.confirmations + 1).toUInt64) ∧
      (2 ≤ result.outcome.severity → working.stickyOutcome.severity ≤
        (applyHysteresis hysteresis result tick working).1.stickyOutcome.severity)) ↔
      ¬ (2 ≤ result.outcome.severity ∧ result.outcome.severity < working.stickyOutcome.severity) := by
  have hweighs : Weighs hysteresis result tick working
      (applyHysteresis hysteresis result tick working) := weighs_applyHysteresis
  generalize applyHysteresis hysteresis result tick working = r at hweighs ⊢
  have hwithin : Outcome.withinPolicy.severity = 0 := rfl
  have hlimit : Outcome.atLimit.severity = 1 := rfl
  cases hweighs with
  | restricted hraw =>
      simp only [Code.severity_code]
      constructor
      · intro ⟨_, hkept⟩ ⟨_, hlower⟩
        have hle := hkept hraw
        omega
      · intro hnot
        constructor
        · intro hlower
          exact absurd ⟨hraw, hlower⟩ hnot
        · intro _
          exact Nat.le_of_not_lt fun hlower => hnot ⟨hraw, hlower⟩
  | held hraw =>
      refine iff_of_true ⟨fun hlower => ?_, fun hrestricts => ?_⟩ fun hrestricts => ?_
      · exact absurd hlower (Nat.lt_irrefl _)
      · exact Nat.le_refl _
      · omega
  | limited _ _ hsticky => omega
  | clear _ hsticky => omega
  | confirmed _ hrelax =>
      refine iff_of_true ⟨fun hlower => ?_, fun hrestricts => ?_⟩ fun hrestricts => ?_
      · exact absurd hlower (Nat.lt_irrefl _)
      · exact Nat.le_refl _
      · rw [hrelax.raw] at hrestricts
        omega
  | relaxed _ hrelax hcount =>
      refine iff_of_true ⟨fun _ => ⟨hrelax, hcount⟩, fun hrestricts => ?_⟩ fun hrestricts => ?_
      · rw [hrelax.raw] at hrestricts
        omega
      · rw [hrelax.raw] at hrestricts
        omega

end

/-! ## Relaxation -/

section

variable {g : Governor} {order : MapOrder} {domain : OversubscriptionDomainId} {tick wall : UInt64}

/-- What hysteresis makes of an evaluation. -/
def weighed (order : MapOrder) (g : Governor) (domain : OversubscriptionDomainId) (tick : UInt64) :
    DomainRuntimeState × Code Outcome :=
  applyHysteresis g.state.policy.hysteresis (g.evaluationAt order domain tick) tick
    (g.workingFor domain (g.evaluationAt order domain tick))

@[simp] theorem evaluation_rule :
    (g.rule order domain tick wall).decision.evaluation = g.evaluationAt order domain tick := rfl

@[simp] theorem rawOutcome_rule :
    (g.rule order domain tick wall).decision.rawOutcome =
      (g.evaluationAt order domain tick).outcome := rfl

@[simp] theorem effectiveOutcome_rule :
    (g.rule order domain tick wall).decision.effectiveOutcome = (g.weighed order domain tick).2 := rfl

@[simp] theorem stickyOutcome_rule :
    (g.rule order domain tick wall).working.stickyOutcome =
      (g.weighed order domain tick).1.stickyOutcome := rfl

@[simp] theorem confirmations_rule :
    (g.rule order domain tick wall).working.confirmations =
      (g.weighed order domain tick).1.confirmations := rfl

@[simp] theorem lastEscalationTick_rule :
    (g.rule order domain tick wall).working.lastEscalationTick =
      (g.weighed order domain tick).1.lastEscalationTick := rfl

theorem workingFor_of_runtime {result : EvaluationResult} {r : DomainRuntimeState}
    (hr : g.runtime domain = some r) : g.workingFor domain result = r := by
  rw [workingFor, hr]

end

/-- The runtime state a decision leaves behind. -/
theorem runtime_of_reply {s : System} {c : System.Call} {order : MapOrder} {wall : UInt64}
    {request : EvaluationRequest} {d : Decision} (hc : c.command = .evaluate order wall request)
    (hreply : (s.perform c).1 = some (.decided (.ok d))) :
    (s.step c).governor.runtime request.domain =
      some (s.governor.rule order request.domain d.issuedTick wall).working := by
  obtain ⟨-, -, hcore⟩ := ruling_of_reply hc hreply
  have hruntime := core_congr (fun g => g.runtime request.domain) (fun _ => rfl) hcore
  exact hruntime.trans (runtime_withRuling rule_working_domain)

/-- **Severity is relaxed through hysteresis**, exactly when the evaluation
does not put a lesser restriction in the place of the sticky one. -/
theorem relaxation_iff {s : System} {c : System.Call} {order : MapOrder} {wall : UInt64}
    {request : EvaluationRequest} {d : Decision} {r r' : DomainRuntimeState}
    (hc : c.command = .evaluate order wall request)
    (hreply : (s.perform c).1 = some (.decided (.ok d)))
    (hr : s.governor.runtime request.domain = some r) (hs : 2 ≤ r.stickyOutcome.severity)
    (hr' : (s.step c).governor.runtime request.domain = some r') :
    ((r'.stickyOutcome.severity < r.stickyOutcome.severity →
        MayRelax s.governor.state.policy.hysteresis d.evaluation d.issuedTick r ∧
          s.governor.state.policy.hysteresis.deescalationConfirmations ≤
            (r.confirmations + 1).toUInt64) ∧
      (2 ≤ d.rawOutcome.severity → r.stickyOutcome.severity ≤ r'.stickyOutcome.severity)) ↔
      ¬ (2 ≤ (s.governor.evaluationAt order request.domain
            (max request.tick s.governor.clock.tick)).outcome.severity ∧
          (s.governor.evaluationAt order request.domain
            (max request.tick s.governor.clock.tick)).outcome.severity < r.stickyOutcome.severity) := by
  obtain ⟨-, hd, -⟩ := ruling_of_reply hc hreply
  have htick := issuedTick_eq hc hreply
  have hworking := Option.some.inj (hr'.symm.trans (runtime_of_reply hc hreply))
  have hevaluation : d.evaluation = s.governor.evaluationAt order request.domain d.issuedTick := by
    rw [hd, evaluation_rule, issuedTick_rule]
  have hraw : d.rawOutcome =
      (s.governor.evaluationAt order request.domain d.issuedTick).outcome := by
    rw [hd, rawOutcome_rule, issuedTick_rule]
  rw [← htick, hraw, hevaluation, hworking, stickyOutcome_rule, weighed, workingFor_of_runtime hr]
  exact lowered_iff hs

/-! ## A first decision without evidence -/

/-- The calls of a session whose first decision has no evidence to rest on. -/
def rejoiningCalls (policy : OversubscriptionPolicy) (request : EvaluationRequest)
    (cap : CapacitySnapshot) (res : ReservationSnapshot) (adm : AdmissionSnapshot) :
    List System.Call :=
  openCall policy :: ⟨.evaluate .listed 0 request, []⟩ :: registerCall :: reportCalls cap res adm

/-- The runtime after it. -/
def rejoined (policy : OversubscriptionPolicy) (request : EvaluationRequest) (cap : CapacitySnapshot)
    (res : ReservationSnapshot) (adm : AdmissionSnapshot) : Governor :=
  (staffed ((started policy).decided .listed 0 request)).reporting cap res adm

section

variable {policy : OversubscriptionPolicy} {request : EvaluationRequest} {cap : CapacitySnapshot}
  {res : ReservationSnapshot} {adm : AdmissionSnapshot} {g : Governor}
  {domain : OversubscriptionDomainId}

/-- What is published does not touch the runtime state of a domain. -/
theorem runtime_rejoined (hdomain : domain = request.domain) :
    (rejoined policy request cap res adm).runtime domain =
      some ((started policy).ruling .listed 0 request).working := by
  rw [rejoined, reporting, runtime_taking, runtime_taking, runtime_taking, runtime_staffed, hdomain,
    runtime_decided]

theorem roomy_rejoined (hlength : (writePolicy (initialPolicy policy)).length ≤ 4096)
    (hdomain : request.domain.valid = true) : Roomy 95 (rejoined policy request cap res adm) :=
  ((roomy_started hlength).decided hdomain).staffed.taking.taking.taking

theorem rejoined_session (hp : (validatePolicy (initialPolicy policy)).isOk = true)
    (hlength : (writePolicy (initialPolicy policy)).length ≤ 4096)
    (hdomain : request.domain.valid = true)
    (hcap : admitted capacityKind (staffed ((started policy).decided .listed 0 request)) cap = true)
    (hres : admitted reservationKind
      (taking capacityKind (staffed ((started policy).decided .listed 0 request)) cap) res = true)
    (hadm : admitted admissionKind (taking reservationKind
      (taking capacityKind (staffed ((started policy).decided .listed 0 request)) cap) res) adm = true) :
    ∃ disk, (rejoiningCalls policy request cap res adm).foldl System.step (System.boot emptyDisk) =
      ⟨rejoined policy request cap res adm, disk⟩ := by
  have hroomy : Roomy 99 ((started policy).decided .listed 0 request) :=
    (roomy_started hlength).decided hdomain
  obtain ⟨disk₁, h₁⟩ := step_open hp hlength
  have hanswers : Answers .listed 0 (started policy) request := (roomy_started hlength).answers hdomain
  obtain ⟨disk₂, h₂⟩ := perform_evaluate disk₁ hanswers
  obtain ⟨disk₃, h₃⟩ := step_register disk₂ hroomy rfl rfl
  rw [rejoiningCalls, List.foldl_cons, List.foldl_cons, List.foldl_cons, h₁,
    System.step_of_perform h₂, h₃]
  exact foldl_reportCalls (takes_of_admitted hroomy.staffed (.capacity _) hcap)
    (takes_of_admitted hroomy.staffed.taking (.reservations _) hres)
    (takes_of_admitted hroomy.staffed.taking.taking (.admissions _) hadm)

end

/-- More is committed than there is, after a first decision without evidence. -/
def overcommitted : Governor :=
  rejoined samplePolicy sampleRequest (nthCapacity 1 100) (nthReservations 2) (nthAdmissions 3 150)

/-- What the first decision leaves behind. -/
def unseen : DomainRuntimeState := ((started samplePolicy).ruling .listed 0 sampleRequest).working

theorem overcommitted_checks :
    admitted capacityKind (staffed ((started samplePolicy).decided .listed 0 sampleRequest))
      (nthCapacity 1 100) = true ∧
    admitted reservationKind
      (taking capacityKind (staffed ((started samplePolicy).decided .listed 0 sampleRequest))
        (nthCapacity 1 100)) (nthReservations 2) = true ∧
    admitted admissionKind (taking reservationKind
      (taking capacityKind (staffed ((started samplePolicy).decided .listed 0 sampleRequest))
        (nthCapacity 1 100)) (nthReservations 2)) (nthAdmissions 3 150) = true ∧
    unseen.stickyOutcome.severity = 7 ∧
    (overcommitted.ruling .listed 0 sampleRequest).decision.rawOutcome = .emergencyReduction ∧
    (overcommitted.ruling .listed 0 sampleRequest).working.stickyOutcome.severity = 3 := by
  decide +kernel

theorem overcommitted_session : ∃ disk,
    (rejoiningCalls samplePolicy sampleRequest (nthCapacity 1 100) (nthReservations 2)
      (nthAdmissions 3 150)).foldl System.step (System.boot emptyDisk) = ⟨overcommitted, disk⟩ :=
  rejoined_session initialPolicy_sample sample_checks.1 rfl overcommitted_checks.1
    overcommitted_checks.2.1 overcommitted_checks.2.2.1

theorem answers_overcommitted : Answers .listed 0 overcommitted sampleRequest :=
  (roomy_rejoined sample_checks.1 rfl).answers rfl

theorem overcommitted_runtime : overcommitted.runtime sampleRequest.domain = some unseen :=
  runtime_rejoined rfl

/-- What its evaluation leaves behind. -/
def restricted : DomainRuntimeState := (overcommitted.ruling .listed 0 sampleRequest).working

theorem restricted_runtime :
    (overcommitted.decided .listed 0 sampleRequest).runtime sampleRequest.domain = some restricted :=
  runtime_decided

theorem overcommitted_decided (disk : Disk) :
    (System.perform ⟨overcommitted, disk⟩ evaluateCall).1 =
        some (.decided (.ok (overcommitted.ruling .listed 0 sampleRequest).decision)) ∧
      (System.step ⟨overcommitted, disk⟩ evaluateCall).governor.runtime sampleRequest.domain =
        some restricted := by
  obtain ⟨disk', hdecided⟩ := perform_evaluate disk answers_overcommitted
  refine ⟨congrArg Prod.fst hdecided, ?_⟩
  rw [evaluateCall, System.step_of_perform hdecided]
  exact restricted_runtime

/-- The evaluation of what is overcommitted does not keep the severity. -/
theorem relaxation_sample :
    ((restricted.stickyOutcome.severity < unseen.stickyOutcome.severity →
        MayRelax overcommitted.state.policy.hysteresis
            (overcommitted.ruling .listed 0 sampleRequest).decision.evaluation
            (overcommitted.ruling .listed 0 sampleRequest).decision.issuedTick unseen ∧
          overcommitted.state.policy.hysteresis.deescalationConfirmations ≤
            (unseen.confirmations + 1).toUInt64) ∧
      (2 ≤ (overcommitted.ruling .listed 0 sampleRequest).decision.rawOutcome.severity →
        unseen.stickyOutcome.severity ≤ restricted.stickyOutcome.severity)) ↔
      ¬ (2 ≤ (overcommitted.evaluationAt .listed sampleRequest.domain
            (max sampleRequest.tick overcommitted.clock.tick)).outcome.severity ∧
          (overcommitted.evaluationAt .listed sampleRequest.domain
            (max sampleRequest.tick overcommitted.clock.tick)).outcome.severity <
              unseen.stickyOutcome.severity) :=
  relaxation_iff (s := ⟨overcommitted, emptyDisk⟩) (c := evaluateCall) rfl
    (overcommitted_decided emptyDisk).1 overcommitted_runtime
    (by rw [overcommitted_checks.2.2.2.1]; decide) (overcommitted_decided emptyDisk).2

/-- An emergency takes the place of missing evidence without a confirmation. -/
theorem restriction_not_kept : ¬ ∀ (disk : Disk) (ts : List Step) (s : System) (c : System.Call)
    (order : MapOrder) (wall : UInt64) (request : EvaluationRequest) (d : Decision)
    (r r' : DomainRuntimeState), SessionRun disk ts s → c.command = .evaluate order wall request →
      (s.perform c).1 = some (.decided (.ok d)) → s.governor.runtime request.domain = some r →
        2 ≤ r.stickyOutcome.severity → (s.step c).governor.runtime request.domain = some r' →
          (r'.stickyOutcome.severity < r.stickyOutcome.severity →
            MayRelax s.governor.state.policy.hysteresis d.evaluation d.issuedTick r ∧
              s.governor.state.policy.hysteresis.deescalationConfirmations ≤
                (r.confirmations + 1).toUInt64) ∧
          (2 ≤ d.rawOutcome.severity → r.stickyOutcome.severity ≤ r'.stickyOutcome.severity) := by
  intro h
  obtain ⟨-, -, -, hsticky, hraw, hlower⟩ := overcommitted_checks
  obtain ⟨disk, hsession⟩ := overcommitted_session
  obtain ⟨hreply, hafter⟩ := overcommitted_decided disk
  have hkept := (h emptyDisk _ ⟨overcommitted, disk⟩ evaluateCall .listed 0 sampleRequest _ unseen
    restricted (Trace.run_play_foldl hsession) rfl hreply
    overcommitted_runtime (by rw [hsticky]; decide) hafter).2
  rw [hraw, hsticky] at hkept
  have hle : 7 ≤ 3 := hlower ▸ hkept (by decide)
  exact absurd hle (by decide)

end Governor

end Oversub
