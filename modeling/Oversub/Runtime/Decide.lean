import Oversub.Runtime.Publish
import Oversub.Engine.Evaluate

/-!
# Oversub.Runtime.Decide

Decisions (`governor.cpp`): an evaluation over what the slots hold, hysteresis
between its raw and its effective outcome, the fence, the audit record that is
durable before the decision is, and the revalidation of an earlier decision.

The wall clock and the order of the engine's map are parameters: the first is
only recorded.
-/

namespace Oversub

open Crash Files

/-! ## Data -/

structure Decision where
  id : DecisionId := {}
  evaluation : EvaluationResult := {}
  rawOutcome : Outcome := .unknown
  effectiveOutcome : Code Outcome := Outcome.unknown.code
  newOversubscriptionAuthorized : Bool := false
  authorizedIncrementUnits : Nat := 0
  fenced : Bool := false
  confirmations : UInt32 := 0
  issuedTick : UInt64 := 0
  incarnation : IncarnationId := {}
  epoch : FabricEpoch := {}
  decisionDigest : Digest := Digest.zero
  deriving DecidableEq, Inhabited

structure RevalidationReport where
  valid : Bool := false
  reason : ReasonCode := .none
  detail : String := ""
  deriving DecidableEq

structure EvaluationRequest where
  domain : OversubscriptionDomainId := {}
  tick : UInt64 := 0
  deriving DecidableEq

/-- `decision_digest`. -/
def decisionDigest (d : Decision) : Digest :=
  let h : CanonicalHasher := CanonicalHasher.addText {} "oversub.decision.v1"
  let h := (h.addU64 d.id.value).addDigest d.evaluation.resultDigest
  let h := (h.addU32 d.rawOutcome.code.raw).addU32 d.effectiveOutcome.raw
  let h := (h.addBool d.newOversubscriptionAuthorized).addNat d.authorizedIncrementUnits
  let h := ((h.addBool d.fenced).addU64 d.issuedTick).addU64 d.incarnation.value
  (h.addU64 d.epoch.value).digest

/-- `fence_worthy`. -/
def fenceWorthy (o : Code Outcome) : Bool :=
  o == Outcome.emergencyReduction.code || o == Outcome.policyRejected.code ||
    o == Outcome.conflictingInput.code

/-! ## Hysteresis -/

/-- Whether a relaxation may count as confirmed at a tick. -/
def mayRelax (hysteresis : HysteresisPolicy) (usedPpm : Nat) (tick : UInt64)
    (working : DomainRuntimeState) : Bool :=
  let used := UInt64.ofNat (min usedPpm kPpmScale)
  used + hysteresis.deescalationMarginPpm ≤ UInt64.ofNat kPpmScale &&
    working.lastEscalationTick ≤ tick &&
    hysteresis.cooldownTicks ≤ tick - working.lastEscalationTick

/-- The runtime state and the effective outcome after a raw outcome.
Restriction is immediate, relaxation waits for its confirmations. -/
def applyHysteresis (hysteresis : HysteresisPolicy) (result : EvaluationResult) (tick : UInt64)
    (working : DomainRuntimeState) : DomainRuntimeState × Code Outcome :=
  let raw := result.outcome.code
  let sticky := working.stickyOutcome
  if 2 ≤ result.outcome.severity then
    ({ working with
        lastEscalationTick :=
          if sticky.severity < result.outcome.severity then tick else working.lastEscalationTick
        stickyOutcome := raw
        confirmations := 0 }, raw)
  else if result.outcome.severity = 1 then
    if 2 ≤ sticky.severity then ({ working with confirmations := 0 }, sticky)
    else
      let atLimit := Outcome.atLimit.code
      let confirmations := (if sticky = atLimit then working.confirmations else 0) + 1
      ({ working with stickyOutcome := atLimit, confirmations },
        if hysteresis.escalationConfirmations ≤ confirmations.toUInt64 then atLimit
        else Outcome.withinPolicy.code)
  else if sticky.severity = 0 then
    ({ working with stickyOutcome := raw, confirmations := 0 }, raw)
  else if !mayRelax hysteresis result.accounting.usedPpmOfCeiling tick working then
    ({ working with confirmations := 0 }, sticky)
  else
    let confirmations := working.confirmations + 1
    if hysteresis.deescalationConfirmations ≤ confirmations.toUInt64 then
      ({ working with stickyOutcome := raw, confirmations := 0 }, raw)
    else ({ working with confirmations }, sticky)

/-! ## The decision -/

/-- A decision, with the runtime state and the audit record that go with it. -/
structure Ruling where
  decision : Decision
  working : DomainRuntimeState
  record : AuditRecord

namespace Governor

def expectationFor (g : Governor) (domain : OversubscriptionDomainId) : AuthorityExpectation where
  epoch := g.state.epoch
  policyGeneration := g.state.policy.generation
  domainGeneration := ((g.index.domain domain).map (·.generation)).getD {}
  capacityGeneration := ⟨(g.slotState domain .capacity).generation⟩
  reservationGeneration := ⟨(g.slotState domain .reservation).generation⟩
  admissionGeneration := ⟨(g.slotState domain .admission).generation⟩
  riskBudgetGeneration := g.state.policy.riskBudget.generation

/-- The snapshot a slot offers: none unless it has content. -/
def offered {σ : Type} (K : SnapshotKind σ) (g : Governor) (domain : OversubscriptionDomainId) :
    Option σ :=
  match g.findSlot domain K.kind with
  | none => none
  | some slot => if slot.hasContent then K.content slot else none

def evidenceFor (g : Governor) (domain : OversubscriptionDomainId) : DomainEvidence where
  capacity := offered capacityKind g domain
  reservations := offered reservationKind g domain
  admissions := offered admissionKind g domain

/-- The result for a domain the policy does not cover. -/
def uncovered (g : Governor) (domain : OversubscriptionDomainId) : EvaluationResult :=
  let expectation := g.expectationFor domain
  { outcome := .unknown
    reason := .domainNotInPolicy
    detail := "the policy does not cover this domain"
    accounting := { domain }
    authority := {
      domain
      policy := g.state.policy.id
      policyGeneration := g.state.policy.generation
      epoch := g.state.epoch
      riskBudget := g.state.policy.riskBudget.id
      riskBudgetGeneration := g.state.policy.riskBudget.generation
      capacityGeneration := expectation.capacityGeneration
      reservationGeneration := expectation.reservationGeneration
      admissionGeneration := expectation.admissionGeneration }
    intents := [{
      kind := .revalidateEvidence
      target := .domain
      domain
      reason := .domainNotInPolicy
      rationale := "the domain is not covered by policy; no authority exists" }] }

def evaluationAt (order : MapOrder) (g : Governor) (domain : OversubscriptionDomainId)
    (tick : UInt64) : EvaluationResult :=
  match g.index.domain domain with
  | none => g.uncovered domain
  | some d =>
      evaluateDomain order g.state.policy g.index d (g.expectationFor domain) (g.evidenceFor domain)
        tick

/-- The runtime state an evaluation starts from. -/
def workingFor (g : Governor) (domain : OversubscriptionDomainId) (result : EvaluationResult) :
    DomainRuntimeState :=
  match g.runtime domain with
  | some previous => previous
  | none =>
      { domain
        generation := (g.expectationFor domain).domainGeneration
        stickyOutcome := result.outcome.code
        lastRawOutcome := result.outcome.code }

/-- The text of an audit record. -/
def auditSummary (result : EvaluationResult) : List UInt8 :=
  let text := textBytes result.outcome.toString ++
    if result.reason = .none then [] else textBytes (":" ++ result.reason.toString)
  text.take kMaxAuditSummary

/-- The decision of an evaluation at a tick, before anything is recorded. -/
def rule (order : MapOrder) (g : Governor) (domain : OversubscriptionDomainId) (tick wall : UInt64) :
    Ruling :=
  let result := evaluationAt order g domain tick
  let before := g.workingFor domain result
  let (working, effective) := applyHysteresis g.state.policy.hysteresis result tick before
  let authorized :=
    effective == Outcome.withinPolicy.code && result.newOversubscriptionAuthorized
  -- a fence is only cleared by an authoritative outcome
  let fenced := fenceWorthy effective || (before.fenced && !effective.isAuthoritative)
  let unsigned : Decision := {
    id := ⟨g.state.decisionsIssued + 1⟩
    evaluation := result
    rawOutcome := result.outcome
    effectiveOutcome := effective
    newOversubscriptionAuthorized := authorized
    authorizedIncrementUnits := if authorized then result.authorizedIncrementUnits else 0
    fenced
    confirmations := working.confirmations
    issuedTick := tick
    incarnation := g.state.incarnation
    epoch := g.state.epoch }
  let decision := { unsigned with decisionDigest := decisionDigest unsigned }
  let generation := (g.expectationFor domain).domainGeneration
  { decision
    working := { working with
      lastRawOutcome := result.outcome.code
      generation
      fenced
      fenceReason := if fenced then result.reason.code else ReasonCode.none.code
      fenceEpoch := if fenced then g.state.epoch else {}
      lastDecision := decision.id
      lastDecisionDigest := decision.decisionDigest }
    record := {
      id := ⟨decision.id.value⟩
      tick
      wallMillis := wall
      incarnation := g.state.incarnation
      epoch := g.state.epoch
      domain
      domainGeneration := generation
      policyGeneration := g.state.policy.generation
      rawOutcome := result.outcome.code
      effectiveOutcome := effective
      reason := result.reason.code
      bindingConstraint := result.accounting.bindingConstraint.code
      decision := decision.id
      decisionDigest := decision.decisionDigest
      inputDigest := result.authority.inputDigest
      authorized
      authorizedIncrement := UInt64.ofNat decision.authorizedIncrementUnits
      fenced
      confirmations := working.confirmations
      lastEscalationTick := working.lastEscalationTick
      ceilingTotal := UInt64.ofNat result.accounting.ceilingTotal
      committedTotal := UInt64.ofNat result.accounting.committedTotal
      overage := UInt64.ofNat result.accounting.overage
      summary := auditSummary result } }

/-! ## Recording -/

/-- `compact_journal_locked`. -/
def compactJournal (g : Governor) : Storage (Status × Governor) := do
  let keep := min g.options.journalCompactionRecords g.options.maxJournalRecords
  let (status, store) ← g.store.compactJournal g.state.audit keep
  let g := { g with store }
  if status.isOk then
    let audit := g.state.audit.drop (g.state.audit.length - keep.toNat)
    pure (.success, { g with state := { g.state with audit }, stateDirty := true })
  else pure (status, g)

/-- One try at the journal. -/
def tryAppend (g : Governor) (record : AuditRecord) : Storage (Status × Governor) := do
  let (status, store) ← g.store.appendAudit record
  pure (status, { g with store })

/-- The history with a record at its end, as much of it as the bound keeps. -/
def withAudit (g : Governor) (record : AuditRecord) : Governor :=
  let audit := g.state.audit ++ [record]
  { g with state := { g.state with
      audit := audit.drop (audit.length - g.options.maxAuditRecords.toNat) } }

/-- `append_journal_locked`: a journal at its bound is compacted first. -/
def appendJournal (g : Governor) (record : AuditRecord) : Storage (Status × Governor) := do
  let (status, g) ← g.tryAppend record
  if status.code = .overflow then
    let (status, g) ← g.compactJournal
    if status.isOk then
      let (status, g) ← g.tryAppend record
      pure (status, if status.isOk then g.withAudit record else g)
    else pure (status, g)
  else pure (status, if status.isOk then g.withAudit record else g)

/-- The runtime after a recorded decision. -/
def withRuling (g : Governor) (domain : OversubscriptionDomainId) (r : Ruling) : Governor :=
  let domains :=
    match g.runtime domain with
    | some _ => Table.modify (·.domain) domain (fun _ => r.working) g.state.domains
    | none => g.state.domains ++ [r.working]
  { g with
    state := { g.state with
      domains
      decisionsIssued := r.decision.id.value
      tick := r.decision.issuedTick }
    decisionsSinceSave := g.decisionsSinceSave + 1
    stateDirty := true }

/-- `evaluate_locked`; `cancelled` is what the cancel flag holds when the
decision is complete. -/
def evaluateLocked (order : MapOrder) (wall : UInt64) (g : Governor) (request : EvaluationRequest)
    (cancelled : Bool) : Storage (Except Status Decision × Governor) :=
  if !g.isOpen then pure (.error notOpen, g)
  else if !request.domain.valid then
    pure (.error (invalid .invalidIdentity "evaluation domain unset"), g)
  else
    let tick := max request.tick g.clock.tick
    let g := { g with clock := g.clock.observe tick }
    let r := g.rule order request.domain tick wall
    if cancelled then
      pure (.error (.failure .cancelled .decisionCancelled
        "evaluation was cancelled before its authoritative completion boundary"), g)
    else if (g.runtime request.domain).isNone ∧ kMaxDomainsState ≤ g.state.domains.length then
      pure (.error (outOfRange .limitExceeded "domain runtime table is full"), g)
    else do
      let (status, g) ← g.appendJournal r.record
      if !status.isOk then pure (.error status, g)
      else
        let (status, g) ← (g.withRuling request.domain r).persistState false
        pure (if status.isOk then .ok r.decision else .error status, g)

def evaluate (order : MapOrder) (wall : UInt64) (g : Governor) (request : EvaluationRequest) :
    Storage (Except Status Decision × Governor) :=
  if !g.accepting then pure (.error shuttingDownStatus, g)
  else g.evaluateLocked order wall request false

/-! ## Revalidation -/

def invalidated (reason : ReasonCode) (detail : String) : RevalidationReport where
  valid := false
  reason := reason
  detail := detail

/-- The slot of a kind still holds the evidence of a generation. -/
def slotCurrent (g : Governor) (domain : OversubscriptionDomainId) (kind : EvidenceKind)
    (generation : UInt64) : Bool :=
  match g.findSlot domain kind with
  | none => false
  | some slot =>
      slot.hasContent && !slot.state.revalidationRequired && slot.state.generation == generation

/-- The three slots of a decision, with what the report calls them. -/
def slotChecks (a : AuthorityVector) : List (EvidenceKind × UInt64 × String) := [
  (.capacity, a.capacityGeneration.value, "capacity"),
  (.reservation, a.reservationGeneration.value, "reservation"),
  (.admission, a.admissionGeneration.value, "admission")]

def revalidateSlots (g : Governor) (a : AuthorityVector) : RevalidationReport :=
  match (slotChecks a).find? fun c => !g.slotCurrent a.domain c.1 c.2.1 with
  | some c =>
      invalidated .decisionStale
        ("the " ++ c.2.2 ++ " evidence that justified the decision is no longer authoritative")
  | none =>
      { valid := true, reason := .none, detail := "decision is still bound to the current authority" }

/-- The report of `revalidate`; it looks at no clock. -/
def revalidationOf (g : Governor) (d : Decision) : RevalidationReport :=
  let a := d.evaluation.authority
  if !a.complete || !d.evaluation.authorityValid then
    invalidated .decisionNotAuthoritative "the decision never carried authority"
  else if d.incarnation ≠ g.state.incarnation then
    invalidated .decisionStale "the runtime was restarted; live authority is not restored"
  else if d.epoch.value ≠ g.state.epoch.value then
    invalidated .decisionEpochMismatch "the fabric epoch advanced"
  else if a.policyGeneration.value ≠ g.state.policy.generation.value then
    invalidated .decisionGenerationMismatch "the policy generation changed"
  else if a.riskBudgetGeneration.value ≠ g.state.policy.riskBudget.generation.value then
    invalidated .decisionGenerationMismatch "the risk budget generation changed"
  else
    match g.index.domain a.domain with
    | none =>
        invalidated .decisionGenerationMismatch "the domain is no longer covered by the policy"
    | some domain =>
        if a.domainGeneration.value ≠ domain.generation.value then
          invalidated .decisionGenerationMismatch "the domain configuration generation changed"
        else
          match g.runtime a.domain with
          | none => g.revalidateSlots a
          | some runtime =>
              if runtime.fenced then invalidated .decisionAlreadyFenced "the domain is fenced"
              else if runtime.lastDecision.valid ∧ runtime.lastDecision ≠ d.id then
                invalidated .decisionSuperseded "a newer decision supersedes this one"
              else g.revalidateSlots a

def revalidate (g : Governor) (d : Decision) : Except Status RevalidationReport :=
  if !g.isOpen then .error notOpen else .ok (g.revalidationOf d)

end Governor

end Oversub
