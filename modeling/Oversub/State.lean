import Oversub.Lib.Table
import Oversub.Engine.Result

/-!
# Oversub.State

Durable state (`state.hpp`, `state.cpp`): publisher registrations, the
runtime state of the domains, the bookkeeping of the evidence and the audit
history, and the replay of the audit journal.

Evidence itself is never durable; its generations are.
-/

namespace Oversub

def kStateSchemaVersion : UInt32 := 1
def kJournalFormatVersion : UInt32 := 1
def kMaxPublishers : Nat := 4096
def kMaxDomainsState : Nat := 4096
def kMaxEvidenceSlots : Nat := 16384
def kMaxAuditRecords : Nat := 65536
def kMaxAuditSummary : Nat := 256

/-! ## Stored enumerations -/

/-- An enumeration as the codec carries it: a 32-bit value that need not name
an enumerator of `α`. -/
structure Code (α : Type) where
  raw : UInt32 := 0
  deriving DecidableEq, Inhabited

def Outcome.code (o : Outcome) : Code Outcome := ⟨UInt32.ofNat o.ctorIdx⟩
def ReasonCode.code (r : ReasonCode) : Code ReasonCode := ⟨UInt32.ofNat r.ctorIdx⟩
def Constraint.code (c : Constraint) : Code Constraint := ⟨UInt32.ofNat c.ctorIdx⟩
def EvidenceKind.code (k : EvidenceKind) : Code EvidenceKind := ⟨UInt32.ofNat k.ctorIdx⟩

namespace Code

/-- The outcome a value names, if it names one. -/
def outcome (c : Code Outcome) : Option Outcome :=
  [Outcome.withinPolicy, .atLimit, .reductionRequired, .emergencyReduction, .policyRejected,
    .unknown, .stale, .conflictingInput][c.raw.toNat]?

/-- `outcome_severity`: a value that names nothing is as severe as `Unknown`. -/
def severity (c : Code Outcome) : Nat := (c.outcome.map Outcome.severity).getD 7

/-- `outcome_is_authoritative`. -/
def isAuthoritative (c : Code Outcome) : Bool := (c.outcome.map Outcome.isAuthoritative).getD false

@[simp] theorem outcome_code (o : Outcome) : o.code.outcome = some o := by cases o <;> rfl

@[simp] theorem severity_code (o : Outcome) : o.code.severity = o.severity := by
  rw [severity, outcome_code]
  rfl

@[simp] theorem isAuthoritative_code (o : Outcome) : o.code.isAuthoritative = o.isAuthoritative := by
  rw [isAuthoritative, outcome_code]
  rfl

@[simp] theorem code_inj {o o' : Outcome} : o.code = o'.code ↔ o = o' := by
  constructor
  · intro h
    have hout := congrArg outcome h
    rw [outcome_code, outcome_code] at hout
    exact Option.some.inj hout
  · exact congrArg _

end Code

/-! ## Durable state -/

structure PublisherRegistration where
  publisher : PublisherId := {}
  incarnation : IncarnationId := {}
  epoch : FabricEpoch := {}
  lastSequence : UInt64 := 0
  fenced : Bool := false
  fenceReason : Code ReasonCode := {}
  registeredTick : UInt64 := 0
  deriving DecidableEq, Inhabited

/-- Sticky severity, confirmation counter and fence of a domain. -/
structure DomainRuntimeState where
  domain : OversubscriptionDomainId := {}
  generation : DomainGeneration := {}
  stickyOutcome : Code Outcome := {}
  confirmations : UInt32 := 0
  lastEscalationTick : UInt64 := 0
  fenced : Bool := false
  fenceReason : Code ReasonCode := {}
  fenceEpoch : FabricEpoch := {}
  lastDecision : DecisionId := {}
  lastDecisionDigest : Digest := Digest.zero
  lastRawOutcome : Code Outcome := {}
  deriving DecidableEq, Inhabited

/-- Bookkeeping of a slot: its generations survive a restart, its content does
not. -/
structure EvidenceSlotState where
  domain : OversubscriptionDomainId := {}
  kind : Code EvidenceKind := {}
  generation : UInt64 := 0
  evidenceId : EvidenceId := {}
  publisher : PublisherId := {}
  incarnation : IncarnationId := {}
  sequence : UInt64 := 0
  observedTick : UInt64 := 0
  payloadDigest : Digest := Digest.zero
  revalidationRequired : Bool := false
  deriving DecidableEq, Inhabited

/-- The bookkeeping of a slot, whether or not it asks for revalidation. -/
def EvidenceSlotState.bare (s : EvidenceSlotState) : EvidenceSlotState :=
  { s with revalidationRequired := true }

theorem bare_generation {e e' : EvidenceSlotState} (h : e'.bare = e.bare) :
    e'.generation = e.generation := (congrArg EvidenceSlotState.generation h :)

structure AuditRecord where
  id : AuditRecordId := {}
  tick : UInt64 := 0
  wallMillis : UInt64 := 0
  incarnation : IncarnationId := {}
  epoch : FabricEpoch := {}
  domain : OversubscriptionDomainId := {}
  domainGeneration : DomainGeneration := {}
  policyGeneration : PolicyGeneration := {}
  rawOutcome : Code Outcome := Outcome.unknown.code
  effectiveOutcome : Code Outcome := Outcome.unknown.code
  reason : Code ReasonCode := {}
  bindingConstraint : Code Constraint := {}
  decision : DecisionId := {}
  decisionDigest : Digest := Digest.zero
  inputDigest : Digest := Digest.zero
  authorized : Bool := false
  authorizedIncrement : UInt64 := 0
  fenced : Bool := false
  confirmations : UInt32 := 0
  lastEscalationTick : UInt64 := 0
  ceilingTotal : UInt64 := 0
  committedTotal : UInt64 := 0
  overage : UInt64 := 0
  summary : List UInt8 := []
  deriving DecidableEq, Inhabited

structure DurableState where
  schemaVersion : UInt32 := kStateSchemaVersion
  revision : UInt64 := 0
  incarnation : IncarnationId := {}    -- of the runtime; advances on every open
  epoch : FabricEpoch := {}
  policyGeneration : PolicyGeneration := {}
  policyDigest : Digest := Digest.zero
  policy : OversubscriptionPolicy := {}
  publishers : List PublisherRegistration := []
  domains : List DomainRuntimeState := []
  evidence : List EvidenceSlotState := []
  audit : List AuditRecord := []       -- newest last
  decisionsIssued : UInt64 := 0
  tick : UInt64 := 0
  journalRecords : UInt64 := 0
  deriving DecidableEq, Inhabited

/-! ## Replay -/

structure ReplayReport where
  recordsSeen : UInt64 := 0
  recordsApplied : UInt64 := 0
  recordsSkipped : UInt64 := 0
  lastReason : ReasonCode := .none
  detail : String := ""
  deriving DecidableEq, Inhabited

/-- What the replay of a journal carries from record to record. -/
structure Replay where
  state : DurableState
  report : ReplayReport := {}
  previousId : UInt64 := 0

namespace DomainRuntimeState

/-- The runtime state a record leaves its domain in. -/
def replayed (d : DomainRuntimeState) (record : AuditRecord) : DomainRuntimeState :=
  { d with
    generation := record.domainGeneration
    stickyOutcome := record.effectiveOutcome
    lastRawOutcome := record.rawOutcome
    confirmations := record.confirmations
    lastEscalationTick := record.lastEscalationTick
    fenced := record.fenced
    fenceReason := if record.fenced then record.reason else ReasonCode.none.code
    fenceEpoch := record.epoch
    lastDecision := record.decision
    lastDecisionDigest := record.decisionDigest }

/-- The runtime state of a domain no decision has been made for. -/
def fresh (record : AuditRecord) : DomainRuntimeState :=
  { domain := record.domain, generation := record.domainGeneration }

end DomainRuntimeState

/-- The state after a record that names a domain of its table. -/
def DurableState.replayed (s : DurableState) (record : AuditRecord) : DurableState :=
  { s with
    domains := Table.modify (·.domain) record.domain (·.replayed record) s.domains
    decisionsIssued := max s.decisionsIssued record.id.value
    tick := max s.tick record.tick
    epoch := if record.epoch.value ≤ s.epoch.value then s.epoch else record.epoch }

def replayRecord (r : Replay) (record : AuditRecord) : Replay :=
  let report := { r.report with recordsSeen := r.report.recordsSeen + 1 }
  if record.id.value ≤ r.previousId then
    { r with report := { report with
        recordsSkipped := report.recordsSkipped + 1
        lastReason := .evidenceSequenceRegression
        detail := "audit records are not strictly ordered by id" } }
  else
    let applied := { report with recordsApplied := report.recordsApplied + 1 }
    match Table.get (·.domain) record.domain r.state.domains with
    | some _ =>
        { state := r.state.replayed record, report := applied, previousId := record.id.value }
    | none =>
        if kMaxDomainsState ≤ r.state.domains.length then
          { state := r.state
            report := { report with
              recordsSkipped := report.recordsSkipped + 1
              lastReason := .persistenceTooLarge }
            previousId := record.id.value }
        else
          let grown := { r.state with domains := r.state.domains ++ [DomainRuntimeState.fresh record] }
          { state := grown.replayed record, report := applied, previousId := record.id.value }

/-- `rebuild_from_audit`. -/
def rebuildFromAudit (state : DurableState) (records : List AuditRecord) :
    DurableState × ReplayReport :=
  let r := records.foldl replayRecord { state }
  (r.state, r.report)

/-! ## What a replay leaves alone -/

theorem replayRecord_frame (r : Replay) (record : AuditRecord) :
    (replayRecord r record).state = { r.state with
      domains := (replayRecord r record).state.domains
      decisionsIssued := (replayRecord r record).state.decisionsIssued
      tick := (replayRecord r record).state.tick
      epoch := (replayRecord r record).state.epoch } := by
  unfold replayRecord
  dsimp only
  split
  · rfl
  · split
    · rfl
    · split <;> rfl

/-- A replay only touches the domains, the decisions issued, the tick and the
epoch. -/
theorem foldl_replayRecord_frame (records : List AuditRecord) (r : Replay) :
    (records.foldl replayRecord r).state = { r.state with
      domains := (records.foldl replayRecord r).state.domains
      decisionsIssued := (records.foldl replayRecord r).state.decisionsIssued
      tick := (records.foldl replayRecord r).state.tick
      epoch := (records.foldl replayRecord r).state.epoch } := by
  induction records generalizing r with
  | nil => rfl
  | cons record records ih =>
      rw [List.foldl_cons]
      have hrecord := replayRecord_frame r record
      have hih := ih (replayRecord r record)
      rw [hrecord] at hih
      exact hih

/-- A replay never takes an epoch back. -/
theorem le_epoch_replayRecord {r : Replay} {record : AuditRecord} :
    r.state.epoch.value ≤ (replayRecord r record).state.epoch.value := by
  have hreplayed (s : DurableState) : s.epoch.value ≤ (s.replayed record).epoch.value := by
    unfold DurableState.replayed
    dsimp only
    split
    · exact UInt64.le_refl _
    next h => exact UInt64.le_of_lt (UInt64.not_le.mp h)
  unfold replayRecord
  dsimp only
  split
  · exact UInt64.le_refl _
  · split
    · exact hreplayed _
    · split
      · exact UInt64.le_refl _
      · exact hreplayed { r.state with domains := _ }

theorem le_epoch_foldl_replayRecord (records : List AuditRecord) (r : Replay) :
    r.state.epoch.value ≤ (records.foldl replayRecord r).state.epoch.value := by
  induction records generalizing r with
  | nil => exact UInt64.le_refl _
  | cons record records ih => exact UInt64.le_trans le_epoch_replayRecord (ih _)

end Oversub
