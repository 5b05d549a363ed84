/-!
# Oversub.Status

Status and reason codes, governance outcomes and the enumerations of the
evidence (`status.hpp`, `status.cpp`).

Constructors stand in the order of the source, so an enumerator's value is
its constructor index.  `ResourceHealth` and `DemandKind` reach the engine
from the wire through a bare `static_cast<u32>`: their fixed underlying type
admits every 32-bit value, so both carry a constructor for the values that
name no enumerator.
-/

namespace Oversub

/-! ## Status -/

inductive StatusCode where
  | ok | invalidArgument | outOfRange | notFound | alreadyExists | stale | conflict | denied
  | fenced | corruptData | integrityFailure | ioError | overflow | unsupported | cancelled
  | shuttingDown | busy | duplicate | queueFull | notAuthoritative | internalError
  deriving DecidableEq

def StatusCode.toString : StatusCode → String
  | .ok => "Ok"
  | .invalidArgument => "InvalidArgument"
  | .outOfRange => "OutOfRange"
  | .notFound => "NotFound"
  | .alreadyExists => "AlreadyExists"
  | .stale => "Stale"
  | .conflict => "Conflict"
  | .denied => "Denied"
  | .fenced => "Fenced"
  | .corruptData => "CorruptData"
  | .integrityFailure => "IntegrityFailure"
  | .ioError => "IoError"
  | .overflow => "Overflow"
  | .unsupported => "Unsupported"
  | .cancelled => "Cancelled"
  | .shuttingDown => "ShuttingDown"
  | .busy => "Busy"
  | .duplicate => "Duplicate"
  | .queueFull => "QueueFull"
  | .notAuthoritative => "NotAuthoritative"
  | .internalError => "InternalError"

/-- The machine-readable "why" of a status or an outcome. -/
inductive ReasonCode where
  | none | invalidIdentity | invalidField | policyRatioInvalid | policyRatioOutOfBound
  | policyThresholdsInverted | policyFreshnessUnbounded | policyDomainDuplicate
  | policyDomainEmpty | policyDomainUnknown | policyDomainTooLarge | policyDomainMemberDuplicate
  | policyServiceClassDuplicate | policyServiceClassIneligibleDemand | policyRiskBudgetInvalid
  | policyRiskBudgetGenerationMismatch | policyGenerationMismatch | policyDigestMismatch
  | policyLimitExceeded | policyReserveInvalid | domainNotInPolicy | domainGenerationMismatch
  | domainMembershipChanged | resourceNotInDomain | resourceGenerationMismatch
  | resourceMissingFromCapacitySnapshot | resourceDuplicateInCapacitySnapshot
  | resourceCapacityInvalid | resourceUsableExceedsPhysical | resourceFailed | resourceDegraded
  | resourceHealthUnknown | resourcePoolMismatch | epochMismatch | epochRegression
  | epochNotAdvanced | generationAheadOfRuntime | generationUnset | snapshotMissing
  | snapshotEmpty | snapshotTooLarge | snapshotGenerationMismatch | snapshotFutureDated
  | snapshotStale | snapshotDigestMismatch | snapshotOutOfOrder | snapshotDuplicate
  | guaranteeContradiction | guaranteeDuplicate | guaranteeSumExceedsUsable
  | guaranteeFloorExceedsCeiling | guaranteeOutOfScope | guaranteeServiceClassUnknown
  | reservationSumOverflow | admissionDuplicate | admissionKindConflict
  | admissionServiceClassUnknown | admissionSumOverflow | admissionExceedsContingentCeiling
  | admissionNoContingentCeiling | burstPoolExceeded | serviceClassShareExceeded
  | riskBudgetExceeded | riskBudgetExposureOverflow | arithmeticOverflow | evidenceIncomplete
  | evidenceContradictory | evidenceDuplicate | evidenceReplayed | evidenceFutureDated
  | evidenceSequenceRegression | evidencePayloadTooLarge | evidenceMalformed
  | publisherNotRegistered | publisherFenced | publisherIncarnationStale
  | publisherIncarnationUnknown | publisherProtocolMismatch | publisherSequenceReplayed
  | workerIncarnationFenced | workerEpochStale | attemptAbandoned | decisionStale
  | decisionSuperseded | decisionEpochMismatch | decisionGenerationMismatch
  | decisionNotAuthoritative | decisionCancelled | decisionAlreadyFenced | persistenceCorrupt
  | persistenceVersionUnsupported | persistenceIntegrityFailure | persistenceTruncated
  | persistenceTooLarge | persistenceJournalPartial | persistenceNotInitialized | transportClosed
  | transportError | frameTooLarge | frameTruncated | frameMalformed | protocolViolation
  | bufferLimitExceeded | queueLimitExceeded | payloadTooLarge | shuttingDown | cancelled
  | limitExceeded | unsupportedOperation | internal
  deriving DecidableEq

def ReasonCode.toString : ReasonCode → String
  | .none => "None"
  | .invalidIdentity => "InvalidIdentity"
  | .invalidField => "InvalidField"
  | .policyRatioInvalid => "PolicyRatioInvalid"
  | .policyRatioOutOfBound => "PolicyRatioOutOfBound"
  | .policyThresholdsInverted => "PolicyThresholdsInverted"
  | .policyFreshnessUnbounded => "PolicyFreshnessUnbounded"
  | .policyDomainDuplicate => "PolicyDomainDuplicate"
  | .policyDomainEmpty => "PolicyDomainEmpty"
  | .policyDomainUnknown => "PolicyDomainUnknown"
  | .policyDomainTooLarge => "PolicyDomainTooLarge"
  | .policyDomainMemberDuplicate => "PolicyDomainMemberDuplicate"
  | .policyServiceClassDuplicate => "PolicyServiceClassDuplicate"
  | .policyServiceClassIneligibleDemand => "PolicyServiceClassIneligibleDemand"
  | .policyRiskBudgetInvalid => "PolicyRiskBudgetInvalid"
  | .policyRiskBudgetGenerationMismatch => "PolicyRiskBudgetGenerationMismatch"
  | .policyGenerationMismatch => "PolicyGenerationMismatch"
  | .policyDigestMismatch => "PolicyDigestMismatch"
  | .policyLimitExceeded => "PolicyLimitExceeded"
  | .policyReserveInvalid => "PolicyReserveInvalid"
  | .domainNotInPolicy => "DomainNotInPolicy"
  | .domainGenerationMismatch => "DomainGenerationMismatch"
  | .domainMembershipChanged => "DomainMembershipChanged"
  | .resourceNotInDomain => "ResourceNotInDomain"
  | .resourceGenerationMismatch => "ResourceGenerationMismatch"
  | .resourceMissingFromCapacitySnapshot => "ResourceMissingFromCapacitySnapshot"
  | .resourceDuplicateInCapacitySnapshot => "ResourceDuplicateInCapacitySnapshot"
  | .resourceCapacityInvalid => "ResourceCapacityInvalid"
  | .resourceUsableExceedsPhysical => "ResourceUsableExceedsPhysical"
  | .resourceFailed => "ResourceFailed"
  | .resourceDegraded => "ResourceDegraded"
  | .resourceHealthUnknown => "ResourceHealthUnknown"
  | .resourcePoolMismatch => "ResourcePoolMismatch"
  | .epochMismatch => "EpochMismatch"
  | .epochRegression => "EpochRegression"
  | .epochNotAdvanced => "EpochNotAdvanced"
  | .generationAheadOfRuntime => "GenerationAheadOfRuntime"
  | .generationUnset => "GenerationUnset"
  | .snapshotMissing => "SnapshotMissing"
  | .snapshotEmpty => "SnapshotEmpty"
  | .snapshotTooLarge => "SnapshotTooLarge"
  | .snapshotGenerationMismatch => "SnapshotGenerationMismatch"
  | .snapshotFutureDated => "SnapshotFutureDated"
  | .snapshotStale => "SnapshotStale"
  | .snapshotDigestMismatch => "SnapshotDigestMismatch"
  | .snapshotOutOfOrder => "SnapshotOutOfOrder"
  | .snapshotDuplicate => "SnapshotDuplicate"
  | .guaranteeContradiction => "GuaranteeContradiction"
  | .guaranteeDuplicate => "GuaranteeDuplicate"
  | .guaranteeSumExceedsUsable => "GuaranteeSumExceedsUsable"
  | .guaranteeFloorExceedsCeiling => "GuaranteeFloorExceedsCeiling"
  | .guaranteeOutOfScope => "GuaranteeOutOfScope"
  | .guaranteeServiceClassUnknown => "GuaranteeServiceClassUnknown"
  | .reservationSumOverflow => "ReservationSumOverflow"
  | .admissionDuplicate => "AdmissionDuplicate"
  | .admissionKindConflict => "AdmissionKindConflict"
  | .admissionServiceClassUnknown => "AdmissionServiceClassUnknown"
  | .admissionSumOverflow => "AdmissionSumOverflow"
  | .admissionExceedsContingentCeiling => "AdmissionExceedsContingentCeiling"
  | .admissionNoContingentCeiling => "AdmissionNoContingentCeiling"
  | .burstPoolExceeded => "BurstPoolExceeded"
  | .serviceClassShareExceeded => "ServiceClassShareExceeded"
  | .riskBudgetExceeded => "RiskBudgetExceeded"
  | .riskBudgetExposureOverflow => "RiskBudgetExposureOverflow"
  | .arithmeticOverflow => "ArithmeticOverflow"
  | .evidenceIncomplete => "EvidenceIncomplete"
  | .evidenceContradictory => "EvidenceContradictory"
  | .evidenceDuplicate => "EvidenceDuplicate"
  | .evidenceReplayed => "EvidenceReplayed"
  | .evidenceFutureDated => "EvidenceFutureDated"
  | .evidenceSequenceRegression => "EvidenceSequenceRegression"
  | .evidencePayloadTooLarge => "EvidencePayloadTooLarge"
  | .evidenceMalformed => "EvidenceMalformed"
  | .publisherNotRegistered => "PublisherNotRegistered"
  | .publisherFenced => "PublisherFenced"
  | .publisherIncarnationStale => "PublisherIncarnationStale"
  | .publisherIncarnationUnknown => "PublisherIncarnationUnknown"
  | .publisherProtocolMismatch => "PublisherProtocolMismatch"
  | .publisherSequenceReplayed => "PublisherSequenceReplayed"
  | .workerIncarnationFenced => "WorkerIncarnationFenced"
  | .workerEpochStale => "WorkerEpochStale"
  | .attemptAbandoned => "AttemptAbandoned"
  | .decisionStale => "DecisionStale"
  | .decisionSuperseded => "DecisionSuperseded"
  | .decisionEpochMismatch => "DecisionEpochMismatch"
  | .decisionGenerationMismatch => "DecisionGenerationMismatch"
  | .decisionNotAuthoritative => "DecisionNotAuthoritative"
  | .decisionCancelled => "DecisionCancelled"
  | .decisionAlreadyFenced => "DecisionAlreadyFenced"
  | .persistenceCorrupt => "PersistenceCorrupt"
  | .persistenceVersionUnsupported => "PersistenceVersionUnsupported"
  | .persistenceIntegrityFailure => "PersistenceIntegrityFailure"
  | .persistenceTruncated => "PersistenceTruncated"
  | .persistenceTooLarge => "PersistenceTooLarge"
  | .persistenceJournalPartial => "PersistenceJournalPartial"
  | .persistenceNotInitialized => "PersistenceNotInitialized"
  | .transportClosed => "TransportClosed"
  | .transportError => "TransportError"
  | .frameTooLarge => "FrameTooLarge"
  | .frameTruncated => "FrameTruncated"
  | .frameMalformed => "FrameMalformed"
  | .protocolViolation => "ProtocolViolation"
  | .bufferLimitExceeded => "BufferLimitExceeded"
  | .queueLimitExceeded => "QueueLimitExceeded"
  | .payloadTooLarge => "PayloadTooLarge"
  | .shuttingDown => "ShuttingDown"
  | .cancelled => "Cancelled"
  | .limitExceeded => "LimitExceeded"
  | .unsupportedOperation => "UnsupportedOperation"
  | .internal => "Internal"

/-- What an operation reports. -/
structure Status where
  code : StatusCode := .ok
  reason : ReasonCode := .none
  detail : String := ""
  deriving DecidableEq

namespace Status

def isOk (s : Status) : Bool := s.code == .ok

def success : Status := {}

def failure (code : StatusCode) (reason : ReasonCode) (detail : String := "") : Status :=
  { code, reason, detail }

def toString (s : Status) : String :=
  s.code.toString ++ (if s.reason = .none then "" else " (" ++ s.reason.toString ++ ")") ++
    (if s.detail = "" then "" else ": " ++ s.detail)

end Status

/-! ## Ordered checks -/

/-- One check of a validator: whether it failed, and what it then reports,
which is never `Ok`. -/
structure Check where
  failed : Bool
  status : Status
  refuses : status.isOk = false := by rfl

/-- The report of a sequence of checks: that of the first one that failed. -/
def firstFailure : List Check → Status
  | [] => .success
  | c :: checks => if c.failed then c.status else firstFailure checks

/-- No check of the sequence fails. -/
def AllPass (checks : List Check) : Prop := ∀ c ∈ checks, c.failed = false

@[simp] theorem allPass_nil : AllPass [] := List.forall_mem_nil _

@[simp] theorem allPass_cons {c : Check} {checks : List Check} :
    AllPass (c :: checks) ↔ c.failed = false ∧ AllPass checks := List.forall_mem_cons

@[simp] theorem allPass_append {checks checks' : List Check} :
    AllPass (checks ++ checks') ↔ AllPass checks ∧ AllPass checks' := List.forall_mem_append

@[simp] theorem allPass_flatMap {α : Type} {l : List α} {f : α → List Check} :
    AllPass (l.flatMap f) ↔ ∀ a ∈ l, AllPass (f a) := List.forall_mem_flatMap

theorem firstFailure_isOk {checks : List Check} :
    (firstFailure checks).isOk = true ↔ AllPass checks := by
  induction checks with
  | nil => simp [firstFailure, Status.success, Status.isOk]
  | cons c checks ih =>
      rw [firstFailure, allPass_cons]
      cases h : c.failed with
      | true => simp [c.refuses]
      | false => simp [ih]

/-! ## Outcomes -/

/-- The answer to "how much deliberate oversubscription is legal right now". -/
inductive Outcome where
  | withinPolicy | atLimit | reductionRequired | emergencyReduction | policyRejected | unknown
  | stale | conflictingInput
  deriving DecidableEq

def Outcome.toString : Outcome → String
  | .withinPolicy => "WITHIN_POLICY"
  | .atLimit => "AT_LIMIT"
  | .reductionRequired => "REDUCTION_REQUIRED"
  | .emergencyReduction => "EMERGENCY_REDUCTION"
  | .policyRejected => "POLICY_REJECTED"
  | .unknown => "UNKNOWN"
  | .stale => "STALE"
  | .conflictingInput => "CONFLICTING_INPUT"

namespace Outcome

def isAuthoritative : Outcome → Bool
  | .withinPolicy | .atLimit | .reductionRequired | .emergencyReduction => true
  | _ => false

def allowsNewAuthority (o : Outcome) : Bool := o == .withinPolicy

/-- Higher is more restrictive; the outcomes that deny authority come last. -/
def severity : Outcome → Nat
  | .withinPolicy => 0
  | .atLimit => 1
  | .reductionRequired => 2
  | .emergencyReduction => 3
  | .policyRejected => 4
  | .stale => 5
  | .conflictingInput => 6
  | .unknown => 7

theorem severity_le (o : Outcome) : o.severity ≤ 7 := by cases o <;> decide

theorem isAuthoritative_iff {o : Outcome} : o.isAuthoritative = true ↔ o.severity ≤ 3 := by
  cases o <;> decide

theorem severity_eq_zero {o : Outcome} : o.severity = 0 ↔ o = .withinPolicy := by
  cases o <;> decide

end Outcome

/-- The constraint that determined the legal boundary. -/
inductive Constraint where
  | none | configuredRatio | policyRatioCap | degradedRatioCap | riskBudgetExposureAbsolute
  | riskBudgetExposurePpm | minimumProtectedHeadroom | emergencyReserve | guaranteeProtectionFloor
  | usableCapacity | noCapacity | serviceClassExclusion | burstPoolCap | domainNotCovered
  deriving DecidableEq

/-! ## Corrective intent -/

inductive CorrectiveKind where
  | none | reduceContingentAdmissionBudget | requestBorrowedCapacityRecall | reduceBurstPool
  | increaseProtectedHeadroom | fenceOversubscribedAdmission | revalidateEvidence
  | resolveConflictingEvidence
  deriving DecidableEq

inductive CorrectiveTarget where
  | domain | resource | pool | serviceClass
  deriving DecidableEq

/-! ## Enumerations of the evidence -/

/-- The health of a resource: an enumerator, or a 32-bit value that names none. -/
inductive ResourceHealth where
  | unknown | healthy | degraded | failed
  | unnamed (raw : UInt32) (h : 4 ≤ raw)
  deriving DecidableEq

namespace ResourceHealth

/-- `static_cast<ResourceHealth>(raw)`. -/
def ofRaw (raw : UInt32) : ResourceHealth :=
  if raw = 0 then .unknown
  else if raw = 1 then .healthy
  else if raw = 2 then .degraded
  else if raw = 3 then .failed
  else if h : 4 ≤ raw then .unnamed raw h else .unknown

/-- `static_cast<u32>(health)`. -/
def toRaw : ResourceHealth → UInt32
  | .unknown => 0
  | .healthy => 1
  | .degraded => 2
  | .failed => 3
  | .unnamed raw _ => raw

/-- The value names one of the four enumerators. -/
def isNamed : ResourceHealth → Bool
  | .unnamed _ _ => false
  | _ => true

end ResourceHealth

/-- How a demand record consumes capacity: an enumerator, or a 32-bit value
that names none. -/
inductive DemandKind where
  | unknown | guaranteed | contingent | burst
  | unnamed (raw : UInt32) (h : 4 ≤ raw)
  deriving DecidableEq

namespace DemandKind

/-- `static_cast<DemandKind>(raw)`. -/
def ofRaw (raw : UInt32) : DemandKind :=
  if raw = 0 then .unknown
  else if raw = 1 then .guaranteed
  else if raw = 2 then .contingent
  else if raw = 3 then .burst
  else if h : 4 ≤ raw then .unnamed raw h else .unknown

/-- `static_cast<u32>(kind)`. -/
def toRaw : DemandKind → UInt32
  | .unknown => 0
  | .guaranteed => 1
  | .contingent => 2
  | .burst => 3
  | .unnamed raw _ => raw

/-- The value names one of the four enumerators. -/
def isNamed : DemandKind → Bool
  | .unnamed _ _ => false
  | _ => true

end DemandKind

theorem UInt32.four_le {raw : UInt32} (h0 : raw ≠ 0) (h1 : raw ≠ 1) (h2 : raw ≠ 2) (h3 : raw ≠ 3) :
    4 ≤ raw := by
  simp only [ne_eq, ← UInt32.toNat_inj, UInt32.le_iff_toNat_le] at *
  have e0 : (0 : UInt32).toNat = 0 := rfl
  have e1 : (1 : UInt32).toNat = 1 := rfl
  have e2 : (2 : UInt32).toNat = 2 := rfl
  have e3 : (3 : UInt32).toNat = 3 := rfl
  have e4 : (4 : UInt32).toNat = 4 := rfl
  omega

@[simp] theorem ResourceHealth.toRaw_ofRaw (raw : UInt32) : (ofRaw raw).toRaw = raw := by
  unfold ofRaw
  split; · simp_all [toRaw]
  split; · simp_all [toRaw]
  split; · simp_all [toRaw]
  split; · simp_all [toRaw]
  next h0 h1 h2 h3 => rw [dif_pos (UInt32.four_le h0 h1 h2 h3)]; rfl

@[simp] theorem DemandKind.toRaw_ofRaw (raw : UInt32) : (ofRaw raw).toRaw = raw := by
  unfold ofRaw
  split; · simp_all [toRaw]
  split; · simp_all [toRaw]
  split; · simp_all [toRaw]
  split; · simp_all [toRaw]
  next h0 h1 h2 h3 => rw [dif_pos (UInt32.four_le h0 h1 h2 h3)]; rfl

theorem ResourceHealth.ofRaw_toRaw (x : ResourceHealth) : ofRaw x.toRaw = x := by
  cases x with
  | unnamed raw h =>
      have hne (n : UInt32) (hn : n < 4) : raw ≠ n := fun heq => absurd h (heq ▸ UInt32.not_le.mpr hn)
      unfold toRaw ofRaw
      rw [if_neg (hne 0 (by decide)), if_neg (hne 1 (by decide)), if_neg (hne 2 (by decide)),
        if_neg (hne 3 (by decide)), dif_pos h]
  | _ => rfl

theorem DemandKind.ofRaw_toRaw (x : DemandKind) : ofRaw x.toRaw = x := by
  cases x with
  | unnamed raw h =>
      have hne (n : UInt32) (hn : n < 4) : raw ≠ n := fun heq => absurd h (heq ▸ UInt32.not_le.mpr hn)
      unfold toRaw ofRaw
      rw [if_neg (hne 0 (by decide)), if_neg (hne 1 (by decide)), if_neg (hne 2 (by decide)),
        if_neg (hne 3 (by decide)), dif_pos h]
  | _ => rfl

end Oversub
