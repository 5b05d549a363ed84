import Oversub.Codec
import Oversub.Engine.Binding
import Oversub.Engine.Rows
import Oversub.Runtime.Authority

/-!
# Oversub.Runtime.DecisionCodec

Decisions as they cross the wire (`protocol.cpp`).  A message holds what the
machine does: words for amounts, raw values for enumerations, bytes for texts.
The notes stay behind, the detail is cut, and only the first resources and
intents are sent (`DecisionMessage.kept`).

The request for a revalidation sends only what its verdict depends on.
-/

namespace Oversub

open Wire Reader

def kMaxDetailLength : Nat := 256
def kMaxWireResources : Nat := 64
def kMaxWireIntents : Nat := 16

/-! ## Authority -/

def writeAuthority (a : AuthorityVector) : List UInt8 :=
  leBytes64 a.domain.value ++ (leBytes64 a.domainGeneration.value ++ (leBytes64 a.policy.value ++
    (leBytes64 a.policyGeneration.value ++ (leBytes64 a.capacityGeneration.value ++
      (leBytes64 a.reservationGeneration.value ++ (leBytes64 a.admissionGeneration.value ++
        (leBytes64 a.riskBudget.value ++ (leBytes64 a.riskBudgetGeneration.value ++
          (leBytes64 a.epoch.value ++ (leBytes64 a.resourceSetFold ++ a.inputDigest.bytes))))))))))

def readAuthority : Reader AuthorityVector := do
  let domain ← u64
  let domainGeneration ← u64
  let policy ← u64
  let policyGeneration ← u64
  let capacityGeneration ← u64
  let reservationGeneration ← u64
  let admissionGeneration ← u64
  let riskBudget ← u64
  let riskBudgetGeneration ← u64
  let epoch ← u64
  let resourceSetFold ← u64
  let inputDigest ← readDigest
  pure {
    domain := ⟨domain⟩, domainGeneration := ⟨domainGeneration⟩, policy := ⟨policy⟩,
    policyGeneration := ⟨policyGeneration⟩, capacityGeneration := ⟨capacityGeneration⟩,
    reservationGeneration := ⟨reservationGeneration⟩, admissionGeneration := ⟨admissionGeneration⟩,
    riskBudget := ⟨riskBudget⟩, riskBudgetGeneration := ⟨riskBudgetGeneration⟩, epoch := ⟨epoch⟩,
    resourceSetFold, inputDigest }

theorem reads_authority (a : AuthorityVector) : readAuthority.Reads (writeAuthority a) a :=
  (reads_u64 _).bind <| (reads_u64 _).bind <| (reads_u64 _).bind <| (reads_u64 _).bind <|
    (reads_u64 _).bind <| (reads_u64 _).bind <| (reads_u64 _).bind <| (reads_u64 _).bind <|
    (reads_u64 _).bind <| (reads_u64 _).bind <| (reads_u64 _).bind <| (reads_digest _).map

/-! ## Accounting -/

/-- `DomainAccounting` in the words of the machine. -/
structure AccountingMessage where
  domain : OversubscriptionDomainId
  pool : PoolId
  physicalCapacity : UInt64
  usableCapacity : UInt64
  effectiveUsableCapacity : UInt64
  guaranteesTotal : UInt64
  emergencyReserve : UInt64
  minProtectedHeadroom : UInt64
  protectedRequired : UInt64
  floorRequired : UInt64
  configuredRatio : Ratio
  effectiveRatio : Ratio
  configuredRatioPpm : UInt64
  effectiveRatioPpm : UInt64
  ratioReducedByDegradation : Bool
  ceilingTotal : UInt64
  contingentCeiling : UInt64
  contingentCommitted : UInt64
  contingentPending : UInt64
  burstCommitted : UInt64
  guaranteedAdmitted : UInt64
  contingentFree : UInt64
  committedTotal : UInt64
  overage : UInt64
  protectedHeadroom : UInt64
  usedPpmOfCeiling : UInt64
  exposure : UInt64
  riskBudgetCeiling : UInt64
  riskExposureRemaining : UInt64
  riskBudgetExceeded : Bool
  outOfScopeGuarantees : UInt64
  outOfScopeDemand : UInt64
  degradedResources : UInt32
  failedResources : UInt32
  bindingConstraint : Code Constraint
  approachingLimit : Bool
  arithmeticClosed : Bool
  deriving DecidableEq

def DomainAccounting.message (a : DomainAccounting) : AccountingMessage where
  domain := a.domain
  pool := a.pool
  physicalCapacity := .ofNat a.physicalCapacity
  usableCapacity := .ofNat a.usableCapacity
  effectiveUsableCapacity := .ofNat a.effectiveUsableCapacity
  guaranteesTotal := .ofNat a.guaranteesTotal
  emergencyReserve := .ofNat a.emergencyReserve
  minProtectedHeadroom := .ofNat a.minProtectedHeadroom
  protectedRequired := .ofNat a.protectedRequired
  floorRequired := .ofNat a.floorRequired
  configuredRatio := a.configuredRatio
  effectiveRatio := a.effectiveRatio
  configuredRatioPpm := .ofNat a.configuredRatioPpm
  effectiveRatioPpm := .ofNat a.effectiveRatioPpm
  ratioReducedByDegradation := a.ratioReducedByDegradation
  ceilingTotal := .ofNat a.ceilingTotal
  contingentCeiling := .ofNat a.contingentCeiling
  contingentCommitted := .ofNat a.contingentCommitted
  contingentPending := .ofNat a.contingentPending
  burstCommitted := .ofNat a.burstCommitted
  guaranteedAdmitted := .ofNat a.guaranteedAdmitted
  contingentFree := .ofNat a.contingentFree
  committedTotal := .ofNat a.committedTotal
  overage := .ofNat a.overage
  protectedHeadroom := .ofNat a.protectedHeadroom
  usedPpmOfCeiling := .ofNat a.usedPpmOfCeiling
  exposure := .ofNat a.exposure
  riskBudgetCeiling := .ofNat a.riskBudgetCeiling
  riskExposureRemaining := .ofNat a.riskExposureRemaining
  riskBudgetExceeded := a.riskBudgetExceeded
  outOfScopeGuarantees := .ofNat a.outOfScopeGuarantees
  outOfScopeDemand := .ofNat a.outOfScopeDemand
  degradedResources := .ofNat a.degradedResources
  failedResources := .ofNat a.failedResources
  bindingConstraint := a.bindingConstraint.code
  approachingLimit := a.approachingLimit
  arithmeticClosed := a.arithmeticClosed

def writeAccounting (a : AccountingMessage) : List UInt8 :=
  leBytes64 a.domain.value ++ (leBytes64 a.pool.value ++ (leBytes64 a.physicalCapacity ++
    (leBytes64 a.usableCapacity ++ (leBytes64 a.effectiveUsableCapacity ++ (leBytes64 a.guaranteesTotal ++
      (leBytes64 a.emergencyReserve ++ (leBytes64 a.minProtectedHeadroom ++ (leBytes64 a.protectedRequired ++
        (leBytes64 a.floorRequired ++ (writeRatio a.configuredRatio ++ (writeRatio a.effectiveRatio ++
          (leBytes64 a.configuredRatioPpm ++ (leBytes64 a.effectiveRatioPpm ++
            (writeBoolean a.ratioReducedByDegradation ++ (leBytes64 a.ceilingTotal ++
              (leBytes64 a.contingentCeiling ++ (leBytes64 a.contingentCommitted ++
                (leBytes64 a.contingentPending ++ (leBytes64 a.burstCommitted ++
                  (leBytes64 a.guaranteedAdmitted ++ (leBytes64 a.contingentFree ++
                    (leBytes64 a.committedTotal ++ (leBytes64 a.overage ++ (leBytes64 a.protectedHeadroom ++
                      (leBytes64 a.usedPpmOfCeiling ++ (leBytes64 a.exposure ++
                        (leBytes64 a.riskBudgetCeiling ++ (leBytes64 a.riskExposureRemaining ++
                          (writeBoolean a.riskBudgetExceeded ++ (leBytes64 a.outOfScopeGuarantees ++
                            (leBytes64 a.outOfScopeDemand ++ (leBytes32 a.degradedResources ++
                              (leBytes32 a.failedResources ++ (leBytes32 a.bindingConstraint.raw ++
                                (writeBoolean a.approachingLimit ++
                                  writeBoolean a.arithmeticClosed)))))))))))))))))))))))))))))))))))

def readAccounting : Reader AccountingMessage := do
  let domain ← u64
  let pool ← u64
  let physicalCapacity ← u64
  let usableCapacity ← u64
  let effectiveUsableCapacity ← u64
  let guaranteesTotal ← u64
  let emergencyReserve ← u64
  let minProtectedHeadroom ← u64
  let protectedRequired ← u64
  let floorRequired ← u64
  let configuredRatio ← readRatio
  let effectiveRatio ← readRatio
  let configuredRatioPpm ← u64
  let effectiveRatioPpm ← u64
  let ratioReducedByDegradation ← boolean
  let ceilingTotal ← u64
  let contingentCeiling ← u64
  let contingentCommitted ← u64
  let contingentPending ← u64
  let burstCommitted ← u64
  let guaranteedAdmitted ← u64
  let contingentFree ← u64
  let committedTotal ← u64
  let overage ← u64
  let protectedHeadroom ← u64
  let usedPpmOfCeiling ← u64
  let exposure ← u64
  let riskBudgetCeiling ← u64
  let riskExposureRemaining ← u64
  let riskBudgetExceeded ← boolean
  let outOfScopeGuarantees ← u64
  let outOfScopeDemand ← u64
  let degradedResources ← u32
  let failedResources ← u32
  let bindingConstraint ← u32
  let approachingLimit ← boolean
  let arithmeticClosed ← boolean
  pure {
    domain := ⟨domain⟩, pool := ⟨pool⟩, physicalCapacity, usableCapacity, effectiveUsableCapacity,
    guaranteesTotal, emergencyReserve, minProtectedHeadroom, protectedRequired, floorRequired,
    configuredRatio, effectiveRatio, configuredRatioPpm, effectiveRatioPpm, ratioReducedByDegradation,
    ceilingTotal, contingentCeiling, contingentCommitted, contingentPending, burstCommitted,
    guaranteedAdmitted, contingentFree, committedTotal, overage, protectedHeadroom, usedPpmOfCeiling,
    exposure, riskBudgetCeiling, riskExposureRemaining, riskBudgetExceeded, outOfScopeGuarantees,
    outOfScopeDemand, degradedResources, failedResources, bindingConstraint := ⟨bindingConstraint⟩,
    approachingLimit, arithmeticClosed }

theorem reads_accounting (a : AccountingMessage) : readAccounting.Reads (writeAccounting a) a :=
  (reads_u64 _).bind <| (reads_u64 _).bind <| (reads_u64 _).bind <| (reads_u64 _).bind <|
    (reads_u64 _).bind <| (reads_u64 _).bind <| (reads_u64 _).bind <| (reads_u64 _).bind <|
    (reads_u64 _).bind <| (reads_u64 _).bind <| (reads_ratio _).bind <| (reads_ratio _).bind <|
    (reads_u64 _).bind <| (reads_u64 _).bind <| (reads_writeBoolean _).bind <| (reads_u64 _).bind <|
    (reads_u64 _).bind <| (reads_u64 _).bind <| (reads_u64 _).bind <| (reads_u64 _).bind <|
    (reads_u64 _).bind <| (reads_u64 _).bind <| (reads_u64 _).bind <| (reads_u64 _).bind <|
    (reads_u64 _).bind <| (reads_u64 _).bind <| (reads_u64 _).bind <| (reads_u64 _).bind <|
    (reads_u64 _).bind <| (reads_writeBoolean _).bind <| (reads_u64 _).bind <| (reads_u64 _).bind <|
    (reads_u32 _).bind <| (reads_u32 _).bind <| (reads_u32 _).bind <| (reads_writeBoolean _).bind
    (reads_writeBoolean _).map

/-! ## Rows and intents -/

/-- `ResourceAccounting` in the words of the machine. -/
structure RowMessage where
  resource : ResourceId
  pool : PoolId
  health : ResourceHealth
  physicalCapacity : UInt64
  usableCapacity : UInt64
  effectiveUsableCapacity : UInt64
  guarantees : UInt64
  contingentCommitted : UInt64
  contingentPending : UInt64
  ceiling : UInt64
  contingentCeiling : UInt64
  contingentFree : UInt64
  overage : UInt64
  protectedHeadroom : UInt64
  bindingConstraint : Code Constraint
  deriving DecidableEq

def ResourceAccounting.message (e : ResourceAccounting) : RowMessage where
  resource := e.resource
  pool := e.pool
  health := e.health
  physicalCapacity := .ofNat e.physicalCapacity
  usableCapacity := .ofNat e.usableCapacity
  effectiveUsableCapacity := .ofNat e.effectiveUsableCapacity
  guarantees := .ofNat e.guarantees
  contingentCommitted := .ofNat e.contingentCommitted
  contingentPending := .ofNat e.contingentPending
  ceiling := .ofNat e.ceiling
  contingentCeiling := .ofNat e.contingentCeiling
  contingentFree := .ofNat e.contingentFree
  overage := .ofNat e.overage
  protectedHeadroom := .ofNat e.protectedHeadroom
  bindingConstraint := e.bindingConstraint.code

def writeRow (e : RowMessage) : List UInt8 :=
  leBytes64 e.resource.value ++ (leBytes64 e.pool.value ++ (leBytes32 e.health.toRaw ++
    (leBytes64 e.physicalCapacity ++ (leBytes64 e.usableCapacity ++ (leBytes64 e.effectiveUsableCapacity ++
      (leBytes64 e.guarantees ++ (leBytes64 e.contingentCommitted ++ (leBytes64 e.contingentPending ++
        (leBytes64 e.ceiling ++ (leBytes64 e.contingentCeiling ++ (leBytes64 e.contingentFree ++
          (leBytes64 e.overage ++ (leBytes64 e.protectedHeadroom ++
            leBytes32 e.bindingConstraint.raw)))))))))))))

def readRow : Reader RowMessage := do
  let resource ← u64
  let pool ← u64
  let health ← u32
  let physicalCapacity ← u64
  let usableCapacity ← u64
  let effectiveUsableCapacity ← u64
  let guarantees ← u64
  let contingentCommitted ← u64
  let contingentPending ← u64
  let ceiling ← u64
  let contingentCeiling ← u64
  let contingentFree ← u64
  let overage ← u64
  let protectedHeadroom ← u64
  let bindingConstraint ← u32
  pure {
    resource := ⟨resource⟩, pool := ⟨pool⟩, health := .ofRaw health, physicalCapacity, usableCapacity,
    effectiveUsableCapacity, guarantees, contingentCommitted, contingentPending, ceiling, contingentCeiling,
    contingentFree, overage, protectedHeadroom, bindingConstraint := ⟨bindingConstraint⟩ }

/-- `CorrectiveIntent` in the words of the machine. -/
structure IntentMessage where
  kind : Code CorrectiveKind
  target : Code CorrectiveTarget
  domain : OversubscriptionDomainId
  resource : ResourceId
  pool : PoolId
  serviceClass : ServiceClassId
  amountUnits : UInt64
  reason : Code ReasonCode
  rationale : List UInt8
  deriving DecidableEq

def CorrectiveKind.code (k : CorrectiveKind) : Code CorrectiveKind := ⟨UInt32.ofNat k.ctorIdx⟩
def CorrectiveTarget.code (t : CorrectiveTarget) : Code CorrectiveTarget := ⟨UInt32.ofNat t.ctorIdx⟩

def CorrectiveIntent.message (i : CorrectiveIntent) : IntentMessage where
  kind := i.kind.code
  target := i.target.code
  domain := i.domain
  resource := i.resource
  pool := i.pool
  serviceClass := i.serviceClass
  amountUnits := .ofNat i.amountUnits
  reason := i.reason.code
  rationale := textBytes i.rationale

def writeIntent (i : IntentMessage) : List UInt8 :=
  leBytes32 i.kind.raw ++ (leBytes32 i.target.raw ++ (leBytes64 i.domain.value ++
    (leBytes64 i.resource.value ++ (leBytes64 i.pool.value ++ (leBytes64 i.serviceClass.value ++
      (leBytes64 i.amountUnits ++ (leBytes32 i.reason.raw ++
        writeString kMaxDetailLength i.rationale)))))))

def readIntent : Reader IntentMessage := do
  let kind ← u32
  let target ← u32
  let domain ← u64
  let resource ← u64
  let pool ← u64
  let serviceClass ← u64
  let amountUnits ← u64
  let reason ← u32
  let rationale ← string kMaxDetailLength
  pure {
    kind := ⟨kind⟩, target := ⟨target⟩, domain := ⟨domain⟩, resource := ⟨resource⟩, pool := ⟨pool⟩,
    serviceClass := ⟨serviceClass⟩, amountUnits, reason := ⟨reason⟩, rationale }

theorem reads_row (e : RowMessage) : readRow.Reads (writeRow e) e := by
  have h : readRow.Reads (writeRow e) { e with health := .ofRaw e.health.toRaw } :=
    (reads_u64 _).bind <| (reads_u64 _).bind <| (reads_u32 _).bind <| (reads_u64 _).bind <|
      (reads_u64 _).bind <| (reads_u64 _).bind <| (reads_u64 _).bind <| (reads_u64 _).bind <|
      (reads_u64 _).bind <| (reads_u64 _).bind <| (reads_u64 _).bind <| (reads_u64 _).bind <|
      (reads_u64 _).bind <| (reads_u64 _).bind <| (reads_u32 _).map
  rwa [ResourceHealth.ofRaw_toRaw] at h

theorem reads_intent {i : IntentMessage} (h : i.rationale.length ≤ kMaxDetailLength) :
    readIntent.Reads (writeIntent i) i :=
  (reads_u32 _).bind <| (reads_u32 _).bind <| (reads_u64 _).bind <| (reads_u64 _).bind <|
    (reads_u64 _).bind <| (reads_u64 _).bind <| (reads_u64 _).bind <| (reads_u32 _).bind
    (reads_writeString (by decide) h).map

/-! ## Decisions -/

/-- `EvaluationResult` in the words of the machine. -/
structure EvaluationMessage where
  outcome : Code Outcome
  reason : Code ReasonCode
  detail : List UInt8
  accounting : AccountingMessage
  resources : List RowMessage
  intents : List IntentMessage
  notes : List (List UInt8)
  authority : AuthorityVector
  authorityValid : Bool
  newOversubscriptionAuthorized : Bool
  authorizedIncrementUnits : UInt64
  fenceRequired : Bool
  resultDigest : Digest
  deriving DecidableEq

/-- `Decision` in the words of the machine. -/
structure DecisionMessage where
  id : DecisionId
  evaluation : EvaluationMessage
  rawOutcome : Code Outcome
  effectiveOutcome : Code Outcome
  newOversubscriptionAuthorized : Bool
  authorizedIncrementUnits : UInt64
  fenced : Bool
  confirmations : UInt32
  issuedTick : UInt64
  incarnation : IncarnationId
  epoch : FabricEpoch
  decisionDigest : Digest
  deriving DecidableEq

def EvaluationResult.message (r : EvaluationResult) : EvaluationMessage where
  outcome := r.outcome.code
  reason := r.reason.code
  detail := textBytes r.detail
  accounting := r.accounting.message
  resources := r.resources.map (·.message)
  intents := r.intents.map (·.message)
  notes := r.notes.map textBytes
  authority := r.authority
  authorityValid := r.authorityValid
  newOversubscriptionAuthorized := r.newOversubscriptionAuthorized
  authorizedIncrementUnits := .ofNat r.authorizedIncrementUnits
  fenceRequired := r.fenceRequired
  resultDigest := r.resultDigest

def Decision.message (d : Decision) : DecisionMessage where
  id := d.id
  evaluation := d.evaluation.message
  rawOutcome := d.rawOutcome.code
  effectiveOutcome := d.effectiveOutcome
  newOversubscriptionAuthorized := d.newOversubscriptionAuthorized
  authorizedIncrementUnits := .ofNat d.authorizedIncrementUnits
  fenced := d.fenced
  confirmations := d.confirmations
  issuedTick := d.issuedTick
  incarnation := d.incarnation
  epoch := d.epoch
  decisionDigest := d.decisionDigest

/-- What is sent of an evaluation. -/
def EvaluationMessage.kept (r : EvaluationMessage) : EvaluationMessage :=
  { r with
    detail := r.detail.take kMaxDetailLength
    resources := r.resources.take kMaxWireResources
    intents := r.intents.take kMaxWireIntents
    notes := [] }

/-- What is sent of a decision. -/
def DecisionMessage.kept (m : DecisionMessage) : DecisionMessage := { m with evaluation := m.evaluation.kept }

/-- `decision_digest`, from the fields of a message. -/
def DecisionMessage.digest (m : DecisionMessage) : Digest :=
  let h : CanonicalHasher := CanonicalHasher.addText {} "oversub.decision.v1"
  let h := (h.addU64 m.id.value).addDigest m.evaluation.resultDigest
  let h := (h.addU32 m.rawOutcome.raw).addU32 m.effectiveOutcome.raw
  let h := (h.addBool m.newOversubscriptionAuthorized).addU64 m.authorizedIncrementUnits
  let h := ((h.addBool m.fenced).addU64 m.issuedTick).addU64 m.incarnation.value
  (h.addU64 m.epoch.value).digest

def writeDecision (m : DecisionMessage) : List UInt8 :=
  leBytes64 m.id.value ++ (leBytes32 m.evaluation.outcome.raw ++ (leBytes32 m.evaluation.reason.raw ++
    (writeString kMaxDetailLength (m.evaluation.detail.take kMaxDetailLength) ++
      (m.evaluation.resultDigest.bytes ++ (writeAccounting m.evaluation.accounting ++
        (writeBoolean m.evaluation.authorityValid ++
          (writeBoolean m.evaluation.newOversubscriptionAuthorized ++
            (leBytes64 m.evaluation.authorizedIncrementUnits ++ (writeBoolean m.evaluation.fenceRequired ++
              (writeAuthority m.evaluation.authority ++
                (writeTable writeRow (m.evaluation.resources.take kMaxWireResources) ++
                  (writeTable writeIntent (m.evaluation.intents.take kMaxWireIntents) ++
                    (leBytes32 m.rawOutcome.raw ++ (leBytes32 m.effectiveOutcome.raw ++
                      (writeBoolean m.newOversubscriptionAuthorized ++
                        (leBytes64 m.authorizedIncrementUnits ++ (writeBoolean m.fenced ++
                          (leBytes32 m.confirmations ++ (leBytes64 m.issuedTick ++
                            (leBytes64 m.incarnation.value ++ (leBytes64 m.epoch.value ++
                              m.decisionDigest.bytes)))))))))))))))))))))

def readDecision : Reader DecisionMessage := do
  let id ← u64
  let outcome ← u32
  let reason ← u32
  let detail ← string kMaxDetailLength
  let resultDigest ← readDigest
  let accounting ← readAccounting
  let authorityValid ← boolean
  let newAuthorized ← boolean
  let incrementUnits ← u64
  let fenceRequired ← boolean
  let authority ← readAuthority
  let resources ← readTable kMaxWireResources readRow
  let intents ← readTable kMaxWireIntents readIntent
  let rawOutcome ← u32
  let effectiveOutcome ← u32
  let newOversubscriptionAuthorized ← boolean
  let authorizedIncrementUnits ← u64
  let fenced ← boolean
  let confirmations ← u32
  let issuedTick ← u64
  let incarnation ← u64
  let epoch ← u64
  let decisionDigest ← readDigest
  pure {
    id := ⟨id⟩
    evaluation := {
      outcome := ⟨outcome⟩, reason := ⟨reason⟩, detail, accounting, resources, intents, notes := [],
      authority, authorityValid, newOversubscriptionAuthorized := newAuthorized,
      authorizedIncrementUnits := incrementUnits, fenceRequired, resultDigest }
    rawOutcome := ⟨rawOutcome⟩, effectiveOutcome := ⟨effectiveOutcome⟩, newOversubscriptionAuthorized,
    authorizedIncrementUnits, fenced, confirmations, issuedTick, incarnation := ⟨incarnation⟩,
    epoch := ⟨epoch⟩, decisionDigest }

/-- `encode_decision`. -/
def encodeDecision (d : Decision) : List UInt8 := writeDecision d.message

/-- `decode_decision`. -/
def decodeDecision (bytes : List UInt8) : Option DecisionMessage := readDecision.whole bytes

theorem reads_decision {m : DecisionMessage}
    (h : ∀ i ∈ m.evaluation.intents, i.rationale.length ≤ kMaxDetailLength) :
    readDecision.Reads (writeDecision m) m.kept := by
  have hdetail : (m.evaluation.detail.take kMaxDetailLength).length ≤ kMaxDetailLength := List.length_take_le _ _
  have hrows : (m.evaluation.resources.take kMaxWireResources).length ≤ kMaxWireResources :=
    List.length_take_le _ _
  have hintents : (m.evaluation.intents.take kMaxWireIntents).length ≤ kMaxWireIntents :=
    List.length_take_le _ _
  exact (reads_u64 _).bind <| (reads_u32 _).bind <| (reads_u32 _).bind <|
    (reads_writeString (by decide) hdetail).bind <| (reads_digest _).bind <| (reads_accounting _).bind <|
    (reads_writeBoolean _).bind <| (reads_writeBoolean _).bind <| (reads_u64 _).bind <|
    (reads_writeBoolean _).bind <| (reads_authority _).bind <|
    (reads_table (fun e _ => reads_row e) hrows (by decide)).bind <|
    (reads_table (fun i hi => reads_intent (h i (List.mem_of_mem_take hi))) hintents (by decide)).bind <|
    (reads_u32 _).bind <| (reads_u32 _).bind <| (reads_writeBoolean _).bind <| (reads_u64 _).bind <|
    (reads_writeBoolean _).bind <| (reads_u32 _).bind <| (reads_u64 _).bind <| (reads_u64 _).bind <|
    (reads_u64 _).bind <| (reads_digest _).map

theorem decode_encodeDecision {d : Decision}
    (h : ∀ i ∈ d.evaluation.intents, (textBytes i.rationale).length ≤ kMaxDetailLength) :
    decodeDecision (encodeDecision d) = some d.message.kept := by
  refine (reads_decision fun i hi => ?_).whole
  obtain ⟨j, hj, rfl⟩ := List.mem_map.mp hi
  exact h j hj

/-! ## Revalidation -/

def writeRevalidateRequest (d : Decision) : List UInt8 :=
  leBytes64 d.id.value ++ (d.decisionDigest.bytes ++ (writeBoolean d.evaluation.authorityValid ++
    (leBytes64 d.incarnation.value ++ (leBytes64 d.epoch.value ++ writeAuthority d.evaluation.authority))))

/-- The fields a request does not send keep their defaults. -/
def readRevalidateRequest : Reader Decision := do
  let id ← u64
  let decisionDigest ← readDigest
  let authorityValid ← boolean
  let incarnation ← u64
  let epoch ← u64
  let authority ← readAuthority
  pure {
    id := ⟨id⟩, decisionDigest, evaluation := { authorityValid, authority }, incarnation := ⟨incarnation⟩,
    epoch := ⟨epoch⟩ }

/-- `encode_revalidate_request`. -/
def encodeRevalidateRequest (d : Decision) : List UInt8 := writeRevalidateRequest d

/-- `decode_revalidate_request`. -/
def decodeRevalidateRequest (bytes : List UInt8) : Option Decision := readRevalidateRequest.whole bytes

/-- What a request sends of a decision. -/
def Decision.request (d : Decision) : Decision where
  id := d.id
  decisionDigest := d.decisionDigest
  evaluation := { authorityValid := d.evaluation.authorityValid, authority := d.evaluation.authority }
  incarnation := d.incarnation
  epoch := d.epoch

theorem decode_encodeRevalidateRequest (d : Decision) :
    decodeRevalidateRequest (encodeRevalidateRequest d) = some d.request := by
  have h : readRevalidateRequest.Reads (writeRevalidateRequest d) d.request :=
    (reads_u64 _).bind <| (reads_digest _).bind <| (reads_writeBoolean _).bind <| (reads_u64 _).bind <|
      (reads_u64 _).bind <| (reads_authority _).map
  exact h.whole

/-- The verdict depends on nothing else. -/
theorem Governor.revalidate_request (g : Governor) (d : Decision) : g.revalidate d.request = g.revalidate d := rfl

/-! ## What a message says -/

/-- The amounts of a decision are words of the machine. -/
structure Decision.Fits (d : Decision) : Prop where
  account : Words d.evaluation.accounting.amounts
  degraded : d.evaluation.accounting.degradedResources < 2 ^ 32
  failed : d.evaluation.accounting.failedResources < 2 ^ 32
  rows : d.evaluation.Rows
  intents : ∀ i ∈ d.evaluation.intents, i.amountUnits < 2 ^ 64
  increment : d.evaluation.authorizedIncrementUnits < 2 ^ 64
  granted : d.authorizedIncrementUnits < 2 ^ 64

section

variable {a b : Nat}

theorem ofNat64_inj (ha : a < 2 ^ 64) (hb : b < 2 ^ 64) (h : UInt64.ofNat a = UInt64.ofNat b) : a = b := by
  have hvalue := congrArg UInt64.toNat h
  rwa [UInt64.toNat_ofNat_of_lt' ha, UInt64.toNat_ofNat_of_lt' hb] at hvalue

theorem ofNat32_inj (ha : a < 2 ^ 32) (hb : b < 2 ^ 32) (h : UInt32.ofNat a = UInt32.ofNat b) : a = b := by
  have hvalue := congrArg UInt32.toNat h
  rwa [UInt32.toNat_ofNat_of_lt' ha, UInt32.toNat_ofNat_of_lt' hb] at hvalue

theorem textBytes_inj {s t : String} (h : textBytes s = textBytes t) : s = t := by
  unfold textBytes at h
  have hbytes : s.toUTF8 = t.toUTF8 := ByteArray.ext (Array.toList_inj.mp h)
  exact String.toByteArray_inj.mp hbytes

/-- Lists with the same images, where the images tell their elements apart. -/
theorem map_inj_on {α β : Type} {f : α → β} {P : α → Prop} (hf : ∀ x y, P x → P y → f x = f y → x = y)
    {l l' : List α} (hl : ∀ x ∈ l, P x) (hl' : ∀ x ∈ l', P x) (h : l.map f = l'.map f) : l = l' := by
  induction l generalizing l' with
  | nil => exact (List.map_eq_nil_iff.mp h.symm).symm
  | cons x l ih =>
      obtain ⟨y, l', rfl, hxy, hrest⟩ := List.map_eq_cons_iff.mp h.symm
      obtain ⟨hx, hl⟩ := List.forall_mem_cons.mp hl
      obtain ⟨hy, hl'⟩ := List.forall_mem_cons.mp hl'
      rw [hf x y hx hy hxy.symm, ih hl hl' hrest.symm]

end

/-- Words that make the same words of the machine are the same. -/
theorem words_inj {l l' : List Nat} (hl : Words l) (hl' : Words l') (h : l.map UInt64.ofNat = l'.map UInt64.ofNat) :
    l = l' := map_inj_on (P := fun n => n < 2 ^ 64) (fun _ _ => ofNat64_inj) hl hl' h

/-- Values of an enumeration are told apart by their numbers. -/
theorem enum_inj {α : Type} {ctorIdx : α → Nat} {ofNat : Nat → α} (hof : ∀ a, ofNat (ctorIdx a) = a)
    (hlt : ∀ a, ctorIdx a < 2 ^ 32) {a b : α} (h : UInt32.ofNat (ctorIdx a) = UInt32.ofNat (ctorIdx b)) : a = b := by
  rw [← hof a, ← hof b, ofNat32_inj (hlt a) (hlt b) h]

theorem constraint_inj {c c' : Constraint} (h : c.code = c'.code) : c = c' :=
  enum_inj Constraint.ofNat_ctorIdx Constraint.ctorIdx_lt (congrArg Code.raw h)

theorem reason_inj {r r' : ReasonCode} (h : r.code = r'.code) : r = r' :=
  enum_inj ReasonCode.ofNat_ctorIdx ReasonCode.ctorIdx_lt (congrArg Code.raw h)

theorem accounting_inj {a b : DomainAccounting} (ha : Words a.amounts) (hb : Words b.amounts)
    (hda : a.degradedResources < 2 ^ 32) (hdb : b.degradedResources < 2 ^ 32)
    (hfa : a.failedResources < 2 ^ 32) (hfb : b.failedResources < 2 ^ 32) (h : a.message = b.message) : a = b := by
  have hdegraded := ofNat32_inj hda hdb (congrArg AccountingMessage.degradedResources h)
  have hfailed := ofNat32_inj hfa hfb (congrArg AccountingMessage.failedResources h)
  have hconstraint := constraint_inj (congrArg AccountingMessage.bindingConstraint h)
  clear hda hdb hfa hfb
  simp only [DomainAccounting.message, AccountingMessage.mk.injEq] at h
  have hamounts := words_inj ha hb (by simp only [DomainAccounting.amounts, List.map_cons, List.map_nil, h])
  cases a
  cases b
  simp only [DomainAccounting.amounts, List.cons.injEq] at hamounts
  simp only at h hdegraded hfailed hconstraint
  simp [hamounts, hdegraded, hfailed, hconstraint, h]

theorem row_inj {e e' : ResourceAccounting} (he : Words e.amounts) (he' : Words e'.amounts)
    (h : e.message = e'.message) : e = e' := by
  have hconstraint := constraint_inj (congrArg RowMessage.bindingConstraint h)
  simp only [ResourceAccounting.message, RowMessage.mk.injEq] at h
  have hamounts := words_inj he he' (by simp only [ResourceAccounting.amounts, List.map_cons, List.map_nil, h])
  cases e
  cases e'
  simp only [ResourceAccounting.amounts, List.cons.injEq] at hamounts
  simp only at h hconstraint
  simp [hamounts, hconstraint, h]

theorem intent_inj {i i' : CorrectiveIntent} (hi : i.amountUnits < 2 ^ 64) (hi' : i'.amountUnits < 2 ^ 64)
    (h : i.message = i'.message) : i = i' := by
  have hkind : i.kind = i'.kind := enum_inj CorrectiveKind.ofNat_ctorIdx CorrectiveKind.ctorIdx_lt
    (congrArg Code.raw (congrArg IntentMessage.kind h))
  have htarget : i.target = i'.target := enum_inj CorrectiveTarget.ofNat_ctorIdx CorrectiveTarget.ctorIdx_lt
    (congrArg Code.raw (congrArg IntentMessage.target h))
  have hreason := reason_inj (congrArg IntentMessage.reason h)
  have hamount := ofNat64_inj hi hi' (congrArg IntentMessage.amountUnits h)
  have hrationale := textBytes_inj (congrArg IntentMessage.rationale h)
  simp only [CorrectiveIntent.message, IntentMessage.mk.injEq] at h
  cases i
  cases i'
  simp only at h hkind htarget hreason hamount hrationale
  simp [hkind, htarget, hreason, hamount, hrationale, h]

/-- **A message** tells which decision it is of. -/
theorem message_inj {d d' : Decision} (hd : d.Fits) (hd' : d'.Fits) (h : d.message = d'.message) : d = d' := by
  have heval : d.evaluation.message = d'.evaluation.message := congrArg DecisionMessage.evaluation h
  have hraw : d.rawOutcome = d'.rawOutcome := Code.code_inj.mp (congrArg DecisionMessage.rawOutcome h)
  have hgranted := ofNat64_inj hd.granted hd'.granted (congrArg DecisionMessage.authorizedIncrementUnits h)
  have hincrement := ofNat64_inj hd.increment hd'.increment
    (congrArg EvaluationMessage.authorizedIncrementUnits heval)
  have houtcome : d.evaluation.outcome = d'.evaluation.outcome :=
    Code.code_inj.mp (congrArg EvaluationMessage.outcome heval)
  have hreason := reason_inj (congrArg EvaluationMessage.reason heval)
  have hdetail := textBytes_inj (congrArg EvaluationMessage.detail heval)
  have haccount := accounting_inj hd.account hd'.account hd.degraded hd'.degraded hd.failed hd'.failed
    (congrArg EvaluationMessage.accounting heval)
  have hrows := map_inj_on (P := fun e : ResourceAccounting => Words e.amounts) (fun _ _ => row_inj) hd.rows hd'.rows
    (congrArg EvaluationMessage.resources heval)
  have hintents := map_inj_on (P := fun i : CorrectiveIntent => i.amountUnits < 2 ^ 64) (fun _ _ => intent_inj) hd.intents hd'.intents
    (congrArg EvaluationMessage.intents heval)
  have hnotes := map_inj_on (P := fun _ => True) (fun _ _ _ _ => textBytes_inj) (fun _ _ => trivial)
    (fun _ _ => trivial) (congrArg EvaluationMessage.notes heval)
  simp only [EvaluationResult.message, EvaluationMessage.mk.injEq] at heval
  have hevaluation : d.evaluation = d'.evaluation := by
    cases hr : d.evaluation
    cases hr' : d'.evaluation
    simp only [hr, hr'] at heval hincrement houtcome hreason hdetail haccount hrows hintents hnotes
    simp [hincrement, houtcome, hreason, hdetail, haccount, hrows, hintents, hnotes, heval]
  simp only [Decision.message, DecisionMessage.mk.injEq] at h
  cases d
  cases d'
  simp only at h hevaluation hraw hgranted
  simp [hevaluation, hraw, hgranted, h]

/-! ## Issued decisions -/

namespace Governor

variable {g : Governor} {order : MapOrder} {domain : OversubscriptionDomainId} {tick wall : UInt64}

theorem evaluationAt_said : ∀ i ∈ (g.evaluationAt order domain tick).intents,
    (textBytes i.rationale).length ≤ kMaxDetailLength := by
  have hshort : (rationales.all fun t => decide ((textBytes t).length ≤ kMaxDetailLength)) = true := by
    decide +kernel
  unfold evaluationAt
  split
  · have huncovered : (textBytes "the domain is not covered by policy; no authority exists").length ≤
        kMaxDetailLength := by decide +kernel
    exact List.forall_mem_singleton.mpr huncovered
  · exact fun i hi => of_decide_eq_true (List.all_eq_true.mp hshort _ (evaluate_said i hi))

/-- The evaluation of a live runtime holds words. -/
theorem evaluationAt_fits (hg : g.Live) :
    Words (g.evaluationAt order domain tick).accounting.amounts ∧
      (g.evaluationAt order domain tick).accounting.degradedResources < 2 ^ 32 ∧
      (g.evaluationAt order domain tick).accounting.failedResources < 2 ^ 32 ∧
      (g.evaluationAt order domain tick).Rows ∧
      (∀ i ∈ (g.evaluationAt order domain tick).intents, i.amountUnits < 2 ^ 64) ∧
      (g.evaluationAt order domain tick).authorizedIncrementUnits < 2 ^ 64 := by
  unfold evaluationAt
  cases hdomain : g.index.domain domain with
  | none =>
      dsimp only [uncovered]
      refine ⟨?_, by decide, by decide, List.forall_mem_nil _,
        List.forall_mem_singleton.mpr (Nat.two_pow_pos 64), by decide⟩
      simp only [Words, DomainAccounting.amounts]
      decide
  | some dc =>
      dsimp only
      rw [hg.index] at hdomain ⊢
      obtain ⟨hmem, -⟩ := PolicyIndex.domain_eq_some hdomain
      have hcoherent : (evaluateDomain order g.state.policy (.rebuild g.state.policy) dc (g.expectationFor domain)
          (g.evidenceFor domain) tick).Coherent g.state.policy dc.members.length :=
        evaluate_coherent (validatePolicy_warn_pos hg.policy)
      have hmembers := (validatePolicy_storable hg.policy).members dc hmem
      have hcounted := hcoherent.acc.counted
      have hmax : kHardMaxResourcesPerDomain < 2 ^ 32 := by decide
      exact ⟨hcoherent.acc.words, by omega, by omega, evaluate_rows, hcoherent.amounts, hcoherent.increment⟩

theorem rule_fits (hg : g.Live) : (g.rule order domain tick wall).decision.Fits := by
  obtain ⟨haccount, hdegraded, hfailed, hrows, hintents, hincrement⟩ :=
    @evaluationAt_fits g order domain tick hg
  refine ⟨haccount, hdegraded, hfailed, hrows, hintents, hincrement, ?_⟩
  unfold rule
  dsimp only
  split
  · exact hincrement
  · exact Nat.two_pow_pos 64

theorem rule_said : ∀ i ∈ (g.rule order domain tick wall).decision.evaluation.intents,
    (textBytes i.rationale).length ≤ kMaxDetailLength := evaluationAt_said

/-- The digest of a message is that of the decision, which does not cover
itself. -/
theorem kept_digest {d d' : Decision} (hd : d = { d' with decisionDigest := decisionDigest d' }) :
    d.message.kept.digest = d.decisionDigest := by
  have hmessage : d.message.kept.digest = decisionDigest d := rfl
  rw [hmessage, hd]
  rfl

theorem rule_digest : (g.rule order domain tick wall).decision.message.kept.digest =
    (g.rule order domain tick wall).decision.decisionDigest :=
  @kept_digest _ { (g.rule order domain tick wall).decision with decisionDigest := Digest.zero } rfl

/-- **Decisions cross the wire**: a decision that was issued is decoded as what
is kept of it, its digest can be computed from that, and its revalidation
gives the report it gives on the decision itself. -/
theorem decision_crosses {disk : Disk} {ts : List Step} {s : System} (hrun : SessionRun disk ts s)
    {c : System.Call} {order : MapOrder} {wall : UInt64} {request : EvaluationRequest} {d : Decision}
    (hc : c.command = .evaluate order wall request) (hreply : (s.perform c).1 = some (.decided (.ok d))) :
    (d.Fits ∧ ∀ d', d'.Fits → d'.message = d.message → d' = d) ∧
      decodeDecision (encodeDecision d) = some d.message.kept ∧
      d.message.kept.digest = d.decisionDigest ∧
      ∀ g : Governor, (decodeRevalidateRequest (encodeRevalidateRequest d)).map g.revalidate =
        some (g.revalidate d) := by
  have heffect := System.effect_of_reply hreply
  rw [hc] at heffect
  cases heffect.evaluates with
  | @recorded tick _ _ hopen _ _ hruling _ =>
      have hd := hruling d rfl
      have hfits : d.Fits := by
        rw [hd]
        exact rule_fits (live_of_run hrun hopen)
      have hsaid : ∀ i ∈ d.evaluation.intents, (textBytes i.rationale).length ≤ kMaxDetailLength := by
        rw [hd]
        exact rule_said
      have hdigest : d.message.kept.digest = d.decisionDigest := by
        rw [hd]
        exact rule_digest
      refine ⟨⟨hfits, fun d' hd' => message_inj hd' hfits⟩, decode_encodeDecision hsaid, hdigest, fun g => ?_⟩
      rw [decode_encodeRevalidateRequest, Option.map_some, revalidate_request]

/-- The decision of the sample session does. -/
theorem decision_crosses_sample :
    (sampleDecision.Fits ∧ ∀ d', d'.Fits → d'.message = sampleDecision.message → d' = sampleDecision) ∧
      decodeDecision (encodeDecision sampleDecision) = some sampleDecision.message.kept ∧
      sampleDecision.message.kept.digest = sampleDecision.decisionDigest ∧
      ∀ g : Governor, (decodeRevalidateRequest (encodeRevalidateRequest sampleDecision)).map g.revalidate =
        some (g.revalidate sampleDecision) := by
  obtain ⟨disk, hdecided⟩ := sampleSystem_decided
  have hreply : (System.perform sampleSystem evaluateCall).1 = some (.decided (.ok sampleDecision)) :=
    congrArg Prod.fst hdecided
  exact decision_crosses (Trace.run_play (System.boot emptyDisk) sampleCalls) rfl hreply

end Governor

end Oversub
