import Oversub.State
import Oversub.Lib.EarlyFold

/-!
# Oversub.Codec

Durable state in bytes (`state.cpp`).  Writers produce the fields in order; a
table is a count and its rows, an audit record inside the state stands behind
its size.  Decoding what was written gives it back exactly when every table
is within its bound.
-/

namespace Oversub

open Wire Reader

def corrupt (reason : ReasonCode) (detail : String) : Status := .failure .corruptData reason detail

/-! ## The policy in bytes -/

def writeBoolean (b : Bool) : List UInt8 := [if b then 1 else 0]

/-- `ByteWriter::string`: a string over its bound is not written at all. -/
def writeString (bound : Nat) (x : List UInt8) : List UInt8 :=
  if bound < x.length then [] else leBytes32 (UInt32.ofNat x.length) ++ x

/-- A count and the elements after it. -/
def writeTable {α : Type} (w : α → List UInt8) (l : List α) : List UInt8 :=
  leBytes64 (UInt64.ofNat l.length) ++ l.flatMap w

def writeRatio (r : Ratio) : List UInt8 := leBytes64 r.num ++ leBytes64 r.den

def readRatio : Reader Ratio := do
  let num ← u64
  let den ← u64
  pure { num, den }

def writeResourceId (m : ResourceId) : List UInt8 := leBytes64 m.value

def readResourceId : Reader ResourceId := do
  let value ← u64
  pure ⟨value⟩

def writeDomain (d : DomainConfig) : List UInt8 :=
  leBytes64 d.id.value ++ (leBytes64 d.generation.value ++ (writeString kHardMaxNameLength d.name ++
    (leBytes64 d.pool.value ++ (writeTable writeResourceId d.members ++
      (writeRatio d.configuredRatio ++ (writeBoolean d.hasDegradedRatioCap ++
        (writeRatio d.degradedRatioCap ++ (leBytes64 d.emergencyReserveUnits ++
          (leBytes64 d.minProtectedHeadroomUnits ++ (writeBoolean d.burstPoolEnabled ++
            leBytes64 d.burstPoolCapUnits))))))))))

/-- A count of at most `bound` elements, and the elements. -/
def readTable {α : Type} (bound : Nat) (r : Reader α) : Reader (List α) := do
  let count ← u64
  let _ ← Reader.require (count.toNat ≤ bound)
  Reader.times r count.toNat

def readDomain : Reader DomainConfig := do
  let id ← u64
  let generation ← u64
  let name ← string kHardMaxNameLength
  let pool ← u64
  let members ← readTable kHardMaxResourcesPerDomain readResourceId
  let configuredRatio ← readRatio
  let hasDegradedRatioCap ← boolean
  let degradedRatioCap ← readRatio
  let emergencyReserveUnits ← u64
  let minProtectedHeadroomUnits ← u64
  let burstPoolEnabled ← boolean
  let burstPoolCapUnits ← u64
  pure {
    id := ⟨id⟩, generation := ⟨generation⟩, name, pool := ⟨pool⟩, members, configuredRatio,
    hasDegradedRatioCap, degradedRatioCap, emergencyReserveUnits, minProtectedHeadroomUnits,
    burstPoolEnabled, burstPoolCapUnits }

def writeServiceClass (c : ServiceClassRef) : List UInt8 :=
  leBytes64 c.id.value ++ (writeString kHardMaxNameLength c.name ++ (leBytes32 c.priority.value ++
    (writeBoolean c.oversubscriptionEligible ++ (leBytes32 c.riskWeightPpm ++
      (writeBoolean c.hasContingentShareCap ++ leBytes64 c.contingentShareCapPpm)))))

def readServiceClass : Reader ServiceClassRef := do
  let id ← u64
  let name ← string kHardMaxNameLength
  let priority ← u32
  let oversubscriptionEligible ← boolean
  let riskWeightPpm ← u32
  let hasContingentShareCap ← boolean
  let contingentShareCapPpm ← u64
  pure {
    id := ⟨id⟩, name, priority := ⟨priority⟩, oversubscriptionEligible, riskWeightPpm,
    hasContingentShareCap, contingentShareCapPpm }

def writeRiskBudget (b : RiskBudgetPolicy) : List UInt8 :=
  leBytes64 b.id.value ++ (leBytes64 b.generation.value ++ (writeBoolean b.hasAbsolute ++
    (leBytes64 b.maxExposureUnits ++ (writeBoolean b.hasPpm ++ leBytes64 b.maxExposurePpm))))

def readRiskBudget : Reader RiskBudgetPolicy := do
  let id ← u64
  let generation ← u64
  let hasAbsolute ← boolean
  let maxExposureUnits ← u64
  let hasPpm ← boolean
  let maxExposurePpm ← u64
  pure {
    id := ⟨id⟩, generation := ⟨generation⟩, hasAbsolute, maxExposureUnits, hasPpm,
    maxExposurePpm }

def writeThresholds (t : OversubscriptionThresholds) : List UInt8 :=
  leBytes64 t.warnUsedPpm ++ (leBytes64 t.reduceOveragePpm ++ leBytes64 t.emergencyOveragePpm)

def readThresholds : Reader OversubscriptionThresholds := do
  let warnUsedPpm ← u64
  let reduceOveragePpm ← u64
  let emergencyOveragePpm ← u64
  pure { warnUsedPpm, reduceOveragePpm, emergencyOveragePpm }

def writeHysteresis (h : HysteresisPolicy) : List UInt8 :=
  leBytes64 h.escalationConfirmations ++ (leBytes64 h.deescalationConfirmations ++
    (leBytes64 h.cooldownTicks ++ leBytes64 h.deescalationMarginPpm))

def readHysteresis : Reader HysteresisPolicy := do
  let escalationConfirmations ← u64
  let deescalationConfirmations ← u64
  let cooldownTicks ← u64
  let deescalationMarginPpm ← u64
  pure { escalationConfirmations, deescalationConfirmations, cooldownTicks, deescalationMarginPpm }

def writeLimits (l : PolicyLimits) : List UInt8 :=
  leBytes32 l.maxDomains ++ (leBytes32 l.maxResourcesPerDomain ++ (leBytes32 l.maxServiceClasses ++
    (leBytes64 l.maxGuaranteesPerSnapshot ++ (leBytes64 l.maxDemandRecordsPerSnapshot ++
      (leBytes32 l.maxCorrectiveIntents ++ (leBytes32 l.maxExplanationLines ++
        (leBytes32 l.maxExplanationBytes ++ (leBytes32 l.maxResourceBreakdown ++
          leBytes64 l.maxCapacityUnits))))))))

def readLimits : Reader PolicyLimits := do
  let maxDomains ← u32
  let maxResourcesPerDomain ← u32
  let maxServiceClasses ← u32
  let maxGuaranteesPerSnapshot ← u64
  let maxDemandRecordsPerSnapshot ← u64
  let maxCorrectiveIntents ← u32
  let maxExplanationLines ← u32
  let maxExplanationBytes ← u32
  let maxResourceBreakdown ← u32
  let maxCapacityUnits ← u64
  pure {
    maxDomains, maxResourcesPerDomain, maxServiceClasses, maxGuaranteesPerSnapshot,
    maxDemandRecordsPerSnapshot, maxCorrectiveIntents, maxExplanationLines, maxExplanationBytes,
    maxResourceBreakdown, maxCapacityUnits }

def writePolicy (p : OversubscriptionPolicy) : List UInt8 :=
  leBytes64 p.id.value ++ (leBytes64 p.generation.value ++ (writeString kHardMaxNameLength p.name ++
    (writeRatio p.policyRatioCap ++ (writeTable writeDomain p.domains ++
      (writeTable writeServiceClass p.serviceClasses ++ (writeRiskBudget p.riskBudget ++
        (writeThresholds p.thresholds ++ (writeHysteresis p.hysteresis ++ (writeLimits p.limits ++
          (leBytes64 p.maxCapacityAgeTicks ++ (leBytes64 p.maxReservationAgeTicks ++
            (leBytes64 p.maxAdmissionAgeTicks ++ p.digest.bytes))))))))))))

def readPolicy : Reader OversubscriptionPolicy := do
  let id ← u64
  let generation ← u64
  let name ← string kHardMaxNameLength
  let policyRatioCap ← readRatio
  let domains ← readTable kHardMaxDomains readDomain
  let serviceClasses ← readTable kHardMaxServiceClasses readServiceClass
  let riskBudget ← readRiskBudget
  let thresholds ← readThresholds
  let hysteresis ← readHysteresis
  let limits ← readLimits
  let maxCapacityAgeTicks ← u64
  let maxReservationAgeTicks ← u64
  let maxAdmissionAgeTicks ← u64
  let digest ← readDigest
  pure {
    id := ⟨id⟩, generation := ⟨generation⟩, name, policyRatioCap, domains, serviceClasses,
    riskBudget, thresholds, hysteresis, limits, maxCapacityAgeTicks, maxReservationAgeTicks,
    maxAdmissionAgeTicks, digest }

/-! ## Tables and records in bytes -/

def writePublisher (p : PublisherRegistration) : List UInt8 :=
  leBytes64 p.publisher.value ++ (leBytes64 p.incarnation.value ++ (leBytes64 p.epoch.value ++
    (leBytes64 p.lastSequence ++ (writeBoolean p.fenced ++ (leBytes32 p.fenceReason.raw ++
      leBytes64 p.registeredTick)))))

def readPublisher : Reader PublisherRegistration := do
  let publisher ← u64
  let incarnation ← u64
  let epoch ← u64
  let lastSequence ← u64
  let fenced ← boolean
  let fenceReason ← u32
  let registeredTick ← u64
  pure {
    publisher := ⟨publisher⟩, incarnation := ⟨incarnation⟩, epoch := ⟨epoch⟩, lastSequence, fenced,
    fenceReason := ⟨fenceReason⟩, registeredTick }

def writeDomainState (d : DomainRuntimeState) : List UInt8 :=
  leBytes64 d.domain.value ++ (leBytes64 d.generation.value ++ (leBytes32 d.stickyOutcome.raw ++
    (leBytes32 d.confirmations ++ (leBytes64 d.lastEscalationTick ++ (writeBoolean d.fenced ++
      (leBytes32 d.fenceReason.raw ++ (leBytes64 d.fenceEpoch.value ++
        (leBytes64 d.lastDecision.value ++ (d.lastDecisionDigest.bytes ++
          leBytes32 d.lastRawOutcome.raw)))))))))

def readDomainState : Reader DomainRuntimeState := do
  let domain ← u64
  let generation ← u64
  let stickyOutcome ← u32
  let confirmations ← u32
  let lastEscalationTick ← u64
  let fenced ← boolean
  let fenceReason ← u32
  let fenceEpoch ← u64
  let lastDecision ← u64
  let lastDecisionDigest ← readDigest
  let lastRawOutcome ← u32
  pure {
    domain := ⟨domain⟩, generation := ⟨generation⟩, stickyOutcome := ⟨stickyOutcome⟩, confirmations,
    lastEscalationTick, fenced, fenceReason := ⟨fenceReason⟩, fenceEpoch := ⟨fenceEpoch⟩,
    lastDecision := ⟨lastDecision⟩, lastDecisionDigest, lastRawOutcome := ⟨lastRawOutcome⟩ }

def writeSlotState (e : EvidenceSlotState) : List UInt8 :=
  leBytes64 e.domain.value ++ (leBytes32 e.kind.raw ++ (leBytes64 e.generation ++
    (leBytes64 e.evidenceId.value ++ (leBytes64 e.publisher.value ++
      (leBytes64 e.incarnation.value ++ (leBytes64 e.sequence ++ (leBytes64 e.observedTick ++
        (e.payloadDigest.bytes ++ writeBoolean e.revalidationRequired))))))))

def readSlotState : Reader EvidenceSlotState := do
  let domain ← u64
  let kind ← u32
  let generation ← u64
  let evidenceId ← u64
  let publisher ← u64
  let incarnation ← u64
  let sequence ← u64
  let observedTick ← u64
  let payloadDigest ← readDigest
  let revalidationRequired ← boolean
  pure {
    domain := ⟨domain⟩, kind := ⟨kind⟩, generation, evidenceId := ⟨evidenceId⟩,
    publisher := ⟨publisher⟩, incarnation := ⟨incarnation⟩, sequence, observedTick, payloadDigest,
    revalidationRequired }

/-- The fields of an audit record, its summary last. -/
def writeAuditRecord (a : AuditRecord) : List UInt8 :=
  leBytes64 a.id.value ++ (leBytes64 a.tick ++ (leBytes64 a.wallMillis ++
    (leBytes64 a.incarnation.value ++ (leBytes64 a.epoch.value ++ (leBytes64 a.domain.value ++
      (leBytes64 a.domainGeneration.value ++ (leBytes64 a.policyGeneration.value ++
        (leBytes32 a.rawOutcome.raw ++ (leBytes32 a.effectiveOutcome.raw ++
          (leBytes32 a.reason.raw ++ (leBytes32 a.bindingConstraint.raw ++
            (leBytes64 a.decision.value ++ (a.decisionDigest.bytes ++ (a.inputDigest.bytes ++
              (writeBoolean a.authorized ++ (leBytes64 a.authorizedIncrement ++
                (writeBoolean a.fenced ++ (leBytes32 a.confirmations ++
                  (leBytes64 a.lastEscalationTick ++ (leBytes64 a.ceilingTotal ++
                    (leBytes64 a.committedTotal ++ (leBytes64 a.overage ++
                      writeString kMaxAuditSummary a.summary))))))))))))))))))))))

def readAuditRecord : Reader AuditRecord := do
  let id ← u64
  let tick ← u64
  let wallMillis ← u64
  let incarnation ← u64
  let epoch ← u64
  let domain ← u64
  let domainGeneration ← u64
  let policyGeneration ← u64
  let rawOutcome ← u32
  let effectiveOutcome ← u32
  let reason ← u32
  let bindingConstraint ← u32
  let decision ← u64
  let decisionDigest ← readDigest
  let inputDigest ← readDigest
  let authorized ← boolean
  let authorizedIncrement ← u64
  let fenced ← boolean
  let confirmations ← u32
  let lastEscalationTick ← u64
  let ceilingTotal ← u64
  let committedTotal ← u64
  let overage ← u64
  let summary ← string kMaxAuditSummary
  pure {
    id := ⟨id⟩, tick, wallMillis, incarnation := ⟨incarnation⟩, epoch := ⟨epoch⟩,
    domain := ⟨domain⟩, domainGeneration := ⟨domainGeneration⟩,
    policyGeneration := ⟨policyGeneration⟩, rawOutcome := ⟨rawOutcome⟩,
    effectiveOutcome := ⟨effectiveOutcome⟩, reason := ⟨reason⟩,
    bindingConstraint := ⟨bindingConstraint⟩, decision := ⟨decision⟩, decisionDigest, inputDigest,
    authorized, authorizedIncrement, fenced, confirmations, lastEscalationTick, ceilingTotal,
    committedTotal, overage, summary }

def serializeAuditRecord (record : AuditRecord) : Except Status (List UInt8) :=
  if kMaxAuditSummary < record.summary.length then
    .error (.failure .outOfRange .limitExceeded "audit summary too long")
  else .ok (writeAuditRecord record)

def deserializeAuditRecord (buffer : List UInt8) : Except Status AuditRecord :=
  (Decoder.ofReader readAuditRecord (corrupt .persistenceCorrupt "audit record malformed")).whole
    (corrupt .persistenceCorrupt "trailing bytes after the audit record") buffer

/-! ## The state in bytes -/

/-- The audit history, each record behind its size. -/
def serializeAudit : List AuditRecord → Except Status (List UInt8)
  | [] => .ok []
  | a :: audit => do
      let record ← serializeAuditRecord a
      let rest ← serializeAudit audit
      pure ((leBytes64 (UInt64.ofNat record.length) ++ record) ++ rest)

def writeStateHeader (s : DurableState) : List UInt8 :=
  leBytes64 s.revision ++ (leBytes64 s.incarnation.value ++ (leBytes64 s.epoch.value ++
    leBytes64 s.policyGeneration.value))

def writeStateTrailer (s : DurableState) : List UInt8 :=
  leBytes64 s.decisionsIssued ++ (leBytes64 s.tick ++ leBytes64 s.journalRecords)

def serializeState (s : DurableState) : Except Status (List UInt8) := do
  let audit ← serializeAudit s.audit
  pure (leBytes32 s.schemaVersion ++ (writeStateHeader s ++ (s.policyDigest.bytes ++
    (writePolicy s.policy ++ (writeTable writePublisher s.publishers ++
      (writeTable writeDomainState s.domains ++ (writeTable writeSlotState s.evidence ++
        ((leBytes64 (UInt64.ofNat s.audit.length) ++ audit) ++ writeStateTrailer s))))))))

def readStateHeader : Reader (UInt64 × IncarnationId × FabricEpoch × PolicyGeneration) := do
  let revision ← u64
  let incarnation ← u64
  let epoch ← u64
  let policyGeneration ← u64
  pure (revision, ⟨incarnation⟩, ⟨epoch⟩, ⟨policyGeneration⟩)

def readStateTrailer : Reader (UInt64 × UInt64 × UInt64) := do
  let decisionsIssued ← u64
  let tick ← u64
  let journalRecords ← u64
  pure (decisionsIssued, tick, journalRecords)

def corruptState (detail : String) : Status := corrupt .persistenceCorrupt detail

/-- A table of at most `bound` rows, with the status of each way to fail. -/
def decodeTable {α : Type} (bound : Nat) (row : Decoder Status α) (truncated tooLarge : String) :
    Decoder Status (List α) := do
  let count ← Decoder.ofReader u64 (corruptState truncated)
  let _ ← Decoder.check (count.toNat ≤ bound) (corrupt .persistenceTooLarge tooLarge)
  Decoder.times row count.toNat

def decodePublishers : Decoder Status (List PublisherRegistration) :=
  decodeTable kMaxPublishers
    (.ofReader readPublisher (corruptState "publisher record truncated"))
    "publisher count truncated" "publisher table too large"

def decodeDomainStates : Decoder Status (List DomainRuntimeState) :=
  decodeTable kMaxDomainsState
    (.ofReader readDomainState (corruptState "domain runtime record truncated"))
    "domain count truncated" "domain table too large"

def decodeSlotStates : Decoder Status (List EvidenceSlotState) :=
  decodeTable kMaxEvidenceSlots
    (.ofReader readSlotState (corruptState "evidence slot truncated"))
    "evidence slot count truncated" "evidence table too large"

/-- An audit record behind its size. -/
def decodeSizedRecord : Decoder Status AuditRecord := do
  let size ← Decoder.ofReader u64 (corruptState "audit record size truncated")
  let _ ← Decoder.need size.toNat (corruptState "audit record overruns the payload")
  let record ← Decoder.ofReader (raw size.toNat) (corruptState "audit record truncated")
  Decoder.ofExcept (deserializeAuditRecord record.1)

def decodeAudit : Decoder Status (List AuditRecord) :=
  decodeTable kMaxAuditRecords decodeSizedRecord "audit count truncated" "audit table too large"

def decodeSchema : Decoder Status UInt32 := do
  let schema ← Decoder.ofReader u32 (corruptState "state header truncated")
  let _ ← Decoder.check (schema = kStateSchemaVersion)
    (.failure .unsupported .persistenceVersionUnsupported
      ("unsupported state schema version " ++ toString schema.toNat))
  pure schema

def decodeState : Decoder Status DurableState := do
  let schemaVersion ← decodeSchema
  let header ← Decoder.ofReader readStateHeader (corruptState "state header truncated")
  let policyDigest ← Decoder.ofReader readDigest (corruptState "policy digest truncated")
  let policy ← Decoder.ofReader readPolicy (corruptState "policy payload malformed")
  let publishers ← decodePublishers
  let domains ← decodeDomainStates
  let evidence ← decodeSlotStates
  let audit ← decodeAudit
  let trailer ← Decoder.ofReader readStateTrailer (corruptState "state trailer truncated")
  pure {
    schemaVersion, revision := header.1, incarnation := header.2.1, epoch := header.2.2.1,
    policyGeneration := header.2.2.2, policyDigest, policy, publishers, domains, evidence, audit,
    decisionsIssued := trailer.1, tick := trailer.2.1, journalRecords := trailer.2.2 }

def deserializeState (buffer : List UInt8) : Except Status DurableState :=
  decodeState.whole (corruptState "trailing bytes after the state payload") buffer

/-! ## Round trips of the parts -/

/-- Every name of the policy fits its field, and every table its reader. -/
structure OversubscriptionPolicy.Storable (p : OversubscriptionPolicy) : Prop where
  name : p.name.length ≤ kHardMaxNameLength
  domains : p.domains.length ≤ kHardMaxDomains
  classes : p.serviceClasses.length ≤ kHardMaxServiceClasses
  domain_name : ∀ d ∈ p.domains, d.name.length ≤ kHardMaxNameLength
  members : ∀ d ∈ p.domains, d.members.length ≤ kHardMaxResourcesPerDomain
  class_name : ∀ c ∈ p.serviceClasses, c.name.length ≤ kHardMaxNameLength

/-- **An accepted policy can be stored.** -/
theorem validatePolicy_storable {p : OversubscriptionPolicy} (h : (validatePolicy p).isOk = true) :
    p.Storable := by
  have hall : AllPass (policyChecks p) := firstFailure_isOk.mp h
  simp only [policyChecks, allPass_append, allPass_cons, allPass_nil, allPass_flatMap, and_true,
    and_assoc, domainChecks, serviceClassChecks, Bool.or_eq_false_iff, decide_eq_false_iff_not,
    Nat.not_lt] at hall
  obtain ⟨-, -, hname, -, -, -, -, hdom, -, hcls, -, hdoms, -, hclss, -⟩ := hall
  exact {
    name := hname
    domains := hdom
    classes := hcls
    domain_name := fun d hd => (hdoms d hd).2.2.2.1
    members := fun d hd => (hdoms d hd).2.2.2.2.2.2.1
    class_name := fun c hc => (hclss c hc).2.1 }

section

variable {α : Type} {r : Reader α} {w : α → List UInt8} {l : List α} {bound : Nat}

theorem reads_writeString (hb : bound < 2 ^ 32) {x : List UInt8} (hx : x.length ≤ bound) :
    (string bound).Reads (writeString bound x) x := by
  rw [writeString, if_neg (Nat.not_lt.mpr hx)]
  exact reads_string hb hx

/-- A count below `2 ^ 64` survives its 64 bits. -/
theorem toNat_count (h : l.length < 2 ^ 64) : (UInt64.ofNat l.length).toNat = l.length :=
  Nat.mod_eq_of_lt h

theorem reads_table (hr : ∀ a ∈ l, r.Reads (w a) a) (hl : l.length ≤ bound) (hb : bound < 2 ^ 64) :
    (readTable bound r).Reads (writeTable w l) l := by
  have hcount := toNat_count (Nat.lt_of_le_of_lt hl hb)
  have hle : (UInt64.ofNat l.length).toNat ≤ bound := by rwa [hcount]
  have htimes : (Reader.times r (UInt64.ofNat l.length).toNat).Reads (l.flatMap w) l := by
    rw [hcount]
    exact reads_times hr
  exact (reads_u64 _).bind <| (reads_require hle).bind htimes

theorem reads_writeBoolean (b : Bool) : boolean.Reads (writeBoolean b) b := reads_boolean b

theorem reads_ratio (x : Ratio) : readRatio.Reads (writeRatio x) x :=
  (reads_u64 _).bind (reads_u64 _).map

theorem reads_resourceId (m : ResourceId) : readResourceId.Reads (writeResourceId m) m :=
  (reads_u64 _).map

theorem reads_domain {d : DomainConfig} (hname : d.name.length ≤ kHardMaxNameLength)
    (hmembers : d.members.length ≤ kHardMaxResourcesPerDomain) :
    readDomain.Reads (writeDomain d) d :=
  (reads_u64 _).bind <| (reads_u64 _).bind <| (reads_writeString (by decide) hname).bind <|
    (reads_u64 _).bind <|
    (reads_table (fun m _ => reads_resourceId m) hmembers (by decide)).bind <|
    (reads_ratio _).bind <| (reads_writeBoolean _).bind <| (reads_ratio _).bind <|
    (reads_u64 _).bind <| (reads_u64 _).bind <| (reads_writeBoolean _).bind (reads_u64 _).map

theorem reads_serviceClass {c : ServiceClassRef} (hname : c.name.length ≤ kHardMaxNameLength) :
    readServiceClass.Reads (writeServiceClass c) c :=
  (reads_u64 _).bind <| (reads_writeString (by decide) hname).bind <| (reads_u32 _).bind <|
    (reads_writeBoolean _).bind <| (reads_u32 _).bind <| (reads_writeBoolean _).bind
    (reads_u64 _).map

theorem reads_riskBudget (b : RiskBudgetPolicy) : readRiskBudget.Reads (writeRiskBudget b) b :=
  (reads_u64 _).bind <| (reads_u64 _).bind <| (reads_writeBoolean _).bind <| (reads_u64 _).bind <|
    (reads_writeBoolean _).bind (reads_u64 _).map

theorem reads_thresholds (t : OversubscriptionThresholds) :
    readThresholds.Reads (writeThresholds t) t :=
  (reads_u64 _).bind <| (reads_u64 _).bind (reads_u64 _).map

theorem reads_hysteresis (h : HysteresisPolicy) : readHysteresis.Reads (writeHysteresis h) h :=
  (reads_u64 _).bind <| (reads_u64 _).bind <| (reads_u64 _).bind (reads_u64 _).map

theorem reads_limits (x : PolicyLimits) : readLimits.Reads (writeLimits x) x :=
  (reads_u32 _).bind <| (reads_u32 _).bind <| (reads_u32 _).bind <| (reads_u64 _).bind <|
    (reads_u64 _).bind <| (reads_u32 _).bind <| (reads_u32 _).bind <| (reads_u32 _).bind <|
    (reads_u32 _).bind (reads_u64 _).map

theorem reads_policy {p : OversubscriptionPolicy} (h : p.Storable) :
    readPolicy.Reads (writePolicy p) p :=
  (reads_u64 _).bind <| (reads_u64 _).bind <| (reads_writeString (by decide) h.name).bind <|
    (reads_ratio _).bind <|
    (reads_table (fun d hd => reads_domain (h.domain_name d hd) (h.members d hd)) h.domains
      (by decide)).bind <|
    (reads_table (fun c hc => reads_serviceClass (h.class_name c hc)) h.classes (by decide)).bind <|
    (reads_riskBudget _).bind <| (reads_thresholds _).bind <| (reads_hysteresis _).bind <|
    (reads_limits _).bind <| (reads_u64 _).bind <| (reads_u64 _).bind <| (reads_u64 _).bind
    (reads_digest _).map

theorem reads_publisher (p : PublisherRegistration) : readPublisher.Reads (writePublisher p) p :=
  (reads_u64 _).bind <| (reads_u64 _).bind <| (reads_u64 _).bind <| (reads_u64 _).bind <|
    (reads_writeBoolean _).bind <| (reads_u32 _).bind (reads_u64 _).map

theorem reads_domainState (d : DomainRuntimeState) :
    readDomainState.Reads (writeDomainState d) d :=
  (reads_u64 _).bind <| (reads_u64 _).bind <| (reads_u32 _).bind <| (reads_u32 _).bind <|
    (reads_u64 _).bind <| (reads_writeBoolean _).bind <| (reads_u32 _).bind <| (reads_u64 _).bind <|
    (reads_u64 _).bind <| (reads_digest _).bind (reads_u32 _).map

theorem reads_slotState (e : EvidenceSlotState) : readSlotState.Reads (writeSlotState e) e :=
  (reads_u64 _).bind <| (reads_u32 _).bind <| (reads_u64 _).bind <| (reads_u64 _).bind <|
    (reads_u64 _).bind <| (reads_u64 _).bind <| (reads_u64 _).bind <| (reads_u64 _).bind <|
    (reads_digest _).bind (reads_writeBoolean _).map

theorem reads_auditRecord {a : AuditRecord} (h : a.summary.length ≤ kMaxAuditSummary) :
    readAuditRecord.Reads (writeAuditRecord a) a :=
  (reads_u64 _).bind <| (reads_u64 _).bind <| (reads_u64 _).bind <| (reads_u64 _).bind <|
    (reads_u64 _).bind <| (reads_u64 _).bind <| (reads_u64 _).bind <| (reads_u64 _).bind <|
    (reads_u32 _).bind <| (reads_u32 _).bind <| (reads_u32 _).bind <| (reads_u32 _).bind <|
    (reads_u64 _).bind <| (reads_digest _).bind <| (reads_digest _).bind <|
    (reads_writeBoolean _).bind <| (reads_u64 _).bind <| (reads_writeBoolean _).bind <|
    (reads_u32 _).bind <| (reads_u64 _).bind <| (reads_u64 _).bind <| (reads_u64 _).bind <|
    (reads_u64 _).bind (reads_writeString (by decide) h).map

end

/-! ## Round trip of the state -/

/-- An audit record behind its size. -/
def writeSizedRecord (a : AuditRecord) : List UInt8 :=
  leBytes64 (UInt64.ofNat (writeAuditRecord a).length) ++ writeAuditRecord a

theorem length_writeAuditRecord {a : AuditRecord} (h : a.summary.length ≤ kMaxAuditSummary) :
    (writeAuditRecord a).length = 202 + a.summary.length := by
  simp only [writeAuditRecord, writeBoolean, writeString, if_neg (Nat.not_lt.mpr h),
    List.length_append, length_leBytes32, length_leBytes64, Digest.length_bytes, List.length_singleton]
  omega

theorem serializeAuditRecord_eq_ok {a : AuditRecord} {bytes : List UInt8} :
    serializeAuditRecord a = .ok bytes ↔
      a.summary.length ≤ kMaxAuditSummary ∧ bytes = writeAuditRecord a := by
  unfold serializeAuditRecord
  split
  next h => simp [Nat.not_le.mpr h]
  next h => simp [Nat.not_lt.mp h, eq_comm]

theorem deserializeAuditRecord_eq_ok {a a' : AuditRecord}
    (h : a.summary.length ≤ kMaxAuditSummary) :
    deserializeAuditRecord (writeAuditRecord a) = .ok a' ↔ a' = a := by
  rw [deserializeAuditRecord, (Decoder.decodes_ofReader (reads_auditRecord h)).whole, true_and]

/-- Every summary of the history fits its field. -/
def SummariesFit (audit : List AuditRecord) : Prop :=
  ∀ a ∈ audit, a.summary.length ≤ kMaxAuditSummary

instance (audit : List AuditRecord) : Decidable (SummariesFit audit) :=
  inferInstanceAs (Decidable (∀ a ∈ audit, a.summary.length ≤ kMaxAuditSummary))

theorem serializeAudit_eq_ok {audit : List AuditRecord} {bytes : List UInt8} :
    serializeAudit audit = .ok bytes ↔
      SummariesFit audit ∧ bytes = audit.flatMap writeSizedRecord := by
  induction audit generalizing bytes with
  | nil => simp [serializeAudit, SummariesFit, eq_comm]
  | cons a audit ih =>
      rw [serializeAudit, EarlyFold.bind_eq_ok, SummariesFit, List.forall_mem_cons,
        List.flatMap_cons]
      constructor
      · intro ⟨record, hrecord, h⟩
        obtain ⟨ha, rfl⟩ := serializeAuditRecord_eq_ok.mp hrecord
        obtain ⟨rest, hrest, h⟩ := EarlyFold.bind_eq_ok.mp h
        obtain ⟨hall, rfl⟩ := ih.mp hrest
        cases h
        exact ⟨⟨ha, hall⟩, rfl⟩
      · intro ⟨⟨ha, hall⟩, h⟩
        refine ⟨_, serializeAuditRecord_eq_ok.mpr ⟨ha, rfl⟩, ?_⟩
        rw [ih.mpr ⟨hall, rfl⟩, h]
        rfl

/-- The tables of the state are within the bounds of its reader. -/
structure DurableState.Fits (s : DurableState) : Prop where
  schema : s.schemaVersion = kStateSchemaVersion
  publishers : s.publishers.length ≤ kMaxPublishers
  domains : s.domains.length ≤ kMaxDomainsState
  evidence : s.evidence.length ≤ kMaxEvidenceSlots
  audit : s.audit.length ≤ kMaxAuditRecords

section

variable {α : Type} {row : Decoder Status α} {w : α → List UInt8} {l : List α} {bound : Nat}
  {truncated tooLarge : String}

theorem decodes_table (hrow : ∀ a ∈ l, row.Decodes (w a) a True) (hl : l.length < 2 ^ 64) :
    (decodeTable bound row truncated tooLarge).Decodes (writeTable w l) l (l.length ≤ bound) := by
  have hcount := toNat_count hl
  have htimes : (Decoder.times row (UInt64.ofNat l.length).toNat).Decodes (l.flatMap w) l
      (∀ a ∈ l, True) := by
    rw [hcount]
    exact Decoder.decodes_times hrow
  have h : (decodeTable bound row truncated tooLarge).Decodes
      (leBytes64 (UInt64.ofNat l.length) ++ ([] ++ l.flatMap w)) l
      (True ∧ ((UInt64.ofNat l.length).toNat ≤ bound ∧ ∀ a ∈ l, True)) :=
    (Decoder.decodes_ofReader (reads_u64 _)).bind (Decoder.decodes_check.bind htimes)
  rw [hcount] at h
  exact h.congr (by simp)

theorem length_le_length_flatMap (h : ∀ a, 0 < (w a).length) : l.length ≤ (l.flatMap w).length := by
  induction l with
  | nil => exact Nat.zero_le _
  | cons a l ih =>
      have ha := h a
      rw [List.flatMap_cons, List.length_append, List.length_cons]
      omega

theorem length_le_length_writeTable (h : ∀ a, 0 < (w a).length) :
    l.length ≤ (writeTable w l).length := by
  have hle := length_le_length_flatMap (l := l) h
  rw [writeTable, List.length_append]
  omega

end

theorem decodes_sizedRecord {a : AuditRecord} (h : a.summary.length ≤ kMaxAuditSummary) :
    decodeSizedRecord.Decodes (writeSizedRecord a) a True := by
  have hcount : (UInt64.ofNat (writeAuditRecord a).length).toNat = (writeAuditRecord a).length := by
    refine toNat_count ?_
    rw [length_writeAuditRecord h]
    have hmax : kMaxAuditSummary = 256 := rfl
    omega
  have h' : decodeSizedRecord.Decodes
      (leBytes64 (UInt64.ofNat (writeAuditRecord a).length) ++ (writeAuditRecord a ++ [])) a
      (True ∧ True) :=
    (Decoder.decodes_ofReader (reads_u64 _)).bind <| .block hcount.symm <|
      Decoder.decodes_ofExcept ((deserializeAuditRecord_eq_ok h).mpr rfl)
  rw [List.append_nil] at h'
  exact h'.congr (by simp)

theorem decodes_schema (version : UInt32) :
    decodeSchema.Decodes (leBytes32 version) version (version = kStateSchemaVersion) := by
  have h : decodeSchema.Decodes (leBytes32 version ++ ([] ++ [])) version
      (True ∧ (version = kStateSchemaVersion ∧ True)) :=
    (Decoder.decodes_ofReader (reads_u32 _)).bind <| Decoder.decodes_check.bind Decoder.decodes_pure
  rw [List.append_nil, List.append_nil] at h
  exact h.congr (by simp)

theorem reads_stateHeader (s : DurableState) :
    readStateHeader.Reads (writeStateHeader s)
      (s.revision, s.incarnation, s.epoch, s.policyGeneration) :=
  (reads_u64 _).bind <| (reads_u64 _).bind <| (reads_u64 _).bind (reads_u64 _).map

theorem reads_stateTrailer (s : DurableState) :
    readStateTrailer.Reads (writeStateTrailer s) (s.decisionsIssued, s.tick, s.journalRecords) :=
  (reads_u64 _).bind <| (reads_u64 _).bind (reads_u64 _).map

/-- The bytes of a state whose summaries fit. -/
def writeState (s : DurableState) : List UInt8 :=
  leBytes32 s.schemaVersion ++ (writeStateHeader s ++ (s.policyDigest.bytes ++
    (writePolicy s.policy ++ (writeTable writePublisher s.publishers ++
      (writeTable writeDomainState s.domains ++ (writeTable writeSlotState s.evidence ++
        (writeTable writeSizedRecord s.audit ++ writeStateTrailer s)))))))

section

variable {α : Type} {w : α → List UInt8} {l : List α} {n : Nat}

theorem length_flatMap_of_forall (h : ∀ a ∈ l, (w a).length = n) :
    (l.flatMap w).length = n * l.length := by
  induction l with
  | nil => rfl
  | cons a l ih =>
      obtain ⟨ha, hl⟩ := List.forall_mem_cons.mp h
      rw [List.flatMap_cons, List.length_append, List.length_cons, ih hl, ha, Nat.mul_succ]
      omega

theorem length_writeTable_of_forall (h : ∀ a, (w a).length = n) :
    (writeTable w l).length = 8 + n * l.length := by
  rw [writeTable, List.length_append, length_leBytes64, length_flatMap_of_forall fun a _ => h a]

end

/-- The audit history in bytes is at most so long. -/
theorem length_flatMap_writeSizedRecord_le {audit : List AuditRecord} (h : SummariesFit audit) :
    (audit.flatMap writeSizedRecord).length ≤ 466 * audit.length := by
  induction audit with
  | nil => exact Nat.zero_le _
  | cons a audit ih =>
      obtain ⟨ha, haudit⟩ := List.forall_mem_cons.mp h
      have hrest := ih haudit
      have hmax : kMaxAuditSummary = 256 := rfl
      rw [List.flatMap_cons, List.length_append, List.length_cons, writeSizedRecord,
        List.length_append, length_leBytes64, length_writeAuditRecord ha]
      omega

/-- No more than so many bytes are needed for a state. -/
def DurableState.size (s : DurableState) : Nat :=
  124 + (writePolicy s.policy).length + 45 * s.publishers.length + 89 * s.domains.length +
    93 * s.evidence.length + 466 * s.audit.length

theorem length_writeState_le {s : DurableState} (h : SummariesFit s.audit) :
    (writeState s).length ≤ s.size := by
  have haudit := length_flatMap_writeSizedRecord_le h
  have hpublishers : (writeTable writePublisher s.publishers).length = 8 + 45 * s.publishers.length :=
    length_writeTable_of_forall fun _ => by simp [writePublisher, writeBoolean]
  have hdomains : (writeTable writeDomainState s.domains).length = 8 + 89 * s.domains.length :=
    length_writeTable_of_forall fun _ => by simp [writeDomainState, writeBoolean, Digest.length_bytes]
  have hevidence : (writeTable writeSlotState s.evidence).length = 8 + 93 * s.evidence.length :=
    length_writeTable_of_forall fun _ => by simp [writeSlotState, writeBoolean, Digest.length_bytes]
  simp only [writeState, writeStateHeader, writeStateTrailer, List.length_append, length_leBytes32,
    length_leBytes64, Digest.length_bytes, hpublishers, hdomains, hevidence]
  rw [writeTable, List.length_append, length_leBytes64, DurableState.size]
  omega

section

variable {s s' : DurableState}

theorem serializeState_eq_ok {bytes : List UInt8} :
    serializeState s = .ok bytes ↔ SummariesFit s.audit ∧ bytes = writeState s := by
  rw [serializeState, EarlyFold.bind_eq_ok]
  constructor
  · intro ⟨audit, haudit, h⟩
    obtain ⟨hfit, rfl⟩ := serializeAudit_eq_ok.mp haudit
    cases h
    exact ⟨hfit, rfl⟩
  · intro ⟨hfit, h⟩
    exact ⟨_, serializeAudit_eq_ok.mpr ⟨hfit, rfl⟩, by rw [h]; rfl⟩

/-- The one way in which a history cannot be serialized. -/
def auditTooLong : Status := .failure .outOfRange .limitExceeded "audit summary too long"

theorem serializeAuditRecord_error {a : AuditRecord} {status : Status}
    (h : serializeAuditRecord a = .error status) : status = auditTooLong := by
  unfold serializeAuditRecord at h
  split at h
  · exact (Except.error.inj h).symm
  · cases h

theorem serializeAudit_error {audit : List AuditRecord} {status : Status}
    (h : serializeAudit audit = .error status) : status = auditTooLong := by
  induction audit with
  | nil => cases h
  | cons a audit ih =>
      rw [serializeAudit, EarlyFold.bind_eq_error] at h
      rcases h with h | ⟨record, _, h⟩
      · exact serializeAuditRecord_error h
      · rw [EarlyFold.bind_eq_error] at h
        rcases h with h | ⟨rest, _, h⟩
        · exact ih h
        · cases h

theorem serializeState_error {status : Status} (h : serializeState s = .error status) :
    status = auditTooLong := by
  rw [serializeState, EarlyFold.bind_eq_error] at h
  rcases h with h | ⟨audit, _, h⟩
  · exact serializeAudit_error h
  · cases h

theorem word_append_pos {x : UInt64} {bytes : List UInt8} : 0 < (leBytes64 x ++ bytes).length :=
  Nat.succ_pos _

/-- Every table has at most as many rows as the state has bytes. -/
theorem lengths_le_writeState :
    s.publishers.length ≤ (writeState s).length ∧ s.domains.length ≤ (writeState s).length ∧
      s.evidence.length ≤ (writeState s).length ∧ s.audit.length ≤ (writeState s).length := by
  have hp : s.publishers.length ≤ (writeTable writePublisher s.publishers).length :=
    length_le_length_writeTable fun _ => word_append_pos
  have hd : s.domains.length ≤ (writeTable writeDomainState s.domains).length :=
    length_le_length_writeTable fun _ => word_append_pos
  have he : s.evidence.length ≤ (writeTable writeSlotState s.evidence).length :=
    length_le_length_writeTable fun _ => word_append_pos
  have ha : s.audit.length ≤ (writeTable writeSizedRecord s.audit).length :=
    length_le_length_writeTable fun _ => word_append_pos
  simp only [writeState, List.length_append]
  omega

theorem decodes_state_of_lengths (hp : s.policy.Storable) (ha : SummariesFit s.audit)
    (hpub : s.publishers.length < 2 ^ 64) (hdom : s.domains.length < 2 ^ 64)
    (hev : s.evidence.length < 2 ^ 64) (haud : s.audit.length < 2 ^ 64) :
    decodeState.Decodes (writeState s) s s.Fits := by
  have hpub' : decodePublishers.Decodes (writeTable writePublisher s.publishers) s.publishers
      (s.publishers.length ≤ kMaxPublishers) :=
    decodes_table (fun p _ => Decoder.decodes_ofReader (reads_publisher p)) hpub
  have hdom' : decodeDomainStates.Decodes (writeTable writeDomainState s.domains) s.domains
      (s.domains.length ≤ kMaxDomainsState) :=
    decodes_table (fun d _ => Decoder.decodes_ofReader (reads_domainState d)) hdom
  have hev' : decodeSlotStates.Decodes (writeTable writeSlotState s.evidence) s.evidence
      (s.evidence.length ≤ kMaxEvidenceSlots) :=
    decodes_table (fun e _ => Decoder.decodes_ofReader (reads_slotState e)) hev
  have haud' : decodeAudit.Decodes (writeTable writeSizedRecord s.audit) s.audit
      (s.audit.length ≤ kMaxAuditRecords) :=
    decodes_table (fun a h => decodes_sizedRecord (ha a h)) haud
  have h : decodeState.Decodes _ s _ :=
    (decodes_schema s.schemaVersion).bind <|
    (Decoder.decodes_ofReader (reads_stateHeader s)).bind <|
    (Decoder.decodes_ofReader (reads_digest s.policyDigest)).bind <|
    (Decoder.decodes_ofReader (reads_policy hp)).bind <| hpub'.bind <| hdom'.bind <| hev'.bind <|
    haud'.bind <| (Decoder.decodes_ofReader (reads_stateTrailer s)).bind Decoder.decodes_pure
  rw [List.append_nil] at h
  refine h.congr ⟨fun hall => ?_, fun hfits => ?_⟩
  · obtain ⟨hschema, -, -, -, hpub, hdom, hev, haud, -⟩ := hall
    exact ⟨hschema, hpub, hdom, hev, haud⟩
  · have htrue := True.intro
    exact ⟨hfits.schema, htrue, htrue, htrue, hfits.publishers, hfits.domains, hfits.evidence,
      hfits.audit, htrue, htrue⟩

theorem decodes_state (hp : s.policy.Storable) (ha : SummariesFit s.audit)
    (hlen : (writeState s).length < 2 ^ 64) : decodeState.Decodes (writeState s) s s.Fits := by
  obtain ⟨hpub, hdom, hev, haud⟩ := lengths_le_writeState (s := s)
  exact decodes_state_of_lengths hp ha (by omega) (by omega) (by omega) (by omega)

/-- **Round trip**: a state is read back exactly when its tables fit. -/
theorem deserializeState_eq_ok (hp : s.policy.Storable) {bytes : List UInt8}
    (h : serializeState s = .ok bytes) (hlen : bytes.length < 2 ^ 64) :
    deserializeState bytes = .ok s' ↔ s.Fits ∧ s' = s := by
  obtain ⟨ha, rfl⟩ := serializeState_eq_ok.mp h
  exact (decodes_state hp ha hlen).whole

end

end Oversub
