import Oversub.Runtime.Governor

/-!
# Oversub.Runtime.Publish

Publishers and their evidence (`governor.cpp`): registration, adoption and
fencing, and the ingestion of a snapshot.

The three ingest functions differ in the kind of snapshot they take, so there
is one, over a `SnapshotKind`.
-/

namespace Oversub

open Crash Files

namespace Governor

/-! ## Publishers -/

/-- A registration that starts over in an epoch, under an incarnation. -/
def admittedAs (g : Governor) (incarnation : IncarnationId) (epoch : FabricEpoch)
    (r : PublisherRegistration) : PublisherRegistration :=
  { r with
    incarnation, epoch
    fenced := false
    fenceReason := ReasonCode.none.code
    lastSequence := 0
    registeredTick := g.clock.tick }

def publisherUnset : Status := invalid .invalidIdentity "publisher identity unset"

def publisherUnknown : Status :=
  .failure .notFound .publisherNotRegistered "publisher is not registered"

def registerPublisher (g : Governor) (publisher : PublisherId) (incarnation : IncarnationId)
    (epoch : FabricEpoch) (tick : UInt64) : Storage (Status × Governor) :=
  if !g.isOpen then pure (notOpen, g)
  else if !g.accepting then pure (shuttingDownStatus, g)
  else if !publisher.valid || !incarnation.valid then pure (publisherUnset, g)
  else if !epoch.valid ∨ epoch.value ≠ g.state.epoch.value then pure (staleEpoch, g)
  else
    let g := g.observing tick
    match g.registration publisher with
    | some r =>
        if r.incarnation = incarnation then
          if r.fenced then
            (g.modifyRegistration publisher (g.admittedAs incarnation epoch)).marked.persistState true
          else pure (.success, g)
        else
          pure (.failure .fenced .publisherIncarnationStale
            ("a different incarnation is registered; " ++
              "adopt_incarnation is required to fence it"), g)
    | none =>
        if kMaxPublishers ≤ g.state.publishers.length then
          pure (outOfRange .limitExceeded "publisher table is full", g)
        else
          let r : PublisherRegistration :=
            { publisher, incarnation, epoch, registeredTick := g.clock.tick }
          let g := { g with state := { g.state with publishers := g.state.publishers ++ [r] } }
          g.marked.persistState true

/-- Every slot of a publisher asks for revalidation. -/
def flagPublisher (g : Governor) (publisher : PublisherId) : Governor :=
  { g with slots := g.slots.map fun slot =>
      if slot.state.publisher = publisher then
        { slot with state := { slot.state with revalidationRequired := true } }
      else slot }

def adoptIncarnation (g : Governor) (publisher : PublisherId) (incarnation : IncarnationId)
    (epoch : FabricEpoch) (tick : UInt64) : Storage (Status × Governor) :=
  if !g.isOpen then pure (notOpen, g)
  else if !g.accepting then pure (shuttingDownStatus, g)
  else if !publisher.valid || !incarnation.valid || !epoch.valid then pure (publisherUnset, g)
  else if epoch.value ≠ g.state.epoch.value then pure (staleEpoch, g)
  else
    let g := g.observing tick
    match g.registration publisher with
    | none => pure (publisherUnknown, g)
    | some r =>
        if r.incarnation = incarnation ∧ r.fenced = false ∧ r.epoch.value = epoch.value then
          pure (.success, g)
        else
          ((g.modifyRegistration publisher (g.admittedAs incarnation epoch)).flagPublisher
            publisher).marked.persistState true

def fencePublisher (g : Governor) (publisher : PublisherId) (reason : Code ReasonCode) :
    Storage (Status × Governor) :=
  if !g.isOpen then pure (notOpen, g)
  else
    match g.registration publisher with
    | none => pure (publisherUnknown, g)
    | some _ =>
        (g.modifyRegistration publisher fun r =>
          { r with fenced := true, fenceReason := reason }).marked.persistState true

end Governor

/-! ## Kinds of snapshots -/

/-- What every snapshot says of itself. -/
structure SnapshotHeader where
  domain : OversubscriptionDomainId
  generation : UInt64
  epoch : FabricEpoch
  observedTick : UInt64
  provenance : Provenance
  deriving DecidableEq

/-- A kind of snapshot, and its place in a slot. -/
structure SnapshotKind (σ : Type) where
  kind : EvidenceKind
  header : σ → SnapshotHeader
  digest : σ → Digest
  validate : σ → Status
  withGeneration : UInt64 → σ → σ
  withPayloadDigest : Digest → σ → σ
  content : EvidenceSlot → Option σ
  store : σ → EvidenceSlot → EvidenceSlot

def capacityKind : SnapshotKind CapacitySnapshot where
  kind := .capacity
  header s := ⟨s.domain, s.generation.value, s.epoch, s.observedTick, s.provenance⟩
  digest := capacitySnapshotDigest
  validate := validateCapacitySnapshot
  withGeneration generation s := { s with generation := ⟨generation⟩ }
  withPayloadDigest digest s :=
    { s with provenance := { s.provenance with payloadDigest := digest } }
  content slot := slot.capacity
  store s slot := { slot with capacity := some s, hasContent := true }

def reservationKind : SnapshotKind ReservationSnapshot where
  kind := .reservation
  header s := ⟨s.domain, s.generation.value, s.epoch, s.observedTick, s.provenance⟩
  digest := reservationSnapshotDigest
  validate := validateReservationSnapshot
  withGeneration generation s := { s with generation := ⟨generation⟩ }
  withPayloadDigest digest s :=
    { s with provenance := { s.provenance with payloadDigest := digest } }
  content slot := slot.reservations
  store s slot := { slot with reservations := some s, hasContent := true }

def admissionKind : SnapshotKind AdmissionSnapshot where
  kind := .admission
  header s := ⟨s.domain, s.generation.value, s.epoch, s.observedTick, s.provenance⟩
  digest := admissionSnapshotDigest
  validate := validateAdmissionSnapshot
  withGeneration generation s := { s with generation := ⟨generation⟩ }
  withPayloadDigest digest s :=
    { s with provenance := { s.provenance with payloadDigest := digest } }
  content slot := slot.admissions
  store s slot := { slot with admissions := some s, hasContent := true }

/-! ## Ingestion -/

structure IngestOutcome where
  status : Status
  generation : UInt64 := 0
  duplicate : Bool := false
  deriving DecidableEq

/-- What `ingest_locked` accepted: under which generation, and whether it was
there already. -/
structure Accepted where
  generation : UInt64
  duplicate : Bool

/-- The durable bookkeeping a publication may change. -/
structure IngestRollback where
  slot : Option EvidenceSlotState
  sequence : Option UInt64

namespace Governor

def captureRollback (g : Governor) (domain : OversubscriptionDomainId) (kind : EvidenceKind)
    (publisher : PublisherId) : IngestRollback where
  slot := (g.findSlot domain kind).map (·.state)
  sequence := (g.registration publisher).map (·.lastSequence)

def restoreRollback (g : Governor) (rollback : IngestRollback) (domain : OversubscriptionDomainId)
    (kind : EvidenceKind) (publisher : PublisherId) : Governor :=
  let g := match rollback.slot with
    | none => g
    | some state => (g.ensureSlot domain kind).modifySlot domain kind fun slot => { slot with state }
  match rollback.sequence with
  | none => g
  | some lastSequence => g.modifyRegistration publisher fun r => { r with lastSequence }

/-- The bookkeeping of a slot that takes over a publication. -/
def recorded (state : EvidenceSlotState) (h : SnapshotHeader) : EvidenceSlotState :=
  { state with
    generation := state.generation + 1
    evidenceId := h.provenance.evidenceId
    publisher := h.provenance.publisher
    incarnation := h.provenance.incarnation
    sequence := h.provenance.sequence
    observedTick := h.observedTick
    payloadDigest := h.provenance.payloadDigest
    revalidationRequired := false }

/-- The tests of `ingest_locked` on the registration. -/
def checkPublisher (g : Governor) (h : SnapshotHeader) : Except Status PublisherRegistration :=
  if !g.isOpen then .error notOpen
  else if !g.accepting then .error shuttingDownStatus
  else if (g.index.domain h.domain).isNone then
    .error (.failure .notFound .domainNotInPolicy
      "evidence was published for a domain the policy does not cover")
  else if h.epoch.value ≠ g.state.epoch.value then
    .error (.failure .stale .epochMismatch "evidence epoch does not match the fabric epoch")
  else
    match g.registration h.provenance.publisher with
    | none => .error (.failure .denied .publisherNotRegistered "publisher is not registered")
    | some r =>
        if r.fenced then .error (.failure .fenced .publisherFenced "publisher is fenced")
        else if r.epoch.value ≠ g.state.epoch.value then
          .error (.failure .stale .workerEpochStale
            "publisher registration belongs to an older epoch")
        else if r.incarnation ≠ h.provenance.incarnation then
          .error (.failure .fenced .publisherIncarnationStale
            "evidence comes from an incarnation that is not the registered one")
        else if h.provenance.sequence = 0 then
          .error (invalid .invalidField "evidence sequence must be non-zero")
        else .ok r

/-- The tests of `ingest_locked` on the slot. -/
def checkSlot (g : Governor) (state : EvidenceSlotState) (r : PublisherRegistration)
    (h : SnapshotHeader) : Except Status Accepted :=
  let duplicate : Except Status Accepted := .ok ⟨state.generation, true⟩
  if state.evidenceId.valid ∧ state.evidenceId = h.provenance.evidenceId then
    if state.payloadDigest = h.provenance.payloadDigest then duplicate
    else
      .error (.failure .conflict .evidenceContradictory
        "evidence id was already published with different content")
  else if h.provenance.sequence ≤ r.lastSequence then
    .error (.failure .stale .publisherSequenceReplayed
      "evidence sequence is not ahead of the last accepted sequence")
  else if state.generation + 1 = 0 then
    .error (.failure .overflow .arithmeticOverflow "generation overflow")
  else if h.generation = state.generation ∧ state.generation ≠ 0 then
    if state.payloadDigest = h.provenance.payloadDigest then duplicate
    else
      .error (.failure .stale .snapshotOutOfOrder
        "generation was already consumed by different content")
  else if h.generation = 0 then
    if g.options.autoAssignGenerations then .ok ⟨state.generation + 1, false⟩
    else .error (invalid .generationUnset "evidence generation unset")
  else if h.generation ≠ state.generation + 1 then
    .error (.failure .stale .snapshotOutOfOrder "evidence generation is not the next generation")
  else .ok ⟨state.generation + 1, false⟩

/-- The state of a slot; that of a slot which is about to exist is empty. -/
def slotState (g : Governor) (domain : OversubscriptionDomainId) (kind : EvidenceKind) :
    EvidenceSlotState :=
  match g.findSlot domain kind with
  | some slot => slot.state
  | none => { domain, kind := kind.code }

/-- `ingest_locked`: the bookkeeping of a publication. -/
def ingestLocked (g : Governor) (kind : EvidenceKind) (h : SnapshotHeader) :
    Except Status Accepted × Governor :=
  match g.checkPublisher h with
  | .error status => (.error status, g)
  | .ok r =>
      let state := g.slotState h.domain kind
      let g := g.ensureSlot h.domain kind
      match g.checkSlot state r h with
      | .error status => (.error status, g)
      | .ok accepted =>
          if accepted.duplicate then (.ok accepted, g)
          else
            let g := g.modifyRegistration h.provenance.publisher fun r =>
              { r with lastSequence := h.provenance.sequence }
            let g := g.modifySlot h.domain kind fun slot =>
              { slot.cleared with state := recorded slot.state h }
            (.ok accepted, g.marked)

/-- The snapshot under its canonical digest, if it came without one. -/
def digested {σ : Type} (K : SnapshotKind σ) (snapshot : σ) : σ :=
  if (K.header snapshot).provenance.payloadDigest.isZero then
    K.withPayloadDigest (K.digest snapshot) snapshot
  else snapshot

/-- The snapshot a slot holds: under its assigned generation, and the digest
that goes with it. -/
def assigned {σ : Type} (K : SnapshotKind σ) (generation : UInt64) (snapshot : σ) : σ :=
  let copy := K.withGeneration generation snapshot
  K.withPayloadDigest (K.digest copy) copy

/-- The publication of a snapshot. -/
def ingest {σ : Type} (K : SnapshotKind σ) (g : Governor) (snapshot : σ) :
    Storage (IngestOutcome × Governor) :=
  let copy := digested K snapshot
  let status := K.validate copy
  if !status.isOk then pure ({ status }, g)
  else
    let h := K.header copy
    let rollback := g.captureRollback h.domain K.kind h.provenance.publisher
    match g.ingestLocked K.kind h with
    | (.error status, g) => pure ({ status }, g)
    | (.ok accepted, g) =>
        if accepted.duplicate then
          pure ({ status := .success, generation := accepted.generation, duplicate := true }, g)
        else do
          let g := (g.ensureSlot h.domain K.kind).modifySlot h.domain K.kind
            (K.store (assigned K accepted.generation copy))
          let (saveStatus, g) ← g.persistState true
          if saveStatus.isOk then
            pure ({ status := .success, generation := accepted.generation }, g)
          else
            let g := g.modifySlot h.domain K.kind EvidenceSlot.cleared
            pure ({ status := saveStatus },
              g.restoreRollback rollback h.domain K.kind h.provenance.publisher)

def ingestCapacity : Governor → CapacitySnapshot → Storage (IngestOutcome × Governor) :=
  ingest capacityKind

def ingestReservations : Governor → ReservationSnapshot → Storage (IngestOutcome × Governor) :=
  ingest reservationKind

def ingestAdmissions : Governor → AdmissionSnapshot → Storage (IngestOutcome × Governor) :=
  ingest admissionKind

end Governor

end Oversub
