import Oversub.Evidence

/-!
# Oversub.Protocol

The evidence as it crosses the wire (`bytes.hpp`, `protocol.cpp`).  A decoder
takes every enumeration as the raw 32-bit value it finds, so a decoded health
or kind may name no enumerator.  Decoding an encoded snapshot gives it back.
-/

namespace Oversub

open Wire Reader

/-! ## Provenance -/

def writeProvenance (p : Provenance) : List UInt8 :=
  leBytes64 p.publisher.value ++ (leBytes64 p.incarnation.value ++ (leBytes64 p.epoch.value ++
    (leBytes64 p.sequence ++ (leBytes64 p.observedTick ++ (leBytes64 p.observedWallMillis ++
      (leBytes64 p.evidenceId.value ++ p.payloadDigest.bytes))))))

def readProvenance : Reader Provenance := do
  let publisher ← u64
  let incarnation ← u64
  let epoch ← u64
  let sequence ← u64
  let observedTick ← u64
  let observedWallMillis ← u64
  let evidenceId ← u64
  let payloadDigest ← readDigest
  pure {
    publisher := ⟨publisher⟩
    incarnation := ⟨incarnation⟩
    epoch := ⟨epoch⟩
    sequence := sequence
    observedTick := observedTick
    observedWallMillis := observedWallMillis
    evidenceId := ⟨evidenceId⟩
    payloadDigest := payloadDigest }

theorem reads_provenance (p : Provenance) : readProvenance.Reads (writeProvenance p) p :=
  (reads_u64 _).bind <| (reads_u64 _).bind <| (reads_u64 _).bind <| (reads_u64 _).bind <|
    (reads_u64 _).bind <| (reads_u64 _).bind <| (reads_u64 _).bind <| (reads_digest _).map

/-! ## Capacity -/

def writeResource (rc : ResourceCapacity) : List UInt8 :=
  leBytes64 rc.resource.value ++ (leBytes64 rc.pool.value ++ (leBytes64 rc.physicalCapacity ++
    (leBytes64 rc.usableCapacity ++ (leBytes32 rc.health.toRaw ++
      (leBytes64 rc.degradedCapacityPpm ++ leBytes64 rc.generation.value)))))

def readResource : Reader ResourceCapacity := do
  let resource ← u64
  let pool ← u64
  let physicalCapacity ← u64
  let usableCapacity ← u64
  let health ← u32
  let degradedCapacityPpm ← u64
  let generation ← u64
  pure {
    resource := ⟨resource⟩
    pool := ⟨pool⟩
    physicalCapacity := physicalCapacity
    usableCapacity := usableCapacity
    health := .ofRaw health
    degradedCapacityPpm := degradedCapacityPpm
    generation := ⟨generation⟩ }

def encodeCapacitySnapshot (s : CapacitySnapshot) : List UInt8 :=
  leBytes64 s.domain.value ++ (leBytes64 s.generation.value ++ (leBytes64 s.epoch.value ++
    (leBytes64 s.observedTick ++ (leBytes64 (UInt64.ofNat s.resources.length) ++
      (s.resources.flatMap writeResource ++ writeProvenance s.provenance)))))

def readCapacitySnapshot : Reader CapacitySnapshot := do
  let domain ← u64
  let generation ← u64
  let epoch ← u64
  let observedTick ← u64
  let count ← u64
  let _ ← Reader.require (count.toNat ≤ kHardMaxResourcesPerSnapshot)
  let resources ← times readResource count.toNat
  let provenance ← readProvenance
  pure {
    domain := ⟨domain⟩
    generation := ⟨generation⟩
    epoch := ⟨epoch⟩
    observedTick := observedTick
    resources := resources
    provenance := provenance }

def decodeCapacitySnapshot (bytes : List UInt8) : Option CapacitySnapshot :=
  readCapacitySnapshot.whole bytes

/-! ## Reservations -/

def writeGuarantee (g : Guarantee) : List UInt8 :=
  leBytes64 g.reservation.value ++ (leBytes64 g.resource.value ++ (leBytes64 g.pool.value ++
    (leBytes64 g.serviceClass.value ++ (leBytes64 g.guaranteedCapacity ++
      (leBytes32 g.priority.value ++ ([if g.protectedObligation then 1 else 0] ++
        ([if g.preemptible then 1 else 0] ++ leBytes64 g.generation.value)))))))

def readGuarantee : Reader Guarantee := do
  let reservation ← u64
  let resource ← u64
  let pool ← u64
  let serviceClass ← u64
  let guaranteedCapacity ← u64
  let priority ← u32
  let protectedObligation ← boolean
  let preemptible ← boolean
  let generation ← u64
  pure {
    reservation := ⟨reservation⟩
    resource := ⟨resource⟩
    pool := ⟨pool⟩
    serviceClass := ⟨serviceClass⟩
    guaranteedCapacity := guaranteedCapacity
    priority := ⟨priority⟩
    protectedObligation := protectedObligation
    preemptible := preemptible
    generation := ⟨generation⟩ }

def encodeReservationSnapshot (s : ReservationSnapshot) : List UInt8 :=
  leBytes64 s.domain.value ++ (leBytes64 s.generation.value ++ (leBytes64 s.epoch.value ++
    (leBytes64 s.observedTick ++ (leBytes64 (UInt64.ofNat s.guarantees.length) ++
      (s.guarantees.flatMap writeGuarantee ++ writeProvenance s.provenance)))))

def readReservationSnapshot : Reader ReservationSnapshot := do
  let domain ← u64
  let generation ← u64
  let epoch ← u64
  let observedTick ← u64
  let count ← u64
  let _ ← Reader.require (count.toNat ≤ kHardMaxGuaranteesPerSnapshot)
  let guarantees ← times readGuarantee count.toNat
  let provenance ← readProvenance
  pure {
    domain := ⟨domain⟩
    generation := ⟨generation⟩
    epoch := ⟨epoch⟩
    observedTick := observedTick
    guarantees := guarantees
    provenance := provenance }

def decodeReservationSnapshot (bytes : List UInt8) : Option ReservationSnapshot :=
  readReservationSnapshot.whole bytes

/-! ## Admissions -/

def writeRecord (r : DemandRecord) : List UInt8 :=
  leBytes64 r.admission.value ++ (leBytes64 r.resource.value ++ (leBytes64 r.pool.value ++
    (leBytes64 r.serviceClass.value ++ (leBytes32 r.kind.toRaw ++ (leBytes64 r.committedCapacity ++
      (leBytes64 r.pendingCapacity ++ leBytes64 r.generation.value))))))

def readRecord : Reader DemandRecord := do
  let admission ← u64
  let resource ← u64
  let pool ← u64
  let serviceClass ← u64
  let kind ← u32
  let committedCapacity ← u64
  let pendingCapacity ← u64
  let generation ← u64
  pure {
    admission := ⟨admission⟩
    resource := ⟨resource⟩
    pool := ⟨pool⟩
    serviceClass := ⟨serviceClass⟩
    kind := .ofRaw kind
    committedCapacity := committedCapacity
    pendingCapacity := pendingCapacity
    generation := ⟨generation⟩ }

def encodeAdmissionSnapshot (s : AdmissionSnapshot) : List UInt8 :=
  leBytes64 s.domain.value ++ (leBytes64 s.generation.value ++ (leBytes64 s.epoch.value ++
    (leBytes64 s.observedTick ++ (leBytes64 (UInt64.ofNat s.records.length) ++
      (s.records.flatMap writeRecord ++ writeProvenance s.provenance)))))

def readAdmissionSnapshot : Reader AdmissionSnapshot := do
  let domain ← u64
  let generation ← u64
  let epoch ← u64
  let observedTick ← u64
  let count ← u64
  let _ ← Reader.require (count.toNat ≤ kHardMaxDemandRecordsPerSnapshot)
  let records ← times readRecord count.toNat
  let provenance ← readProvenance
  pure {
    domain := ⟨domain⟩
    generation := ⟨generation⟩
    epoch := ⟨epoch⟩
    observedTick := observedTick
    records := records
    provenance := provenance }

def decodeAdmissionSnapshot (bytes : List UInt8) : Option AdmissionSnapshot :=
  readAdmissionSnapshot.whole bytes

/-! ## Round trips -/

theorem reads_resource (rc : ResourceCapacity) : readResource.Reads (writeResource rc) rc := by
  have h : readResource.Reads (writeResource rc) { rc with health := .ofRaw rc.health.toRaw } :=
    (reads_u64 _).bind <| (reads_u64 _).bind <| (reads_u64 _).bind <| (reads_u64 _).bind <|
      (reads_u32 _).bind <| (reads_u64 _).bind <| (reads_u64 _).map
  rwa [ResourceHealth.ofRaw_toRaw] at h

theorem reads_guarantee (g : Guarantee) : readGuarantee.Reads (writeGuarantee g) g :=
  (reads_u64 _).bind <| (reads_u64 _).bind <| (reads_u64 _).bind <| (reads_u64 _).bind <|
    (reads_u64 _).bind <| (reads_u32 _).bind <| (reads_boolean _).bind <| (reads_boolean _).bind <|
    (reads_u64 _).map

theorem reads_record (r : DemandRecord) : readRecord.Reads (writeRecord r) r := by
  have h : readRecord.Reads (writeRecord r) { r with kind := .ofRaw r.kind.toRaw } :=
    (reads_u64 _).bind <| (reads_u64 _).bind <| (reads_u64 _).bind <| (reads_u64 _).bind <|
      (reads_u32 _).bind <| (reads_u64 _).bind <| (reads_u64 _).bind <| (reads_u64 _).map
  rwa [DemandKind.ofRaw_toRaw] at h

/-- A bounded count survives its 64-bit representation. -/
theorem reads_list {α : Type} {r : Reader α} {w : α → List UInt8} {l : List α} {bound : Nat}
    (hr : ∀ a, r.Reads (w a) a) (hl : l.length ≤ bound) (hb : bound < 2 ^ 64) :
    (UInt64.ofNat l.length).toNat ≤ bound ∧
      (times r (UInt64.ofNat l.length).toNat).Reads (l.flatMap w) l := by
  have hcount : (UInt64.ofNat l.length).toNat = l.length :=
    Nat.mod_eq_of_lt (Nat.lt_of_le_of_lt hl hb)
  rw [hcount]
  exact ⟨hl, reads_times fun a _ => hr a⟩

theorem reads_capacitySnapshot {s : CapacitySnapshot}
    (h : s.resources.length ≤ kHardMaxResourcesPerSnapshot) :
    readCapacitySnapshot.Reads (encodeCapacitySnapshot s) s := by
  obtain ⟨hcount, hlist⟩ := reads_list reads_resource h (by decide)
  exact (reads_u64 _).bind <| (reads_u64 _).bind <| (reads_u64 _).bind <| (reads_u64 _).bind <|
    (reads_u64 _).bind <| (reads_require hcount).bind <| hlist.bind <| (reads_provenance _).map

theorem reads_reservationSnapshot {s : ReservationSnapshot}
    (h : s.guarantees.length ≤ kHardMaxGuaranteesPerSnapshot) :
    readReservationSnapshot.Reads (encodeReservationSnapshot s) s := by
  obtain ⟨hcount, hlist⟩ := reads_list reads_guarantee h (by decide)
  exact (reads_u64 _).bind <| (reads_u64 _).bind <| (reads_u64 _).bind <| (reads_u64 _).bind <|
    (reads_u64 _).bind <| (reads_require hcount).bind <| hlist.bind <| (reads_provenance _).map

theorem reads_admissionSnapshot {s : AdmissionSnapshot}
    (h : s.records.length ≤ kHardMaxDemandRecordsPerSnapshot) :
    readAdmissionSnapshot.Reads (encodeAdmissionSnapshot s) s := by
  obtain ⟨hcount, hlist⟩ := reads_list reads_record h (by decide)
  exact (reads_u64 _).bind <| (reads_u64 _).bind <| (reads_u64 _).bind <| (reads_u64 _).bind <|
    (reads_u64 _).bind <| (reads_require hcount).bind <| hlist.bind <| (reads_provenance _).map

/-- **Round trip**: a capacity snapshot within the structural bound. -/
theorem decode_encodeCapacitySnapshot {s : CapacitySnapshot}
    (h : s.resources.length ≤ kHardMaxResourcesPerSnapshot) :
    decodeCapacitySnapshot (encodeCapacitySnapshot s) = some s := (reads_capacitySnapshot h).whole

theorem decode_encodeReservationSnapshot {s : ReservationSnapshot}
    (h : s.guarantees.length ≤ kHardMaxGuaranteesPerSnapshot) :
    decodeReservationSnapshot (encodeReservationSnapshot s) = some s := (reads_reservationSnapshot h).whole

theorem decode_encodeAdmissionSnapshot {s : AdmissionSnapshot}
    (h : s.records.length ≤ kHardMaxDemandRecordsPerSnapshot) :
    decodeAdmissionSnapshot (encodeAdmissionSnapshot s) = some s := (reads_admissionSnapshot h).whole

end Oversub
