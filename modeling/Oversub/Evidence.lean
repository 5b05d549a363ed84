import Oversub.Policy

/-!
# Oversub.Evidence

Capacity, reservation and admission evidence (`evidence.hpp`,
`evidence.cpp`): the three snapshots, their canonical digests and their
structural validation.

A digest is computed over the entries sorted by identity, so it does not
depend on their order.  The validators reject a snapshot whose payload digest
is set to something else than that digest.
-/

namespace Oversub

def kHardMaxResourcesPerSnapshot : Nat := 4096

/-! ## Snapshots -/

structure Provenance where
  publisher : PublisherId := {}
  incarnation : IncarnationId := {}
  epoch : FabricEpoch := {}
  sequence : UInt64 := 0
  observedTick : UInt64 := 0
  observedWallMillis : UInt64 := 0
  evidenceId : EvidenceId := {}
  payloadDigest : Digest := Digest.zero
  deriving DecidableEq, Inhabited

def Provenance.complete (p : Provenance) : Bool :=
  p.publisher.valid && p.incarnation.valid && p.epoch.valid && p.sequence != 0 &&
    p.evidenceId.valid

inductive EvidenceKind where
  | capacity | reservation | admission
  deriving DecidableEq

def EvidenceKind.toString : EvidenceKind → String
  | .capacity => "CAPACITY"
  | .reservation => "RESERVATION"
  | .admission => "ADMISSION"

structure ResourceCapacity where
  resource : ResourceId := {}
  pool : PoolId := {}
  physicalCapacity : UInt64 := 0
  usableCapacity : UInt64 := 0
  health : ResourceHealth := .unknown
  degradedCapacityPpm : UInt64 := 0
  generation : ResourceGeneration := {}
  deriving DecidableEq

structure CapacitySnapshot where
  domain : OversubscriptionDomainId := {}
  generation : CapacitySnapshotGeneration := {}
  epoch : FabricEpoch := {}
  observedTick : UInt64 := 0
  resources : List ResourceCapacity := []
  provenance : Provenance := {}
  deriving DecidableEq, Inhabited

structure Guarantee where
  reservation : ReservationId := {}
  resource : ResourceId := {}
  pool : PoolId := {}
  serviceClass : ServiceClassId := {}
  guaranteedCapacity : UInt64 := 0
  priority : PriorityRef := {}
  protectedObligation : Bool := true
  preemptible : Bool := false
  generation : ReservationGeneration := {}
  deriving DecidableEq

structure ReservationSnapshot where
  domain : OversubscriptionDomainId := {}
  generation : ReservationSnapshotGeneration := {}
  epoch : FabricEpoch := {}
  observedTick : UInt64 := 0
  guarantees : List Guarantee := []
  provenance : Provenance := {}
  deriving DecidableEq, Inhabited

structure DemandRecord where
  admission : AdmissionId := {}
  resource : ResourceId := {}
  pool : PoolId := {}
  serviceClass : ServiceClassId := {}
  kind : DemandKind := .unknown
  committedCapacity : UInt64 := 0
  pendingCapacity : UInt64 := 0
  generation : AdmissionGeneration := {}
  deriving DecidableEq

structure AdmissionSnapshot where
  domain : OversubscriptionDomainId := {}
  generation : AdmissionSnapshotGeneration := {}
  epoch : FabricEpoch := {}
  observedTick : UInt64 := 0
  records : List DemandRecord := []
  provenance : Provenance := {}
  deriving DecidableEq, Inhabited

/-! ## Canonical digests -/

/-- The fields every snapshot's digest starts with. -/
def addSnapshotHeader (h : CanonicalHasher) (domain : OversubscriptionDomainId)
    (generation : UInt64) (epoch : FabricEpoch) (observedTick : UInt64) (size : Nat) :
    CanonicalHasher :=
  let h := (h.addU64 domain.value).addU64 generation
  ((h.addU64 epoch.value).addU64 observedTick).addNat size

def addResourceCapacity (h : CanonicalHasher) (r : ResourceCapacity) : CanonicalHasher :=
  let h := (h.addU64 r.resource.value).addU64 r.pool.value
  let h := (h.addU64 r.physicalCapacity).addU64 r.usableCapacity
  ((h.addU32 r.health.toRaw).addU64 r.degradedCapacityPpm).addU64 r.generation.value

def capacitySnapshotDigest (snapshot : CapacitySnapshot) : Digest :=
  let items := snapshot.resources.insertionSort fun a b =>
    a.resource.value < b.resource.value ∨ a.resource = b.resource ∧ a.pool.value ≤ b.pool.value
  let h := addSnapshotHeader (CanonicalHasher.addText {} "oversub.capacity.v1") snapshot.domain
    snapshot.generation.value snapshot.epoch snapshot.observedTick items.length
  (items.foldl addResourceCapacity h).digest

def addGuarantee (h : CanonicalHasher) (g : Guarantee) : CanonicalHasher :=
  let h := ((h.addU64 g.reservation.value).addU64 g.resource.value).addU64 g.pool.value
  let h := (h.addU64 g.serviceClass.value).addU64 g.guaranteedCapacity
  let h := (h.addU32 g.priority.value).addBool g.protectedObligation
  (h.addBool g.preemptible).addU64 g.generation.value

def reservationSnapshotDigest (snapshot : ReservationSnapshot) : Digest :=
  let items := snapshot.guarantees.insertionSort fun a b =>
    a.reservation.value ≤ b.reservation.value
  let h := addSnapshotHeader (CanonicalHasher.addText {} "oversub.reservation.v1")
    snapshot.domain snapshot.generation.value snapshot.epoch snapshot.observedTick items.length
  (items.foldl addGuarantee h).digest

def addDemandRecord (h : CanonicalHasher) (r : DemandRecord) : CanonicalHasher :=
  let h := ((h.addU64 r.admission.value).addU64 r.resource.value).addU64 r.pool.value
  let h := (h.addU64 r.serviceClass.value).addU32 r.kind.toRaw
  ((h.addU64 r.committedCapacity).addU64 r.pendingCapacity).addU64 r.generation.value

def admissionSnapshotDigest (snapshot : AdmissionSnapshot) : Digest :=
  let items := snapshot.records.insertionSort fun a b => a.admission.value ≤ b.admission.value
  let h := addSnapshotHeader (CanonicalHasher.addText {} "oversub.admission.v1") snapshot.domain
    snapshot.generation.value snapshot.epoch snapshot.observedTick items.length
  (items.foldl addDemandRecord h).digest

/-! ## Structural validation -/

def malformed (reason : ReasonCode) (detail : String) : Status :=
  .failure .conflict reason detail

def outOfRange (reason : ReasonCode) (detail : String) : Status :=
  .failure .outOfRange reason detail

/-- `check_common`; `computed` is the canonical digest of the snapshot. -/
def commonChecks (domain : OversubscriptionDomainId) (epoch : FabricEpoch) (observedTick : UInt64)
    (provenance : Provenance) (computed : Digest) : List Check := [
  { failed := !domain.valid
    status := invalid .invalidIdentity "evidence domain identity unset" },
  { failed := !epoch.valid
    status := invalid .epochMismatch "evidence epoch unset" },
  { failed := kHardMaxTicks < observedTick.toNat
    status := outOfRange .invalidField "observation tick out of bound" },
  { failed := !provenance.complete
    status := malformed .evidenceMalformed "provenance incomplete" },
  { failed := !provenance.payloadDigest.isZero && provenance.payloadDigest != computed
    status := .failure .integrityFailure .snapshotDigestMismatch
      "payload digest does not match the canonical snapshot digest" }]

def resourceCapacityChecks (r : ResourceCapacity) : List Check := [
  { failed := !r.resource.valid || !r.pool.valid
    status := invalid .invalidIdentity "resource identity unset" },
  { failed := !r.generation.valid
    status := invalid .generationUnset "resource generation unset" },
  { failed := r.physicalCapacity < r.usableCapacity
    status := malformed .resourceUsableExceedsPhysical
      "usable capacity exceeds physical capacity" },
  { failed := kHardMaxCapacityUnits < r.physicalCapacity.toNat
    status := outOfRange .resourceCapacityInvalid "physical capacity out of bound" },
  { failed := kPpmScale < r.degradedCapacityPpm.toNat
    status := outOfRange .resourceCapacityInvalid "degraded capacity ppm out of bound" }]

def validateCapacitySnapshot (snapshot : CapacitySnapshot) : Status :=
  firstFailure <|
    commonChecks snapshot.domain snapshot.epoch snapshot.observedTick snapshot.provenance
      (capacitySnapshotDigest snapshot) ++
    [ { failed := kHardMaxResourcesPerSnapshot < snapshot.resources.length
        status := outOfRange .snapshotTooLarge "capacity snapshot has too many resources" } ] ++
    snapshot.resources.flatMap resourceCapacityChecks ++
    [ { failed := hasDuplicateValues (snapshot.resources.map (·.resource.value))
        status := malformed .snapshotDuplicate
          "duplicate resource entry in a capacity snapshot" } ]

def guaranteeChecks (g : Guarantee) : List Check := [
  { failed := !g.reservation.valid || !g.resource.valid || !g.pool.valid || !g.generation.valid
    status := invalid .invalidIdentity "guarantee identity unset" },
  { failed := kHardMaxCapacityUnits < g.guaranteedCapacity.toNat
    status := outOfRange .resourceCapacityInvalid "guaranteed capacity out of bound" },
  { failed := !g.protectedObligation || g.preemptible
    status := malformed .guaranteeContradiction
      "a protected guarantee cannot be unprotected or preemptible" }]

def validateReservationSnapshot (snapshot : ReservationSnapshot) : Status :=
  firstFailure <|
    commonChecks snapshot.domain snapshot.epoch snapshot.observedTick snapshot.provenance
      (reservationSnapshotDigest snapshot) ++
    [ { failed := kHardMaxGuaranteesPerSnapshot < snapshot.guarantees.length
        status := outOfRange .snapshotTooLarge
          "reservation snapshot has too many guarantees" } ] ++
    snapshot.guarantees.flatMap guaranteeChecks ++
    [ { failed := hasDuplicateValues (snapshot.guarantees.map (·.reservation.value))
        status := malformed .guaranteeDuplicate
          "duplicate reservation id in a reservation snapshot" } ]

def demandRecordChecks (r : DemandRecord) : List Check := [
  { failed := !r.admission.valid || !r.resource.valid || !r.pool.valid || !r.generation.valid
    status := invalid .invalidIdentity "demand record identity unset" },
  { failed := r.kind == .unknown
    status := malformed .admissionKindConflict "demand record has no kind" },
  { failed := kHardMaxCapacityUnits < r.committedCapacity.toNat ||
      kHardMaxCapacityUnits < r.pendingCapacity.toNat
    status := outOfRange .resourceCapacityInvalid "demand capacity out of bound" }]

def validateAdmissionSnapshot (snapshot : AdmissionSnapshot) : Status :=
  firstFailure <|
    commonChecks snapshot.domain snapshot.epoch snapshot.observedTick snapshot.provenance
      (admissionSnapshotDigest snapshot) ++
    [ { failed := kHardMaxDemandRecordsPerSnapshot < snapshot.records.length
        status := outOfRange .snapshotTooLarge
          "admission snapshot has too many demand records" } ] ++
    snapshot.records.flatMap demandRecordChecks ++
    [ { failed := hasDuplicateValues (snapshot.records.map (·.admission.value))
        status := malformed .admissionDuplicate
          "duplicate admission id in an admission snapshot" } ]

/-! ## What accepted snapshots satisfy -/

structure CapacitySnapshot.Valid (snapshot : CapacitySnapshot) : Prop where
  domain_valid : snapshot.domain.valid = true
  epoch_valid : snapshot.epoch.valid = true
  size_le : snapshot.resources.length ≤ kHardMaxResourcesPerSnapshot
  generation_valid : ∀ r ∈ snapshot.resources, r.generation.valid = true
  identity_valid : ∀ r ∈ snapshot.resources, r.resource.valid = true ∧ r.pool.valid = true
  usable_le : ∀ r ∈ snapshot.resources, r.usableCapacity.toNat ≤ r.physicalCapacity.toNat
  physical_le : ∀ r ∈ snapshot.resources, r.physicalCapacity.toNat ≤ kHardMaxCapacityUnits
  degraded_le : ∀ r ∈ snapshot.resources, r.degradedCapacityPpm.toNat ≤ kPpmScale
  nodup : (snapshot.resources.map (·.resource.value)).Nodup

structure ReservationSnapshot.Valid (snapshot : ReservationSnapshot) : Prop where
  size_le : snapshot.guarantees.length ≤ kHardMaxGuaranteesPerSnapshot
  capacity_le : ∀ g ∈ snapshot.guarantees, g.guaranteedCapacity.toNat ≤ kHardMaxCapacityUnits
  isProtected : ∀ g ∈ snapshot.guarantees, g.protectedObligation = true ∧ g.preemptible = false
  nodup : (snapshot.guarantees.map (·.reservation.value)).Nodup

structure AdmissionSnapshot.Valid (snapshot : AdmissionSnapshot) : Prop where
  size_le : snapshot.records.length ≤ kHardMaxDemandRecordsPerSnapshot
  has_kind : ∀ r ∈ snapshot.records, r.kind ≠ .unknown
  committed_le : ∀ r ∈ snapshot.records, r.committedCapacity.toNat ≤ kHardMaxCapacityUnits
  pending_le : ∀ r ∈ snapshot.records, r.pendingCapacity.toNat ≤ kHardMaxCapacityUnits
  nodup : (snapshot.records.map (·.admission.value)).Nodup

theorem validateCapacitySnapshot_valid {snapshot : CapacitySnapshot}
    (h : (validateCapacitySnapshot snapshot).isOk = true) : snapshot.Valid := by
  have hall := firstFailure_isOk.mp h
  simp only [commonChecks, resourceCapacityChecks, allPass_append, allPass_cons, allPass_nil,
    allPass_flatMap, and_true, and_assoc, Bool.not_eq_false', Bool.or_eq_false_iff,
    decide_eq_false_iff_not, Nat.not_lt, UInt64.not_lt, UInt64.le_iff_toNat_le] at hall
  obtain ⟨hdomain, hepoch, -, -, -, hsize, hentries, hdup⟩ := hall
  exact {
    domain_valid := hdomain
    epoch_valid := hepoch
    size_le := hsize
    generation_valid := fun r hr => (hentries r hr).2.2.1
    identity_valid := fun r hr => ⟨(hentries r hr).1, (hentries r hr).2.1⟩
    usable_le := fun r hr => (hentries r hr).2.2.2.1
    physical_le := fun r hr => (hentries r hr).2.2.2.2.1
    degraded_le := fun r hr => (hentries r hr).2.2.2.2.2
    nodup := hasDuplicateValues_eq_false.mp hdup }

theorem validateReservationSnapshot_valid {snapshot : ReservationSnapshot}
    (h : (validateReservationSnapshot snapshot).isOk = true) : snapshot.Valid := by
  have hall := firstFailure_isOk.mp h
  simp only [commonChecks, guaranteeChecks, allPass_append, allPass_cons, allPass_nil,
    allPass_flatMap, and_true, and_assoc, Bool.not_eq_false', Bool.or_eq_false_iff,
    decide_eq_false_iff_not, Nat.not_lt] at hall
  obtain ⟨-, -, -, -, -, hsize, hentries, hdup⟩ := hall
  exact {
    size_le := hsize
    capacity_le := fun g hg => (hentries g hg).2.2.2.2.1
    isProtected := fun g hg => (hentries g hg).2.2.2.2.2
    nodup := hasDuplicateValues_eq_false.mp hdup }

theorem validateAdmissionSnapshot_valid {snapshot : AdmissionSnapshot}
    (h : (validateAdmissionSnapshot snapshot).isOk = true) : snapshot.Valid := by
  have hall := firstFailure_isOk.mp h
  simp only [commonChecks, demandRecordChecks, allPass_append, allPass_cons, allPass_nil,
    allPass_flatMap, and_true, and_assoc, Bool.not_eq_false', Bool.or_eq_false_iff,
    beq_eq_false_iff_ne, decide_eq_false_iff_not, Nat.not_lt] at hall
  obtain ⟨-, -, -, -, -, hsize, hentries, hdup⟩ := hall
  exact {
    size_le := hsize
    has_kind := fun r hr => (hentries r hr).2.2.2.2.1
    committed_le := fun r hr => (hentries r hr).2.2.2.2.2.1
    pending_le := fun r hr => (hentries r hr).2.2.2.2.2.2
    nodup := hasDuplicateValues_eq_false.mp hdup }

end Oversub
