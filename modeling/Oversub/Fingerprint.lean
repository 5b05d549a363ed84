import Oversub.Canonical
import Oversub.Engine.Permute

/-!
# Oversub.Fingerprint

The byte streams behind the digests of snapshots.  A stream starts with the
text of its kind and the header, and the entries follow in the order of their
identities.  An accepted snapshot is short and repeats no identity, so its
stream determines the header and the entries but for their order.
-/

namespace Oversub

open Wire Streams

/-! ## Streams -/

/-- What `addSnapshotHeader` feeds before the number of entries. -/
def headerStream (domain : OversubscriptionDomainId) (generation : UInt64) (epoch : FabricEpoch)
    (observedTick : UInt64) : List UInt8 :=
  leBytes64 domain.value ++ leBytes64 generation ++ leBytes64 epoch.value ++ leBytes64 observedTick

def resourceCapacityStream (r : ResourceCapacity) : List UInt8 :=
  leBytes64 r.resource.value ++ leBytes64 r.pool.value ++ leBytes64 r.physicalCapacity ++
    leBytes64 r.usableCapacity ++ leBytes32 r.health.toRaw ++ leBytes64 r.degradedCapacityPpm ++
    leBytes64 r.generation.value

def guaranteeStream (g : Guarantee) : List UInt8 :=
  leBytes64 g.reservation.value ++ leBytes64 g.resource.value ++ leBytes64 g.pool.value ++
    leBytes64 g.serviceClass.value ++ leBytes64 g.guaranteedCapacity ++ leBytes32 g.priority.value ++
    boolStream g.protectedObligation ++ boolStream g.preemptible ++ leBytes64 g.generation.value

def demandRecordStream (r : DemandRecord) : List UInt8 :=
  leBytes64 r.admission.value ++ leBytes64 r.resource.value ++ leBytes64 r.pool.value ++
    leBytes64 r.serviceClass.value ++ leBytes32 r.kind.toRaw ++ leBytes64 r.committedCapacity ++
    leBytes64 r.pendingCapacity ++ leBytes64 r.generation.value

/-- The text of a kind, the header and the entries. -/
def kindStream {α : Type} (text : String) (header : List UInt8) (entry : α → List UInt8) (entries : List α) :
    List UInt8 := stringStream (textBytes text) ++ header ++ itemsStream entry entries

def sortedGuarantees (l : List Guarantee) : List Guarantee :=
  l.insertionSort fun a b => a.reservation.value ≤ b.reservation.value

def sortedRecords (l : List DemandRecord) : List DemandRecord :=
  l.insertionSort fun a b => a.admission.value ≤ b.admission.value

/-- What `capacity_snapshot_digest` hashes. -/
def capacityStream (s : CapacitySnapshot) : List UInt8 :=
  kindStream "oversub.capacity.v1" (headerStream s.domain s.generation.value s.epoch s.observedTick)
    resourceCapacityStream (sortedResources s.resources)

/-- What `reservation_snapshot_digest` hashes. -/
def reservationStream (s : ReservationSnapshot) : List UInt8 :=
  kindStream "oversub.reservation.v1" (headerStream s.domain s.generation.value s.epoch s.observedTick)
    guaranteeStream (sortedGuarantees s.guarantees)

/-- What `admission_snapshot_digest` hashes. -/
def admissionStream (s : AdmissionSnapshot) : List UInt8 :=
  kindStream "oversub.admission.v1" (headerStream s.domain s.generation.value s.epoch s.observedTick)
    demandRecordStream (sortedRecords s.records)

section

variable {h : CanonicalHasher} {bytes : List UInt8}

theorem took_addResourceCapacity (r : ResourceCapacity) (ht : h.Took bytes) :
    (addResourceCapacity h r).Took (bytes ++ resourceCapacityStream r) := by
  have htook := ((((((ht.addU64 r.resource.value).addU64 r.pool.value).addU64 r.physicalCapacity).addU64
    r.usableCapacity).addU32 r.health.toRaw).addU64 r.degradedCapacityPpm).addU64 r.generation.value
  simp only [resourceCapacityStream, ← List.append_assoc] at htook ⊢
  exact htook

theorem took_addGuarantee (g : Guarantee) (ht : h.Took bytes) :
    (addGuarantee h g).Took (bytes ++ guaranteeStream g) := by
  have htook := ((((((((ht.addU64 g.reservation.value).addU64 g.resource.value).addU64 g.pool.value).addU64
    g.serviceClass.value).addU64 g.guaranteedCapacity).addU32 g.priority.value).addBool
    g.protectedObligation).addBool g.preemptible).addU64 g.generation.value
  simp only [guaranteeStream, boolStream, ← List.append_assoc] at htook ⊢
  exact htook

theorem took_addDemandRecord (r : DemandRecord) (ht : h.Took bytes) :
    (addDemandRecord h r).Took (bytes ++ demandRecordStream r) := by
  have htook := (((((((ht.addU64 r.admission.value).addU64 r.resource.value).addU64 r.pool.value).addU64
    r.serviceClass.value).addU32 r.kind.toRaw).addU64 r.committedCapacity).addU64 r.pendingCapacity).addU64
    r.generation.value
  simp only [demandRecordStream, ← List.append_assoc] at htook ⊢
  exact htook

/-- **The digest of a kind** is that of its stream. -/
theorem digest_kindStream {α : Type} {text : String} {domain : OversubscriptionDomainId} {generation : UInt64}
    {epoch : FabricEpoch} {observedTick : UInt64} {f : CanonicalHasher → α → CanonicalHasher}
    {entry : α → List UInt8} {entries : List α}
    (hf : ∀ {h bytes} a, CanonicalHasher.Took h bytes → CanonicalHasher.Took (f h a) (bytes ++ entry a)) :
    (entries.foldl f (addSnapshotHeader (CanonicalHasher.addText {} text) domain generation epoch
      observedTick entries.length)).digest =
        sha256 (kindStream text (headerStream domain generation epoch observedTick) entry entries) := by
  have hheader := ((((CanonicalHasher.took_nil.addString (textBytes text)).addU64 domain.value).addU64
    generation).addU64 epoch.value).addU64 observedTick
  have hdigest := (CanonicalHasher.Took.items hf hheader entries).digest
  simp only [List.nil_append, ← List.append_assoc] at hdigest
  unfold addSnapshotHeader CanonicalHasher.addText
  simp only [kindStream, headerStream, stringStream, itemsStream, ← List.append_assoc]
  exact hdigest

theorem capacitySnapshotDigest_eq (s : CapacitySnapshot) :
    capacitySnapshotDigest s = sha256 (capacityStream s) := digest_kindStream took_addResourceCapacity

theorem reservationSnapshotDigest_eq (s : ReservationSnapshot) :
    reservationSnapshotDigest s = sha256 (reservationStream s) := digest_kindStream took_addGuarantee

theorem admissionSnapshotDigest_eq (s : AdmissionSnapshot) :
    admissionSnapshotDigest s = sha256 (admissionStream s) := digest_kindStream took_addDemandRecord

end

/-! ## What the streams determine -/

section

variable {α : Type} {P : α → Prop}

theorem splits_health (f : α → ResourceHealth) :
    Splits P (fun a => leBytes32 (f a).toRaw) fun a b => f a = f b :=
  (splits_u32 fun a => (f a).toRaw).mono fun a b h => by
    have hraw := congrArg ResourceHealth.ofRaw h
    rw [ResourceHealth.ofRaw_toRaw, ResourceHealth.ofRaw_toRaw] at hraw
    exact hraw

theorem splits_kind (f : α → DemandKind) :
    Splits P (fun a => leBytes32 (f a).toRaw) fun a b => f a = f b :=
  (splits_u32 fun a => (f a).toRaw).mono fun a b h => by
    have hraw := congrArg DemandKind.ofRaw h
    rw [DemandKind.ofRaw_toRaw, DemandKind.ofRaw_toRaw] at hraw
    exact hraw

end

/-- **An entry** is determined by its stream. -/
theorem splits_resourceCapacity : Splits (fun _ => True) resourceCapacityStream fun r r' => r = r' := by
  have hid : Splits (fun _ : ResourceCapacity => True) (fun r => leBytes64 r.resource.value)
      fun r r' => r.resource = r'.resource := splits_id fun r : ResourceCapacity => r.resource
  have hfields := (((((hid.append (splits_id fun r => r.pool)).append
    (splits_u64 fun r => r.physicalCapacity)).append (splits_u64 fun r => r.usableCapacity)).append
    (splits_health fun r => r.health)).append (splits_u64 fun r => r.degradedCapacityPpm)).append
    (splits_gen fun r => r.generation)
  refine hfields.mono fun r r' h => ?_
  cases r
  cases r'
  simp only [ResourceCapacity.mk.injEq]
  simpa only [and_assoc] using h

theorem splits_guarantee : Splits (fun _ => True) guaranteeStream fun g g' => g = g' := by
  have hid : Splits (fun _ : Guarantee => True) (fun g => leBytes64 g.reservation.value)
      fun g g' => g.reservation = g'.reservation := splits_id fun g : Guarantee => g.reservation
  have hpriority : Splits (fun _ : Guarantee => True) (fun g => leBytes32 g.priority.value)
      fun g g' => g.priority = g'.priority :=
    (splits_u32 fun g : Guarantee => g.priority.value).mono fun g g' h => by
      generalize g.priority = x at h ⊢
      generalize g'.priority = y at h ⊢
      cases x
      cases y
      exact congrArg _ h
  have hfields := (((((((hid.append (splits_id fun g => g.resource)).append
    (splits_id fun g => g.pool)).append (splits_id fun g => g.serviceClass)).append
    (splits_u64 fun g => g.guaranteedCapacity)).append hpriority).append
    (splits_boolStream fun g => g.protectedObligation)).append
    (splits_boolStream fun g => g.preemptible)).append (splits_gen fun g => g.generation)
  refine hfields.mono fun g g' h => ?_
  cases g
  cases g'
  simp only [Guarantee.mk.injEq]
  simpa only [and_assoc] using h

theorem splits_demandRecord : Splits (fun _ => True) demandRecordStream fun r r' => r = r' := by
  have hid : Splits (fun _ : DemandRecord => True) (fun r => leBytes64 r.admission.value)
      fun r r' => r.admission = r'.admission := splits_id fun r : DemandRecord => r.admission
  have hfields := ((((((hid.append (splits_id fun r => r.resource)).append
    (splits_id fun r => r.pool)).append (splits_id fun r => r.serviceClass)).append
    (splits_kind fun r => r.kind)).append (splits_u64 fun r => r.committedCapacity)).append
    (splits_u64 fun r => r.pendingCapacity)).append (splits_gen fun r => r.generation)
  refine hfields.mono fun r r' h => ?_
  cases r
  cases r'
  simp only [DemandRecord.mk.injEq]
  simpa only [and_assoc] using h

/-- The text and the header stand in front. -/
theorem kindStream_inj {α β : Type} {text text' : String} {entry : α → List UInt8} {entry' : β → List UInt8}
    {domain domain' : OversubscriptionDomainId} {generation generation' : UInt64} {epoch epoch' : FabricEpoch}
    {tick tick' : UInt64} {entries : List α} {entries' : List β}
    (htext : (textBytes text).length < 2 ^ 64) (htext' : (textBytes text').length < 2 ^ 64)
    (h : kindStream text (headerStream domain generation epoch tick) entry entries =
      kindStream text' (headerStream domain' generation' epoch' tick') entry' entries') :
    textBytes text = textBytes text' ∧ (domain = domain' ∧ generation = generation' ∧ epoch = epoch' ∧
      tick = tick') ∧ itemsStream entry entries = itemsStream entry' entries' := by
  have hname : Splits (fun x : List UInt8 => x.length < 2 ^ 64) stringStream fun x y => x = y :=
    splits_name fun _ hx => hx
  have hid : Splits (fun _ : OversubscriptionDomainId => True) (fun d => leBytes64 d.value)
      fun d d' => d = d' := splits_id id
  have hword : Splits (fun _ => True) leBytes64 fun x y => x = y := splits_u64 id
  unfold kindStream headerStream at h
  simp only [List.append_assoc] at h
  obtain ⟨hsame, h⟩ := hname _ _ _ _ htext htext' h
  obtain ⟨hdomain, h⟩ := hid _ _ _ _ trivial trivial h
  obtain ⟨hgeneration, h⟩ := hword _ _ _ _ trivial trivial h
  obtain ⟨hvalue, h⟩ := hword _ _ _ _ trivial trivial h
  obtain ⟨htick, h⟩ := hword _ _ _ _ trivial trivial h
  have hepoch : epoch = epoch' := by
    cases epoch
    cases epoch'
    exact congrArg _ hvalue
  exact ⟨hsame, ⟨hdomain, hgeneration, hepoch, htick⟩, h⟩

/-- Entries of the same stream, as many as 64 bits count. -/
theorem itemsStream_inj {α : Type} {entry : α → List UInt8} {l l' : List α}
    (hentry : Splits (fun _ => True) entry fun a b => a = b) (hl : l.length < 2 ^ 64) (hl' : l'.length < 2 ^ 64)
    (h : itemsStream entry l = itemsStream entry l') : l = l' := by
  have hitems : Splits (fun l : List α => l.length < 2 ^ 64) (itemsStream entry)
      fun l l' => List.Forall₂ (fun a b => a = b) l l' :=
    splits_items (fun _ hl => hl) (fun _ _ _ _ => trivial) hentry
  exact List.forall₂_eq_eq_eq ▸ hitems.whole hl hl' h

/-- **The stream of a kind** determines the header and the entries. -/
theorem kindStream_eq_iff {α : Type} {text : String} {entry : α → List UInt8}
    {domain domain' : OversubscriptionDomainId} {tag : GenTag} {generation generation' : Gen tag}
    {epoch epoch' : FabricEpoch} {tick tick' : UInt64} {l l' : List α}
    (htext : (textBytes text).length < 2 ^ 64) (hentry : Splits (fun _ => True) entry fun a b => a = b)
    (hl : l.length < 2 ^ 64) (hl' : l'.length < 2 ^ 64) :
    kindStream text (headerStream domain generation.value epoch tick) entry l =
        kindStream text (headerStream domain' generation'.value epoch' tick') entry l' ↔
      (domain = domain' ∧ generation = generation' ∧ epoch = epoch' ∧ tick = tick') ∧ l = l' := by
  constructor
  · intro h
    obtain ⟨-, ⟨hdomain, hvalue, hepoch, htick⟩, hitems⟩ := kindStream_inj htext htext h
    have hgeneration : generation = generation' := by
      cases generation
      cases generation'
      exact congrArg _ hvalue
    exact ⟨⟨hdomain, hgeneration, hepoch, htick⟩, itemsStream_inj hentry hl hl' hitems⟩
  · intro h
    obtain ⟨⟨rfl, rfl, rfl, rfl⟩, rfl⟩ := h
    rfl

/-- Entries in the order of their identities, which no two share. -/
theorem sorted_eq_iff {α : Type} {sort : List α → List α} {l l' : List α} (hsort : ∀ l, (sort l).Perm l)
    (hperm : l.Perm l' → sort l = sort l') : sort l = sort l' ↔ l.Perm l' := by
  refine ⟨fun h => ?_, hperm⟩
  have hl := (hsort l).symm
  rw [h] at hl
  exact hl.trans (hsort l')

/-! ## Snapshots of any kind -/

/-- A snapshot of one of the three kinds. -/
inductive Snapshot where
  | capacity (s : CapacitySnapshot)
  | reservation (s : ReservationSnapshot)
  | admission (s : AdmissionSnapshot)

namespace Snapshot

def kind : Snapshot → EvidenceKind
  | .capacity _ => .capacity
  | .reservation _ => .reservation
  | .admission _ => .admission

/-- The canonical digest of the kind. -/
def digest : Snapshot → Digest
  | .capacity s => capacitySnapshotDigest s
  | .reservation s => reservationSnapshotDigest s
  | .admission s => admissionSnapshotDigest s

/-- The validator of the kind. -/
def validate : Snapshot → Status
  | .capacity s => validateCapacitySnapshot s
  | .reservation s => validateReservationSnapshot s
  | .admission s => validateAdmissionSnapshot s

/-- What `digest` hashes. -/
def stream : Snapshot → List UInt8
  | .capacity s => capacityStream s
  | .reservation s => reservationStream s
  | .admission s => admissionStream s

/-- Snapshots of one kind, domain, generation, epoch and tick, with the same
entries in some order. -/
inductive SameContent : Snapshot → Snapshot → Prop
  | capacity {s t : CapacitySnapshot} (domain : s.domain = t.domain) (generation : s.generation = t.generation)
      (epoch : s.epoch = t.epoch) (tick : s.observedTick = t.observedTick)
      (entries : s.resources.Perm t.resources) : SameContent (.capacity s) (.capacity t)
  | reservation {s t : ReservationSnapshot} (domain : s.domain = t.domain)
      (generation : s.generation = t.generation) (epoch : s.epoch = t.epoch)
      (tick : s.observedTick = t.observedTick) (entries : s.guarantees.Perm t.guarantees) :
      SameContent (.reservation s) (.reservation t)
  | admission {s t : AdmissionSnapshot} (domain : s.domain = t.domain)
      (generation : s.generation = t.generation) (epoch : s.epoch = t.epoch)
      (tick : s.observedTick = t.observedTick) (entries : s.records.Perm t.records) :
      SameContent (.admission s) (.admission t)

variable {s t : Snapshot}

theorem digest_eq (s : Snapshot) : s.digest = sha256 s.stream := by
  cases s with
  | capacity s => exact capacitySnapshotDigest_eq s
  | reservation s => exact reservationSnapshotDigest_eq s
  | admission s => exact admissionSnapshotDigest_eq s

/-- The text at the head tells the kind. -/
theorem kind_of_stream (h : s.stream = t.stream) : s.kind = t.kind := by
  have hcapacity : textBytes "oversub.capacity.v1" ≠ textBytes "oversub.reservation.v1" ∧
      textBytes "oversub.capacity.v1" ≠ textBytes "oversub.admission.v1" ∧
      textBytes "oversub.reservation.v1" ≠ textBytes "oversub.admission.v1" := by decide +kernel
  obtain ⟨hcr, hca, hra⟩ := hcapacity
  have hshort (text : String) (ht : text ∈ ["oversub.capacity.v1", "oversub.reservation.v1",
      "oversub.admission.v1"]) : (textBytes text).length < 2 ^ 64 := by
    revert text
    decide +kernel
  cases s with
  | capacity s =>
      cases t with
      | capacity t => rfl
      | reservation t => exact absurd (kindStream_inj (hshort _ (by simp)) (hshort _ (by simp)) h).1 hcr
      | admission t => exact absurd (kindStream_inj (hshort _ (by simp)) (hshort _ (by simp)) h).1 hca
  | reservation s =>
      cases t with
      | capacity t => exact absurd (kindStream_inj (hshort _ (by simp)) (hshort _ (by simp)) h).1.symm hcr
      | reservation t => rfl
      | admission t => exact absurd (kindStream_inj (hshort _ (by simp)) (hshort _ (by simp)) h).1 hra
  | admission s =>
      cases t with
      | capacity t => exact absurd (kindStream_inj (hshort _ (by simp)) (hshort _ (by simp)) h).1.symm hca
      | reservation t => exact absurd (kindStream_inj (hshort _ (by simp)) (hshort _ (by simp)) h).1.symm hra
      | admission t => rfl

theorem capacityStream_eq_iff {s t : CapacitySnapshot} (hs : s.Valid) (ht : t.Valid) :
    capacityStream s = capacityStream t ↔ SameContent (.capacity s) (.capacity t) := by
  have hlength {s : CapacitySnapshot} (hs : s.Valid) : (sortedResources s.resources).length < 2 ^ 64 := by
    rw [sortedResources, List.length_insertionSort]
    exact hs.size_le.trans_lt (by decide)
  have hentries : sortedResources s.resources = sortedResources t.resources ↔
      s.resources.Perm t.resources :=
    sorted_eq_iff (fun l => List.perm_insertionSort _ l) fun h => sortedResources_perm h hs.nodup
  rw [capacityStream, capacityStream, kindStream_eq_iff (by decide +kernel) splits_resourceCapacity
    (hlength hs) (hlength ht), hentries]
  constructor
  · intro h
    obtain ⟨⟨hdomain, hgeneration, hepoch, htick⟩, hperm⟩ := h
    exact .capacity hdomain hgeneration hepoch htick hperm
  · intro h
    cases h with
    | capacity hdomain hgeneration hepoch htick hperm =>
        exact ⟨⟨hdomain, hgeneration, hepoch, htick⟩, hperm⟩

theorem reservationStream_eq_iff {s t : ReservationSnapshot} (hs : s.Valid) (ht : t.Valid) :
    reservationStream s = reservationStream t ↔ SameContent (.reservation s) (.reservation t) := by
  have hlength {s : ReservationSnapshot} (hs : s.Valid) : (sortedGuarantees s.guarantees).length < 2 ^ 64 := by
    rw [sortedGuarantees, List.length_insertionSort]
    exact hs.size_le.trans_lt (by decide)
  have hentries : sortedGuarantees s.guarantees = sortedGuarantees t.guarantees ↔
      s.guarantees.Perm t.guarantees :=
    sorted_eq_iff (fun l => List.perm_insertionSort _ l) fun h => sortByKey_perm h hs.nodup
  rw [reservationStream, reservationStream, kindStream_eq_iff (by decide +kernel) splits_guarantee
    (hlength hs) (hlength ht), hentries]
  constructor
  · intro h
    obtain ⟨⟨hdomain, hgeneration, hepoch, htick⟩, hperm⟩ := h
    exact .reservation hdomain hgeneration hepoch htick hperm
  · intro h
    cases h with
    | reservation hdomain hgeneration hepoch htick hperm =>
        exact ⟨⟨hdomain, hgeneration, hepoch, htick⟩, hperm⟩

theorem admissionStream_eq_iff {s t : AdmissionSnapshot} (hs : s.Valid) (ht : t.Valid) :
    admissionStream s = admissionStream t ↔ SameContent (.admission s) (.admission t) := by
  have hlength {s : AdmissionSnapshot} (hs : s.Valid) : (sortedRecords s.records).length < 2 ^ 64 := by
    rw [sortedRecords, List.length_insertionSort]
    exact hs.size_le.trans_lt (by decide)
  have hentries : sortedRecords s.records = sortedRecords t.records ↔ s.records.Perm t.records :=
    sorted_eq_iff (fun l => List.perm_insertionSort _ l) fun h => sortByKey_perm h hs.nodup
  rw [admissionStream, admissionStream, kindStream_eq_iff (by decide +kernel) splits_demandRecord
    (hlength hs) (hlength ht), hentries]
  constructor
  · intro h
    obtain ⟨⟨hdomain, hgeneration, hepoch, htick⟩, hperm⟩ := h
    exact .admission hdomain hgeneration hepoch htick hperm
  · intro h
    cases h with
    | admission hdomain hgeneration hepoch htick hperm =>
        exact ⟨⟨hdomain, hgeneration, hepoch, htick⟩, hperm⟩

theorem SameContent.kind_eq (h : s.SameContent t) : s.kind = t.kind := by
  cases h with
  | capacity | reservation | admission => rfl

/-- **The stream of an accepted snapshot** is that of its content. -/
theorem stream_eq_iff (hs : s.validate.isOk = true) (ht : t.validate.isOk = true) (hkind : s.kind = t.kind) :
    s.stream = t.stream ↔ s.SameContent t := by
  cases s with
  | capacity s =>
      cases t with
      | capacity t =>
          exact capacityStream_eq_iff (validateCapacitySnapshot_valid hs) (validateCapacitySnapshot_valid ht)
      | reservation | admission => nomatch hkind
  | reservation s =>
      cases t with
      | reservation t =>
          exact reservationStream_eq_iff (validateReservationSnapshot_valid hs)
            (validateReservationSnapshot_valid ht)
      | capacity | admission => nomatch hkind
  | admission s =>
      cases t with
      | admission t =>
          exact admissionStream_eq_iff (validateAdmissionSnapshot_valid hs) (validateAdmissionSnapshot_valid ht)
      | capacity | reservation => nomatch hkind

/-- **Digests are canonical**, where the hash tells the two streams apart:
equal digests are those of the same content, and of one kind. -/
theorem digest_canonical (hs : s.validate.isOk = true) (ht : t.validate.isOk = true)
    (hsha : sha256 s.stream = sha256 t.stream → s.stream = t.stream) :
    (s.digest = t.digest ↔ s.SameContent t) ∧ (s.kind ≠ t.kind → s.digest ≠ t.digest) := by
  have hstream : s.digest = t.digest ↔ s.stream = t.stream := by
    rw [digest_eq, digest_eq]
    exact ⟨hsha, congrArg sha256⟩
  rw [hstream]
  constructor
  · constructor
    · intro h
      exact (stream_eq_iff hs ht (kind_of_stream h)).mp h
    · intro h
      exact (stream_eq_iff hs ht h.kind_eq).mpr h
  · intro hkind h
    exact hkind (kind_of_stream (hstream.mp h))

/-- Two demand records, in the order of the publisher. -/
def pairedAdmissions (turned : Bool) : AdmissionSnapshot :=
  let record (n : UInt64) : DemandRecord := {
    admission := ⟨n⟩
    resource := ⟨1⟩
    pool := ⟨1⟩
    serviceClass := ⟨1⟩
    kind := .contingent
    committedCapacity := 10 * n
    generation := ⟨1⟩ }
  { (sampleSnapshots 100 0).adm with records := if turned then [record 2, record 1] else [record 1, record 2] }

/-- The order does not show. -/
theorem digest_canonical_paired :
    (admission (pairedAdmissions true)).digest = (admission (pairedAdmissions false)).digest := by
  have hstream : (admission (pairedAdmissions true)).stream = (admission (pairedAdmissions false)).stream := by
    decide +kernel
  have hcanonical := digest_canonical (s := admission (pairedAdmissions true))
    (t := admission (pairedAdmissions false)) (by decide +kernel) (by decide +kernel) fun _ => hstream
  exact hcanonical.1.mpr (.admission rfl rfl rfl rfl (by decide))

end Snapshot

end Oversub
