import Oversub.Runtime.Later
import Oversub.Runtime.Progress

/-!
# Oversub.Runtime.Room

Runtimes with room for more calls: while the tables, the state file and the
journal are far from their bounds, a publication that passes its tests is
accepted and an evaluation of a valid domain is answered.

The module ends with a session on an empty directory that goes through this
way.
-/

namespace Oversub

open Wire Crash Files

namespace Governor

/-! ## Room -/

/-- No more than so many bytes are needed to save a governor. -/
def size (g : Governor) : Nat :=
  124 + (writePolicy g.state.policy).length + 45 * g.state.publishers.length +
    89 * g.state.domains.length + 93 * g.slots.length + 466 * g.state.audit.length

/-- There is room for `n` more calls. -/
structure Roomy (n : Nat) (g : Governor) : Prop where
  isOpen : g.isOpen = true
  accepting : g.accepting = true
  storeOpen : g.store.isOpen = true
  summaries : SummariesFit g.state.audit
  size : g.size + 600 * n ≤ g.store.options.maxStateBytes.toNat
  publishers : g.state.publishers.length + n ≤ kMaxPublishers
  domains : g.state.domains.length + n ≤ kMaxDomainsState
  journalBytes : g.store.journalBytes.toNat + 510 * n ≤ g.store.options.maxJournalBytes.toNat
  journalRecords : g.store.journalRecords.toNat + n ≤ g.store.options.maxJournalRecords.toNat
  unsaved : g.decisionsSinceSave.toNat + n < g.options.saveStateEveryDecisions.toNat

section

variable {n : Nat} {g : Governor} {σ : Type} {K : SnapshotKind σ} {copy snapshot : σ}
  {record : AuditRecord} {order : MapOrder} {wall : UInt64} {request : EvaluationRequest}

theorem savable_of_size (hopen : g.store.isOpen = true) (hs : SummariesFit g.state.audit)
    (hsize : g.size ≤ g.store.options.maxStateBytes.toNat) : Savable g := by
  have hstamped : g.stamped.state.size = g.size := by simp [DurableState.size, stamped, size]
  refine ⟨hopen, hs, ?_⟩
  have hle : (writeState g.stamped.state).length ≤ g.stamped.state.size := length_writeState_le hs
  omega

/-- A runtime that has just gone live. -/
theorem roomy_live (hopen : g.store.isOpen = true) (hs : SummariesFit g.state.audit)
    (hsize : g.size + 600 * n ≤ g.store.options.maxStateBytes.toNat)
    (hpublishers : g.state.publishers.length + n ≤ kMaxPublishers)
    (hdomains : g.state.domains.length + n ≤ kMaxDomainsState)
    (hbytes : g.store.journalBytes.toNat + 510 * n ≤ g.store.options.maxJournalBytes.toNat)
    (hrecords : g.store.journalRecords.toNat + n ≤ g.store.options.maxJournalRecords.toNat)
    (hsave : n < g.options.saveStateEveryDecisions.toNat) : Roomy n g.live where
  isOpen := rfl
  accepting := rfl
  storeOpen := hopen
  summaries := hs
  size := hsize
  publishers := hpublishers
  domains := hdomains
  journalBytes := hbytes
  journalRecords := hrecords
  unsaved := by
    show (0 : UInt64).toNat + n < g.options.saveStateEveryDecisions.toNat
    have hzero : (0 : UInt64).toNat = 0 := rfl
    omega

theorem Roomy.savable (h : Roomy n g) : Savable g :=
  savable_of_size h.storeOpen h.summaries (Nat.le_of_add_right_le h.size)

/-- Saving uses no room. -/
theorem Roomy.saved (h : Roomy n g) : Roomy n g.saved :=
  { h with
    unsaved := by
      have hunsaved := h.unsaved
      have hzero : (0 : UInt64).toNat = 0 := rfl
      simp only [Governor.saved]
      show (0 : UInt64).toNat + n < g.options.saveStateEveryDecisions.toNat
      omega }

/-- A slot and a publisher more. -/
theorem Roomy.extended {slots : List EvidenceSlot} {publishers : List PublisherRegistration}
    (h : Roomy (n + 1) g) (hslots : slots.length ≤ g.slots.length + 1)
    (hpublishers : publishers.length ≤ g.state.publishers.length + 1) :
    Roomy n { g with slots, state := { g.state with publishers }, stateDirty := true } := by
  have hsize := h.size
  have htable := h.publishers
  have hbytes := h.journalBytes
  exact { h with
    size := by
      simp only [Governor.size] at hsize ⊢
      omega
    publishers := by
      show publishers.length + n ≤ kMaxPublishers
      omega
    domains := Nat.le_of_succ_le h.domains
    journalBytes := by
      show g.store.journalBytes.toNat + 510 * n ≤ g.store.options.maxJournalBytes.toNat
      omega
    journalRecords := Nat.le_of_succ_le h.journalRecords
    unsaved := Nat.lt_of_succ_lt h.unsaved }

theorem Roomy.registering {publisher : PublisherId} {incarnation : IncarnationId}
    {epoch : FabricEpoch} (h : Roomy (n + 1) g) :
    Roomy n (g.registering publisher incarnation epoch 0) :=
  h.extended (Nat.le_succ _) (by rw [List.length_append, List.length_singleton]; rfl)

theorem Roomy.adopting {publisher : PublisherId} {incarnation : IncarnationId} {epoch : FabricEpoch}
    (h : Roomy (n + 1) g) : Roomy n (g.adopting publisher incarnation epoch 0) :=
  h.extended ((List.length_map _).trans_le (Nat.le_succ _))
    (Table.length_modify.trans_le (Nat.le_succ _))

theorem Roomy.fencing {publisher : PublisherId} {reason : Code ReasonCode} (h : Roomy (n + 1) g) :
    Roomy n (g.fencing publisher reason) :=
  h.extended (Nat.le_succ _) (Table.length_modify.trans_le (Nat.le_succ _))

theorem Roomy.readmittingPublisher {publisher : PublisherId} {incarnation : IncarnationId}
    {epoch : FabricEpoch} (h : Roomy (n + 1) g) :
    Roomy n (g.readmittingPublisher publisher incarnation epoch 0) :=
  h.extended (Nat.le_succ _) (Table.length_modify.trans_le (Nat.le_succ _))

theorem length_ensureSlot {domain : OversubscriptionDomainId} {kind : EvidenceKind} :
    (g.ensureSlot domain kind).slots.length ≤ g.slots.length + 1 := by
  unfold ensureSlot
  split
  · exact Nat.le_succ _
  · rw [List.length_append, List.length_singleton]

/-- A publication takes at most one more slot. -/
theorem length_slots_published : (g.published K copy).slots.length ≤ g.slots.length + 1 := by
  rw [slots_published]
  exact Table.length_modify.trans_le length_ensureSlot

theorem published_eq : g.published K copy =
    { g with
      slots := (g.published K copy).slots
      state := { g.state with
        publishers := Table.modify (·.publisher) (K.header copy).provenance.publisher
          (fun r => { r with lastSequence := (K.header copy).provenance.sequence })
          g.state.publishers }
      stateDirty := true } := by
  rw [published, bookkept, ensureSlot_eq, ensureSlot_eq (g := g)]
  rfl

theorem Roomy.published (h : Roomy (n + 1) g) : Roomy n (g.published K copy) := by
  rw [published_eq]
  exact h.extended length_slots_published (Table.length_modify.trans_le (Nat.le_succ _))

/-- A new epoch uses no room. -/
theorem Roomy.withEpoch {next : FabricEpoch} (h : Roomy n g) : Roomy n (g.withEpoch next) := by
  have hsize : (g.withEpoch next).size = g.size := by
    simp [Governor.withEpoch, dropEvidenceContent, Governor.size]
  exact { h with
    size := hsize ▸ h.size
    publishers := by simpa [Governor.withEpoch] using h.publishers
    domains := by simpa [Governor.withEpoch] using h.domains }

/-! ## Decisions -/

/-- An evaluation of a valid domain is answered. -/
theorem Roomy.answers (h : Roomy (n + 1) g) (hdomain : request.domain.valid = true) :
    Answers order wall g request where
  isOpen := h.isOpen
  accepting := h.accepting
  domain := hdomain
  table := fun _ => by
    have hdomains := h.domains
    omega
  room := by
    have hbytes : g.store.journalBytes.toNat + 510 ≤ g.store.options.maxJournalBytes.toNat :=
      Nat.le_trans (by omega) h.journalBytes
    have hrecords : g.store.journalRecords.toNat + 1 ≤ g.store.options.maxJournalRecords.toNat :=
      Nat.le_trans (by omega) h.journalRecords
    exact Store.hasRoom_of_le h.storeOpen summary_ruling_le hbytes hrecords
  unsaved := by
    have hunsaved := h.unsaved
    have hlt := g.options.saveStateEveryDecisions.toNat_lt
    have hone : (1 : UInt64).toNat = 1 := rfl
    rw [UInt64.lt_iff_toNat_lt, UInt64.toNat_add, hone]
    omega

theorem length_withRuling {domain : OversubscriptionDomainId} {r : Ruling} :
    (g.withRuling domain r).state.domains.length ≤ g.state.domains.length + 1 := by
  unfold withRuling
  dsimp only
  split
  · exact Table.length_modify.trans_le (Nat.le_succ _)
  · rw [List.length_append, List.length_singleton]

theorem length_withAudit : (g.withAudit record).state.audit.length ≤ g.state.audit.length + 1 := by
  simp only [withAudit, List.length_drop, List.length_append, List.length_singleton]
  exact Nat.sub_le _ _

theorem store_decided : (g.decided order wall request).store =
    g.store.appending (g.ruling order wall request).record := rfl

theorem clock_decided : (g.decided order wall request).clock = (g.ticking request).clock := rfl

/-- The runtime state of the domain of a decision. -/
theorem runtime_decided : (g.decided order wall request).runtime request.domain =
    some (g.ruling order wall request).working := by
  have hdomain : (g.ruling order wall request).working.domain = request.domain := rule_working_domain
  rw [Governor.decided]
  exact runtime_withRuling hdomain

theorem summaries_withAudit (h : SummariesFit g.state.audit)
    (hrecord : record.summary.length ≤ kMaxAuditSummary) :
    SummariesFit (g.withAudit record).state.audit := by
  intro r hr
  rcases List.mem_append.mp (List.mem_of_mem_drop hr) with hold | hnew
  · exact h r hold
  · rwa [List.mem_singleton.mp hnew]

/-- A store that has appended a record has used its room for one. -/
theorem journalBytes_appending (h : g.store.HasRoom record) :
    (g.store.appending record).journalBytes.toNat ≤ g.store.journalBytes.toNat + 510 := by
  have hle := length_recordFrame_le h.fits
  rw [Store.appending, UInt64.toNat_add, UInt64.toNat_ofNat']
  omega

theorem journalRecords_appending :
    (g.store.appending record).journalRecords.toNat ≤ g.store.journalRecords.toNat + 1 := by
  have hone : (1 : UInt64).toNat = 1 := rfl
  rw [Store.appending, UInt64.toNat_add, hone]
  omega

theorem length_decided :
    (g.decided order wall request).state.domains.length ≤ g.state.domains.length + 1 := length_withRuling

theorem size_decided : (g.decided order wall request).size ≤ g.size + 555 := by
  have hdomains : (g.decided order wall request).state.domains.length ≤ g.state.domains.length + 1 :=
    length_decided
  have haudit : (g.decided order wall request).state.audit.length ≤ g.state.audit.length + 1 :=
    length_withAudit (g := { g with store := _ })
  show 124 + (writePolicy g.state.policy).length + 45 * g.state.publishers.length +
    89 * (g.decided order wall request).state.domains.length + 93 * g.slots.length +
      466 * (g.decided order wall request).state.audit.length ≤ _
  unfold Governor.size
  omega

theorem summaries_decided (h : SummariesFit g.state.audit) :
    SummariesFit (g.decided order wall request).state.audit := by
  have haudit : SummariesFit ((g.ticking request).withAudit
      (g.ruling order wall request).record).state.audit := summaries_withAudit h summary_ruling_le
  exact haudit

/-- A decision can be saved where there is room for it in the state file. -/
theorem savable_decided (hopen : g.store.isOpen = true) (h : SummariesFit g.state.audit)
    (hsize : g.size + 555 ≤ g.store.options.maxStateBytes.toNat) :
    Savable (g.decided order wall request) := by
  have hstore : (g.decided order wall request).store.isOpen = g.store.isOpen := by
    rw [store_decided, Store.appending]
  have hoptions : (g.decided order wall request).store.options = g.store.options := by
    rw [store_decided, Store.appending]
  refine savable_of_size (hstore.trans hopen) (summaries_decided h) ?_
  rw [hoptions]
  exact Nat.le_trans size_decided hsize

/-- A decision takes at most one more domain, one more record in the history
and one in the journal. -/
theorem Roomy.decided (h : Roomy (n + 1) g) (hdomain : request.domain.valid = true) :
    Roomy n (g.decided order wall request) := by
  have hanswers : Answers order wall g request := h.answers hdomain
  have hdomains : (g.decided order wall request).state.domains.length ≤ g.state.domains.length + 1 :=
    length_decided
  have hsize : (g.decided order wall request).size ≤ g.size + 555 := size_decided
  have hbytes := journalBytes_appending hanswers.room
  have hrecords : (g.store.appending (g.ruling order wall request).record).journalRecords.toNat ≤
      g.store.journalRecords.toNat + 1 := journalRecords_appending
  have hunsaved : (g.decisionsSinceSave + 1).toNat ≤ g.decisionsSinceSave.toNat + 1 := by
    have hone : (1 : UInt64).toNat = 1 := rfl
    rw [UInt64.toNat_add, hone]
    omega
  have hoptions : (g.decided order wall request).store.options = g.store.options := by
    rw [store_decided, Store.appending]
  have hbound := h.size
  have htable := h.domains
  have hjournal := h.journalBytes
  have hcount := h.journalRecords
  have hsave := h.unsaved
  constructor
  case isOpen => exact h.isOpen
  case accepting => exact h.accepting
  case storeOpen =>
    rw [store_decided, Store.appending]
    exact h.storeOpen
  case summaries => exact summaries_decided h.summaries
  case size =>
    rw [hoptions]
    omega
  case publishers => exact Nat.le_of_succ_le h.publishers
  case domains => omega
  case journalBytes =>
    rw [hoptions, store_decided]
    omega
  case journalRecords =>
    rw [hoptions, store_decided]
    omega
  case unsaved =>
    show (g.decisionsSinceSave + 1).toNat + n < g.options.saveStateEveryDecisions.toNat
    omega

end

/-! ## A session on an empty directory -/

def emptyDisk : Disk := fun _ => none

def sampleOptions : GovernorOptions := { stateDirectory := "state" }

theorem accepts_sample : Accepts sampleOptions :=
  ⟨by decide, by decide, by decide, by decide, by decide, by decide, by decide, by decide⟩

/-- A runtime that has been opened on an empty directory. -/
def started (policy : OversubscriptionPolicy) : Governor :=
  (({} : Governor).initialized sampleOptions emptyDisk policy).live

/-- A runtime with its first publisher. -/
def staffed (g : Governor) : Governor := (g.registering ⟨1⟩ ⟨1⟩ ⟨1⟩ 0).saved

/-- A governor that has accepted a publication. -/
def taking {σ : Type} (K : SnapshotKind σ) (g : Governor) (snapshot : σ) : Governor :=
  (g.published K (digested K snapshot)).saved

/-- A governor that has accepted a publication of each kind. -/
def reporting (g : Governor) (cap : CapacitySnapshot) (res : ReservationSnapshot)
    (adm : AdmissionSnapshot) : Governor :=
  taking admissionKind (taking reservationKind (taking capacityKind g cap) res) adm

/-- The provenance of the `n`th publication. -/
def nthProvenance (n : UInt64) : Provenance :=
  { sampleProvenance with sequence := n, evidenceId := ⟨n⟩ }

def nthCapacity (n usable : UInt64) : CapacitySnapshot :=
  { (sampleSnapshots usable 0).cap with generation := {}, provenance := nthProvenance n }

def nthReservations (n : UInt64) : ReservationSnapshot :=
  { (sampleSnapshots 0 0).res with generation := {}, provenance := nthProvenance n }

def nthAdmissions (n demand : UInt64) : AdmissionSnapshot :=
  { (sampleSnapshots 0 demand).adm with generation := {}, provenance := nthProvenance n }

def openCall (policy : OversubscriptionPolicy) : System.Call :=
  ⟨.openRuntime sampleOptions policy, []⟩

def registerCall : System.Call := ⟨.registerPublisher ⟨1⟩ ⟨1⟩ ⟨1⟩ 0, []⟩

def reportCalls (cap : CapacitySnapshot) (res : ReservationSnapshot) (adm : AdmissionSnapshot) :
    List System.Call :=
  [⟨.ingestCapacity cap, []⟩, ⟨.ingestReservations res, []⟩, ⟨.ingestAdmissions adm, []⟩]

section

variable {n : Nat} {g : Governor} {disk : Disk} {policy : OversubscriptionPolicy}
  {cap : CapacitySnapshot} {res : ReservationSnapshot} {adm : AdmissionSnapshot}

theorem completes_replying {α : Type} {reply : α → Reply} {p : Storage (α × Governor)} {a : α}
    {g' : Governor} {disk' : Disk} (h : Completes p disk (a, g') disk') :
    Completes (replying reply p) disk (reply a, g') disk' := h.bind completes_pure

theorem returns_replying {α : Type} {reply : α → Reply} {p : Storage (α × Governor)} {a : α}
    {g' : Governor} {w w' : World FileName} (h : Returns p w (a, g') w') :
    Returns (replying reply p) w (reply a, g') w' := h.bind returns_pure

theorem savable_initialized (hlength : (writePolicy (initialPolicy policy)).length ≤ 4096) :
    Savable (({} : Governor).initialized sampleOptions emptyDisk policy) := by
  refine savable_of_size rfl nofun ?_
  show 124 + (writePolicy (initialPolicy policy)).length + 0 + 0 + 0 + 0 ≤ 32 * 1024 * 1024
  omega

/-- It has room for the calls of a sample session. -/
theorem roomy_started (hlength : (writePolicy (initialPolicy policy)).length ≤ 4096) :
    Roomy 100 (started policy) := by
  refine roomy_live rfl nofun ?_ (by decide : 0 + 100 ≤ kMaxPublishers)
    (by decide : 0 + 100 ≤ kMaxDomainsState)
    (by decide : 0 + 510 * 100 ≤ sampleOptions.maxJournalBytes.toNat)
    (by decide : 0 + 100 ≤ sampleOptions.maxJournalRecords.toNat)
    (by decide : 100 < sampleOptions.saveStateEveryDecisions.toNat)
  show 124 + (writePolicy (initialPolicy policy)).length + 0 + 0 + 0 + 0 + 600 * 100 ≤
    32 * 1024 * 1024
  omega

/-- A runtime starts on an empty directory. -/
theorem perform_open (hp : (validatePolicy (initialPolicy policy)).isOk = true)
    (hlength : (writePolicy (initialPolicy policy)).length ≤ 4096) :
    ∃ disk, (System.boot emptyDisk).perform (openCall policy) =
      (some (.status .success), ⟨started policy, disk⟩) :=
  ⟨_, System.perform_of_completes (completes_replying
    (completes_open_fresh rfl accepts_sample rfl hp (savable_initialized hlength)))⟩

theorem step_open (hp : (validatePolicy (initialPolicy policy)).isOk = true)
    (hlength : (writePolicy (initialPolicy policy)).length ≤ 4096) :
    ∃ disk, (System.boot emptyDisk).step (openCall policy) = ⟨started policy, disk⟩ := by
  obtain ⟨disk, hperform⟩ := perform_open hp hlength
  exact ⟨disk, System.step_of_perform hperform⟩

/-- Its first publisher is registered. -/
theorem perform_register (disk : Disk) (h : Roomy (n + 1) g) (hepoch : g.state.epoch.value = 1)
    (hpublishers : g.state.publishers = []) :
    ∃ disk', System.perform ⟨g, disk⟩ registerCall =
      (some (.status .success), ⟨staffed g, disk'⟩) := by
  have hnone : (g.observing 0).registration ⟨1⟩ = none := by
    rw [registration, observing, if_pos rfl, hpublishers]
    rfl
  have hroom : (g.observing 0).state.publishers.length < kMaxPublishers := by
    rw [observing, if_pos rfl, hpublishers]
    decide
  exact ⟨_, System.perform_of_completes (completes_replying
    (completes_registerPublisher h.isOpen h.accepting rfl ⟨rfl, hepoch.symm⟩ hnone hroom
      h.registering.savable))⟩

theorem step_register (disk : Disk) (h : Roomy (n + 1) g) (hepoch : g.state.epoch.value = 1)
    (hpublishers : g.state.publishers = []) :
    ∃ disk', System.step ⟨g, disk⟩ registerCall = ⟨staffed g, disk'⟩ := by
  obtain ⟨disk', hperform⟩ := perform_register disk h hepoch hpublishers
  exact ⟨disk', System.step_of_perform hperform⟩

theorem Roomy.staffed (h : Roomy (n + 1) g) : Roomy n (staffed g) := h.registering.saved

theorem Roomy.taking {σ : Type} {K : SnapshotKind σ} {snapshot : σ} (h : Roomy (n + 1) g) :
    Roomy n (taking K g snapshot) := h.published.saved

theorem runtime_staffed {domain : OversubscriptionDomainId} :
    (staffed g).runtime domain = g.runtime domain := rfl

theorem runtime_taking {σ : Type} {K : SnapshotKind σ} {snapshot : σ}
    {domain : OversubscriptionDomainId} : (taking K g snapshot).runtime domain = g.runtime domain := by
  have hsaved : (taking K g snapshot).runtime domain =
      (g.published K (digested K snapshot)).runtime domain := rfl
  rw [hsaved, rest_congr (fun g => g.runtime domain) (fun _ => rfl) rest_published]

theorem perform_ingest (disk : Disk) {σ : Type} {K : SnapshotKind σ} {snapshot : σ} {c : Command}
    (hc : Publication K snapshot c) (h : Takes K g snapshot) :
    ∃ disk', System.perform ⟨g, disk⟩ ⟨c, []⟩ =
      (some (.ingested { status := .success
                         generation := nextGeneration K g (digested K snapshot) }),
        ⟨taking K g snapshot, disk'⟩) := by
  cases hc with
  | capacity =>
      exact ⟨_, System.perform_of_completes (completes_replying (completes_ingest h))⟩
  | reservations =>
      exact ⟨_, System.perform_of_completes (completes_replying (completes_ingest h))⟩
  | admissions =>
      exact ⟨_, System.perform_of_completes (completes_replying (completes_ingest h))⟩

theorem step_ingest (disk : Disk) {σ : Type} {K : SnapshotKind σ} {snapshot : σ} {c : Command}
    (hc : Publication K snapshot c) (h : Takes K g snapshot) :
    ∃ disk', System.step ⟨g, disk⟩ ⟨c, []⟩ = ⟨taking K g snapshot, disk'⟩ := by
  obtain ⟨disk', hperform⟩ := perform_ingest disk hc h
  exact ⟨disk', System.step_of_perform hperform⟩

theorem perform_unsaved {σ : Type} {K : SnapshotKind σ} {snapshot : σ} {c : Command}
    (hc : Publication K snapshot c) (h : Takes K g snapshot) :
    System.perform ⟨g, disk⟩ ⟨c, [.fails 0]⟩ =
      (some (.ingested { status := (g.published K (digested K snapshot)).unwritten }),
        ⟨g.takenBack K (digested K snapshot), disk⟩) := by
  cases hc with
  | capacity => exact System.perform_of_returns (w := ⟨disk, []⟩) (returns_replying (returns_ingest h))
  | reservations => exact System.perform_of_returns (w := ⟨disk, []⟩) (returns_replying (returns_ingest h))
  | admissions => exact System.perform_of_returns (w := ⟨disk, []⟩) (returns_replying (returns_ingest h))

theorem perform_duplicate (disk : Disk) {σ : Type} {K : SnapshotKind σ} {snapshot : σ} {c : Command} {n : UInt64}
    (hc : Publication K snapshot c) (hv : (K.validate (digested K snapshot)).isOk = true)
    (hadmits : admits K g (digested K snapshot) = .ok ⟨n, true⟩) :
    ∃ disk', System.perform ⟨g, disk⟩ ⟨c, []⟩ =
      (some (.ingested { status := .success, generation := n, duplicate := true }),
        ⟨g.ensureSlot (K.header (digested K snapshot)).domain K.kind, disk'⟩) := by
  cases hc with
  | capacity =>
      exact ⟨_, System.perform_of_completes
        (completes_replying (completes_ingest_duplicate hv hadmits))⟩
  | reservations =>
      exact ⟨_, System.perform_of_completes
        (completes_replying (completes_ingest_duplicate hv hadmits))⟩
  | admissions =>
      exact ⟨_, System.perform_of_completes
        (completes_replying (completes_ingest_duplicate hv hadmits))⟩

theorem perform_evaluate (disk : Disk) {order : MapOrder} {wall : UInt64} {request : EvaluationRequest}
    (h : Answers order wall g request) : ∃ disk',
      System.perform ⟨g, disk⟩ ⟨.evaluate order wall request, []⟩ =
        (some (.decided (.ok (g.ruling order wall request).decision)),
          ⟨g.decided order wall request, disk'⟩) :=
  ⟨_, System.perform_of_completes (completes_replying (completes_evaluate h))⟩

theorem foldl_reportCalls (hcap : Takes capacityKind g cap)
    (hres : Takes reservationKind (taking capacityKind g cap) res)
    (hadm : Takes admissionKind (taking reservationKind (taking capacityKind g cap) res) adm) :
    ∃ disk', (reportCalls cap res adm).foldl System.step ⟨g, disk⟩ =
      ⟨g.reporting cap res adm, disk'⟩ := by
  obtain ⟨disk₁, h₁⟩ := step_ingest disk (.capacity cap) hcap
  obtain ⟨disk₂, h₂⟩ := step_ingest disk₁ (.reservations res) hres
  obtain ⟨disk₃, h₃⟩ := step_ingest disk₂ (.admissions adm) hadm
  rw [reportCalls, List.foldl_cons, List.foldl_cons, List.foldl_cons, h₁, h₂, h₃]
  exact ⟨disk₃, rfl⟩

end

/-- The session of the sample policy: 100 units are usable and 50 committed. -/
def sampleCalls : List System.Call :=
  openCall samplePolicy :: registerCall ::
    reportCalls (nthCapacity 1 100) (nthReservations 2) (nthAdmissions 3 50)

/-- The runtime after it. -/
def sampleReported : Governor :=
  (staffed (started samplePolicy)).reporting (nthCapacity 1 100) (nthReservations 2) (nthAdmissions 3 50)

theorem initialPolicy_sample : (validatePolicy (initialPolicy samplePolicy)).isOk = true :=
  validatePolicy_computePolicyDigest samplePolicy_valid

/-- A publication passes its tests as new. -/
def admitted {σ : Type} (K : SnapshotKind σ) (g : Governor) (snapshot : σ) : Bool :=
  (K.validate snapshot).isOk &&
    match admits K g (digested K snapshot) with
    | .ok a => a.generation == nextGeneration K g (digested K snapshot) && !a.duplicate
    | .error _ => false

theorem takes_of_admitted {σ : Type} {K : SnapshotKind σ} {n : Nat} {g : Governor} {snapshot : σ}
    {c : Command} (h : Roomy (n + 1) g) (hc : Publication K snapshot c)
    (hadmitted : admitted K g snapshot = true) : Takes K g snapshot := by
  obtain ⟨hv, hadmits⟩ := Bool.and_eq_true_iff.mp hadmitted
  exact ⟨validate_digested hc hv, admits_of_check hadmits, h.published.savable⟩

/-- The evaluation of the sample domain. -/
def sampleRequest : EvaluationRequest := ⟨⟨1⟩, 0⟩

/-- What has to be computed for the sample session: it gets through, and its
evaluation grants. -/
theorem sample_checks :
    (writePolicy (initialPolicy samplePolicy)).length ≤ 4096 ∧
    admitted capacityKind (staffed (started samplePolicy)) (nthCapacity 1 100) = true ∧
    admitted reservationKind (taking capacityKind (staffed (started samplePolicy)) (nthCapacity 1 100))
      (nthReservations 2) = true ∧
    admitted admissionKind
      (taking reservationKind
        (taking capacityKind (staffed (started samplePolicy)) (nthCapacity 1 100)) (nthReservations 2))
      (nthAdmissions 3 50) = true ∧
    nextGeneration capacityKind (staffed (started samplePolicy))
      (digested capacityKind (nthCapacity 1 100)) = 1 ∧
    (sampleReported.ticking sampleRequest).clock.advance 1000000 = some ⟨1000000⟩ ∧
    (sampleReported.ruling .listed 0 sampleRequest).decision.newOversubscriptionAuthorized = true := by
  decide +kernel

theorem sample_opened : ∃ disk, (System.boot emptyDisk).perform (openCall samplePolicy) =
    (some (.status .success), ⟨started samplePolicy, disk⟩) :=
  perform_open initialPolicy_sample sample_checks.1

theorem sample_started : ∃ disk, (System.boot emptyDisk).step (openCall samplePolicy) =
    ⟨started samplePolicy, disk⟩ :=
  step_open initialPolicy_sample sample_checks.1

theorem roomy_sampleStaffed : Roomy 99 (staffed (started samplePolicy)) :=
  (roomy_started sample_checks.1).staffed

theorem sample_registered (disk : Disk) : ∃ disk',
    System.perform ⟨started samplePolicy, disk⟩ registerCall =
      (some (.status .success), ⟨staffed (started samplePolicy), disk'⟩) :=
  perform_register disk (roomy_started sample_checks.1) rfl rfl

theorem sample_staffed (disk : Disk) : ∃ disk',
    System.step ⟨started samplePolicy, disk⟩ registerCall = ⟨staffed (started samplePolicy), disk'⟩ :=
  step_register disk (roomy_started sample_checks.1) rfl rfl

theorem takes_sampleCapacity : Takes capacityKind (staffed (started samplePolicy)) (nthCapacity 1 100) :=
  takes_of_admitted roomy_sampleStaffed (.capacity _) sample_checks.2.1

theorem takes_sampleReservations : Takes reservationKind
    (taking capacityKind (staffed (started samplePolicy)) (nthCapacity 1 100)) (nthReservations 2) :=
  takes_of_admitted roomy_sampleStaffed.taking (.reservations _) sample_checks.2.2.1

theorem takes_sampleAdmissions : Takes admissionKind
    (taking reservationKind (taking capacityKind (staffed (started samplePolicy)) (nthCapacity 1 100))
      (nthReservations 2)) (nthAdmissions 3 50) :=
  takes_of_admitted roomy_sampleStaffed.taking.taking (.admissions _) sample_checks.2.2.2.1

theorem sample_session : ∃ disk,
    sampleCalls.foldl System.step (System.boot emptyDisk) = ⟨sampleReported, disk⟩ := by
  obtain ⟨disk₁, h₁⟩ := sample_started
  obtain ⟨disk₂, h₂⟩ := sample_staffed disk₁
  rw [sampleCalls, List.foldl_cons, List.foldl_cons, h₁, h₂]
  exact foldl_reportCalls takes_sampleCapacity takes_sampleReservations takes_sampleAdmissions

/-- The first publication of the session is accepted. -/
theorem sample_accepted (disk : Disk) : ∃ disk', System.perform ⟨staffed (started samplePolicy), disk⟩
    ⟨.ingestCapacity (nthCapacity 1 100), []⟩ =
      (some (.ingested { status := .success, generation := 1 }),
        ⟨taking capacityKind (staffed (started samplePolicy)) (nthCapacity 1 100), disk'⟩) := by
  obtain ⟨disk', hperform⟩ := perform_ingest disk (.capacity (nthCapacity 1 100))
    takes_sampleCapacity
  rw [sample_checks.2.2.2.2.1] at hperform
  exact ⟨disk', hperform⟩

theorem roomy_sampleReported : Roomy 96 sampleReported := roomy_sampleStaffed.taking.taking.taking

theorem answers_sample : Answers .listed 0 sampleReported sampleRequest :=
  roomy_sampleReported.answers rfl

/-- It grants. -/
theorem sampleRequest_authorized :
    (sampleReported.ruling .listed 0 sampleRequest).decision.newOversubscriptionAuthorized = true :=
  sample_checks.2.2.2.2.2.2

/-- The decision of the sample session. -/
def sampleDecision : Decision := (sampleReported.ruling .listed 0 sampleRequest).decision

/-- The runtime that has made it. -/
def sampleDecided : Governor := sampleReported.decided .listed 0 sampleRequest

theorem roomy_sampleDecided : Roomy 95 sampleDecided := roomy_sampleReported.decided rfl

def evaluateCall : System.Call := ⟨.evaluate .listed 0 sampleRequest, []⟩

theorem sample_decided (disk : Disk) : ∃ disk', System.perform ⟨sampleReported, disk⟩ evaluateCall =
    (some (.decided (.ok sampleDecision)), ⟨sampleDecided, disk'⟩) := perform_evaluate disk answers_sample

/-- The sample session, up to its decision. -/
def sampleSystem : System := sampleCalls.foldl System.step (System.boot emptyDisk)

theorem sampleSystem_decided : ∃ disk, System.perform sampleSystem evaluateCall =
    (some (.decided (.ok sampleDecision)), ⟨sampleDecided, disk⟩) := by
  obtain ⟨disk₁, hsession⟩ := sample_session
  obtain ⟨disk₂, hdecided⟩ := sample_decided disk₁
  rw [sampleSystem, hsession, hdecided]
  exact ⟨disk₂, rfl⟩

/-- The sample session as a run, with further calls after its decision. -/
theorem sampleSystem_run (calls : List System.Call) : SessionRun emptyDisk
    (Trace.play System.step (System.boot emptyDisk) sampleCalls ++ ⟨sampleSystem, evaluateCall⟩ ::
      Trace.play System.step (sampleSystem.step evaluateCall) calls)
    (calls.foldl System.step (sampleSystem.step evaluateCall)) := Trace.run_play_at evaluateCall calls rfl

/-- Time passes. -/
def tickCall : System.Call := ⟨.advanceTick 1000000, []⟩

/-- The runtime, a long time after its decision. -/
def sampleLate : Governor :=
  { sampleDecided with
    clock := ⟨1000000⟩
    state := { sampleDecided.state with tick := 1000000 }
    stateDirty := true }

theorem sample_late {disk : Disk} :
    System.perform ⟨sampleDecided, disk⟩ tickCall = (some (.status .success), ⟨sampleLate, disk⟩) := by
  have hclock : sampleDecided.clock.advance 1000000 = some ⟨1000000⟩ := by
    rw [sampleDecided, clock_decided]
    exact sample_checks.2.2.2.2.2.1
  exact System.perform_of_completes (completes_replying
    (completes_advanceTick roomy_sampleDecided.isOpen hclock))

theorem sampleLate_isOpen : sampleLate.isOpen = true := roomy_sampleDecided.isOpen

end Governor

end Oversub
