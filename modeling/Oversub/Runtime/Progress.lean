import Oversub.Engine.Grant
import Oversub.Journal
import Oversub.Runtime.Slots

/-!
# Oversub.Runtime.Progress

Calls that get through: what a call returns and leaves behind when nothing
stands in its way.
-/

namespace Oversub

open Wire Crash Files

/-! ## Loading -/

namespace Store

variable {s : Store} {disk : Disk} {records : List AuditRecord} {decoded : DurableState}
  {bytes : List UInt8} {record : AuditRecord}

/-- A journal within the bounds of its reader. -/
structure Reads (s : Store) (disk : Disk) (records : List AuditRecord) : Prop where
  framed : Framed disk records []
  within : WithinBounds s.options 0 records
  bytes : (frames records).length ≤ (s.options.maxJournalBytes + 1048576).toNat

/-- A store that has read a journal. -/
def reading (s : Store) (records : List AuditRecord) : Store :=
  { s with
    journalBytes := UInt64.ofNat (frames records).length
    journalRecords := UInt64.ofNat records.length }

theorem completes_loadJournal (hopen : s.isOpen = true) (h : Reads s disk records) :
    ∃ report, Completes s.loadJournal disk (.ok (records, report), s.reading records) disk := by
  have hbytes := h.framed.bytes
  rw [List.append_nil] at hbytes
  unfold loadJournal
  rw [if_neg (by simp [hopen])]
  cases hjournal : disk .journal with
  | none =>
      rw [hjournal, Option.getD_none, eq_comm, frames_eq_nil] at hbytes
      subst hbytes
      exact ⟨_, (completes_readFileBounded_none hjournal).bind completes_pure⟩
  | some bytes =>
      rw [hjournal, Option.getD_some] at hbytes
      subst hbytes
      have hlen : (frames records ++ []).length < 2 ^ 64 := by
        rw [List.append_nil]
        exact Nat.lt_of_le_of_lt h.bytes (UInt64.toNat_lt _)
      have hscan := scanned_journal s.options (.inl rfl) h.framed.fits hlen
      have hwhole := hscan.whole rfl h.within
      obtain ⟨-, hall, hrecovered⟩ := hscan.intact hwhole
      have hrecords : (scanJournal s.options (frames records ++ [])).records = records :=
        hscan.records_eq.trans hall
      rw [List.append_nil] at hwhole hrecovered hrecords
      rw [Nat.zero_add] at hrecovered
      exact ⟨_, (completes_readFileBounded hjournal h.bytes).bind (by
        dsimp only
        rw [hwhole, if_neg (by simp), hrecords, hrecovered]
        exact completes_pure)⟩

/-- It is read whole. -/
theorem Reads.recovers (h : Reads s disk records) : Recovers s.options disk records disk := by
  have hbytes := h.framed.bytes
  cases hjournal : disk .journal with
  | none =>
      rw [hjournal, Option.getD_none, List.append_nil, eq_comm, frames_eq_nil] at hbytes
      rw [hbytes]
      exact .absent hjournal
  | some bytes =>
      rw [hjournal, Option.getD_some] at hbytes
      have hlen : (frames records ++ []).length < 2 ^ 64 := by
        rw [List.append_nil]
        exact Nat.lt_of_le_of_lt h.bytes (UInt64.toNat_lt _)
      have hscan := scanned_journal s.options (.inl rfl) h.framed.fits hlen
      rw [← hbytes] at hscan hlen
      have hwhole := hscan.whole rfl h.within
      have hrecords : (scanJournal s.options bytes).records = records :=
        hscan.records_eq.trans (hscan.intact hwhole).2.1
      have hrecovers : Recovers s.options disk (scanJournal s.options bytes).records disk :=
        .intact hjournal hlen hwhole
      rwa [hrecords] at hrecovers

/-- A state file that can be read is loaded. -/
theorem completes_load (hopen : s.isOpen = true) (h : Reads s disk records)
    (hstate : disk .state = some bytes)
    (hle : bytes.length ≤ (s.options.maxStateBytes + UInt64.ofNat kStateHeaderBytes + 32).toNat)
    (hdecoded : decodeStateFile s.options bytes = .ok decoded) :
    ∃ report, Completes s.load disk
      (.ok (some (recoverState s.options decoded records).1, report), s.reading records) disk := by
  obtain ⟨report, hjournal⟩ := completes_loadJournal hopen h
  unfold load
  rw [if_neg (by simp [hopen])]
  exact ⟨_, (completes_readFileBounded hstate hle).bind (by
    dsimp only
    rw [hdecoded]
    exact hjournal.bind completes_pure)⟩

/-! ## Appending -/

/-- The journal has room for a record. -/
structure HasRoom (s : Store) (record : AuditRecord) : Prop where
  isOpen : s.isOpen = true
  fits : record.summary.length ≤ kMaxAuditSummary
  bytes : s.journalBytes + UInt64.ofNat (recordFrame record).length ≤ s.options.maxJournalBytes
  records : s.journalRecords + 1 ≤ s.options.maxJournalRecords

/-- A journal has room for a record if it has room for the largest. -/
theorem hasRoom_of_le (hopen : s.isOpen = true) (hfits : record.summary.length ≤ kMaxAuditSummary)
    (hbytes : s.journalBytes.toNat + 510 ≤ s.options.maxJournalBytes.toNat)
    (hrecords : s.journalRecords.toNat + 1 ≤ s.options.maxJournalRecords.toNat) :
    HasRoom s record := by
  have hle := length_recordFrame_le hfits
  have hmaxBytes := s.options.maxJournalBytes.toNat_lt
  have hmaxRecords := s.options.maxJournalRecords.toNat_lt
  have hone : (1 : UInt64).toNat = 1 := rfl
  refine ⟨hopen, hfits, ?_, ?_⟩
  · rw [UInt64.le_iff_toNat_le, UInt64.toNat_add, UInt64.toNat_ofNat']
    omega
  · rw [UInt64.le_iff_toNat_le, UInt64.toNat_add, hone]
    omega

/-- A store that has appended a record. -/
def appending (s : Store) (record : AuditRecord) : Store :=
  { s with
    journalBytes := s.journalBytes + UInt64.ofNat (recordFrame record).length
    journalRecords := s.journalRecords + 1 }

/-- An append that is not refused gets as far as the file. -/
theorem appendAudit_of_room (h : HasRoom s record) : s.appendAudit record = (do
    let status ← appendFile (s.path .journal) .journal (recordFrame record)
    if status.isOk then pure (.success, s.appending record) else pure (status, s)) := by
  have hframe : journalFrame record = .ok (recordFrame record) :=
    journalFrame_eq_ok.mpr ⟨h.fits, rfl⟩
  have hroom : ¬ (s.options.maxJournalBytes <
      s.journalBytes + UInt64.ofNat (recordFrame record).length ∨
        s.options.maxJournalRecords < s.journalRecords + 1) := by
    rw [not_or, UInt64.not_lt, UInt64.not_lt]
    exact ⟨h.bytes, h.records⟩
  unfold appendAudit
  rw [if_neg (by simp [h.isOpen]), hframe]
  dsimp only
  rw [if_neg hroom]
  rfl

theorem completes_appendAudit (h : HasRoom s record) :
    Completes (s.appendAudit record) disk (.success, s.appending record)
      (appended disk .journal (recordFrame record)) := by
  rw [appendAudit_of_room h]
  exact completes_appendFile.bind completes_pure

end Store

/-! ## Saving -/

/-- The directory, with a state in its state file. -/
def withState (disk : Disk) (state : DurableState) : Disk :=
  replaced disk .state (makeStateFile (writeState state))

theorem withState_state {disk : Disk} {state : DurableState} :
    withState disk state .state = some (makeStateFile (writeState state)) := replaced_self

theorem withState_journal {disk : Disk} {state : DurableState} :
    withState disk state .journal = disk .journal := replaced_ne (by decide)

namespace Governor

variable {g : Governor} {disk : Disk}

/-- Nothing keeps a governor from being saved. -/
structure Savable (g : Governor) : Prop where
  isOpen : g.store.isOpen = true
  summaries : SummariesFit g.state.audit
  fits : (writeState g.stamped.state).length ≤ g.store.options.maxStateBytes.toNat

/-- A governor that was saved. -/
def saved (g : Governor) : Governor := { g.stamped with decisionsSinceSave := 0, stateDirty := false }

theorem completes_saveState (h : Savable g) :
    Completes g.saveState disk (.success, g.saved) (withState disk g.stamped.state) := by
  have hs : serializeState g.stamped.state = .ok (writeState g.stamped.state) :=
    serializeState_eq_ok.mpr ⟨h.summaries, rfl⟩
  have hopen : g.stamped.store.isOpen = true := h.isOpen
  have hsave : Completes (g.stamped.store.save g.stamped.state) disk .success
      (withState disk g.stamped.state) := by
    have hfits : ¬ g.stamped.store.options.maxStateBytes.toNat < (writeState g.stamped.state).length :=
      Nat.not_lt.mpr h.fits
    unfold Store.save
    rw [hopen, hs]
    dsimp only
    rw [if_neg (by simp), if_neg hfits]
    exact completes_writeFileAtomic
  exact hsave.bind completes_pure

theorem completes_persistState (h : Savable g) :
    Completes (g.persistState true) disk (.success, g.saved) (withState disk g.stamped.state) := by
  unfold persistState
  split
  · rw [if_pos h.isOpen]
    exact completes_saveState h
  · exact completes_saveState h

/-- The status of a save whose write failed. -/
def unwritten (g : Governor) : Status :=
  ioFailure .none ("failed to write temporary file: " ++ g.store.path .state ++ ".tmp")

/-- A save whose write fails leaves the directory as it was. -/
theorem returns_saveState (h : Savable g) :
    Returns g.saveState ⟨disk, [.fails 0]⟩ (g.unwritten, g.stamped) ⟨disk, []⟩ := by
  have hs : serializeState g.stamped.state = .ok (writeState g.stamped.state) :=
    serializeState_eq_ok.mpr ⟨h.summaries, rfl⟩
  have hopen : g.stamped.store.isOpen = true := h.isOpen
  have hfits : ¬ g.stamped.store.options.maxStateBytes.toNat < (writeState g.stamped.state).length :=
    Nat.not_lt.mpr h.fits
  have hsave : Returns (g.stamped.store.save g.stamped.state) ⟨disk, [.fails 0]⟩ g.unwritten
      ⟨disk, []⟩ := by
    unfold Store.save
    rw [hopen, hs]
    dsimp only
    rw [if_neg (by simp), if_neg hfits]
    exact returns_replace.bind returns_pure
  exact hsave.bind returns_pure

theorem returns_persistState (h : Savable g) :
    Returns (g.persistState true) ⟨disk, [.fails 0]⟩ (g.unwritten, g.stamped) ⟨disk, []⟩ := by
  unfold persistState
  split
  · rw [if_pos h.isOpen]
    exact returns_saveState h
  · exact returns_saveState h

/-! ## Opening -/

/-- Options that `open` accepts. -/
structure Accepts (o : GovernorOptions) : Prop where
  directory : o.stateDirectory ≠ ""
  workers : o.workerThreads ≤ 64
  jobs : o.maxPendingJobs ≠ 0
  stateBytes : o.maxStateBytes ≠ 0
  journalBytes : o.maxJournalBytes ≠ 0
  journalRecords : o.maxJournalRecords ≠ 0
  auditRecords : o.maxAuditRecords ≠ 0 ∧ o.maxAuditRecords.toNat ≤ kMaxAuditRecords

/-- The store `open` opens on a directory. -/
def openedStore (o : GovernorOptions) (disk : Disk) : Store where
  options := o.storeOptions
  isOpen := true
  journalBytes := UInt64.ofNat ((disk .journal).getD []).length
  journalRecords := 0

/-- A governor that has gone live. -/
def live (g : Governor) : Governor := { g.saved with isOpen := true, accepting := true }

theorem completes_storeOpen {s : Store} {o : GovernorOptions} (h : Accepts o) :
    Completes (s.open o.storeOptions) disk (.success, openedStore o disk) disk := by
  have hdirectory : ¬ o.storeOptions.directory = "" := h.directory
  have hbounds : ¬ (o.storeOptions.maxStateBytes = 0 ∨ o.storeOptions.maxJournalBytes = 0 ∨
      o.storeOptions.maxJournalRecords = 0) := by
    rw [not_or, not_or]
    exact ⟨h.stateBytes, h.journalBytes, h.journalRecords⟩
  have haudit : ¬ (o.storeOptions.maxAuditRecords = 0 ∨
      kMaxAuditRecords < o.storeOptions.maxAuditRecords.toNat) := by
    rw [not_or]
    exact ⟨h.auditRecords.1, Nat.not_lt.mpr h.auditRecords.2⟩
  unfold Store.open
  rw [if_neg hdirectory, if_neg hbounds, if_neg haudit]
  exact completes_attempt.bind (completes_content.bind completes_pure)

/-- The runtime over a fresh directory, before it is saved. -/
def initialized (g : Governor) (o : GovernorOptions) (disk : Disk) (policy : OversubscriptionPolicy) :
    Governor :=
  { g with
    options := o
    store := openedStore o disk
    state := freshState (initialPolicy policy)
    index := .rebuild (initialPolicy policy)
    slots := []
    stateDirty := true }

section

variable {o : GovernorOptions} {policy : OversubscriptionPolicy} {disk₁ : Disk}

theorem opened_success (g : Governor) : opened (.success, g.saved) = (.success, g.live) := rfl

/-- A call to `open` that finds no state. -/
theorem completes_open_none {store : Store} {report : LoadReport} {a : Status × Governor}
    {disk₂ : Disk} (hclosed : g.isOpen = false) (h : Accepts o)
    (hload : Completes (openedStore o disk).load disk (.ok (none, report), store) disk₁)
    (hend : Completes (initializeLocked { g with options := o, store } policy) disk₁ a disk₂) :
    Completes (g.open o policy) disk (opened a) disk₂ := by
  unfold Governor.open
  rw [if_neg (by simp [hclosed]), if_neg h.directory, if_neg (UInt32.not_lt.mpr h.workers),
    if_neg h.jobs]
  refine (completes_storeOpen h).bind ?_
  dsimp only
  rw [if_neg (by decide)]
  refine hload.bind ?_
  dsimp only
  exact hend.bind completes_pure

/-- A call to `open` that finds a state. -/
theorem completes_open_some {store : Store} {report : LoadReport} {state : DurableState}
    {a : Status × Governor} {disk₂ : Disk} (hclosed : g.isOpen = false) (h : Accepts o)
    (hload : Completes (openedStore o disk).load disk (.ok (some state, report), store) disk₁)
    (hnext : state.incarnation.value ≠ UInt64.ofNat u64Max)
    (hend : Completes ((restored { g with options := o, store } state).persistState true) disk₁ a
      disk₂) :
    Completes (g.open o policy) disk (opened a) disk₂ := by
  unfold Governor.open
  rw [if_neg (by simp [hclosed]), if_neg h.directory, if_neg (UInt32.not_lt.mpr h.workers),
    if_neg h.jobs]
  refine (completes_storeOpen h).bind ?_
  dsimp only
  rw [if_neg (by decide)]
  refine hload.bind ?_
  dsimp only
  rw [if_neg hnext]
  exact hend.bind completes_pure

/-- A fresh directory is initialized. -/
theorem completes_open_fresh (hclosed : g.isOpen = false) (h : Accepts o)
    (hnone : disk .state = none) (hp : (validatePolicy (initialPolicy policy)).isOk = true)
    (hs : Savable (g.initialized o disk policy)) :
    Completes (g.open o policy) disk (.success, (g.initialized o disk policy).live)
      (withState disk (g.initialized o disk policy).stamped.state) := by
  have hload : Completes (openedStore o disk).load disk
      (.ok (none, { reason := .persistenceNotInitialized, detail := "no durable state present" }),
        openedStore o disk) disk := by
    have hread : Completes (readFileBounded ((openedStore o disk).path .state) .state
        ((openedStore o disk).options.maxStateBytes + UInt64.ofNat kStateHeaderBytes + 32)) disk
          (.error (.failure .notFound .none
            ("file not found: " ++ (openedStore o disk).path .state))) disk := by
      unfold readFileBounded
      refine completes_content.bind ?_
      rw [hnone]
      exact completes_pure
    unfold Store.load
    rw [if_neg (by simp [openedStore])]
    exact hread.bind completes_pure
  refine completes_open_none hclosed h hload (a := (.success, (g.initialized o disk policy).saved)) ?_
  unfold initializeLocked
  dsimp only
  rw [hp, if_neg (by simp)]
  exact completes_persistState hs

/-- A state that is loaded is taken over. -/
theorem completes_open_loaded {state : DurableState} {report : LoadReport} {store : Store}
    (hclosed : g.isOpen = false) (h : Accepts o)
    (hload : Completes (openedStore o disk).load disk (.ok (some state, report), store) disk₁)
    (hnext : state.incarnation.value ≠ UInt64.ofNat u64Max)
    (hs : Savable (restored { g with options := o, store } state)) :
    Completes (g.open o policy) disk (.success, (restored { g with options := o, store } state).live)
      (withState disk₁ (restored { g with options := o, store } state).stamped.state) :=
  completes_open_some hclosed h hload hnext (completes_persistState hs)

/-- A directory whose state can be read under some options. -/
structure Readable (o : GovernorOptions) (disk : Disk) (state : DurableState)
    (records : List AuditRecord) : Prop where
  state_eq : disk .state = some (makeStateFile (writeState state))
  journal : Store.Reads (openedStore o disk) disk records
  summaries : SummariesFit state.audit
  policy : (validatePolicy state.policy).isOk = true
  digest : state.policyDigest = state.policy.digest
  fits : state.Fits
  bytes : (writeState state).length ≤ o.maxStateBytes.toNat
  bound : (writeState state).length + 56 ≤ (o.maxStateBytes + UInt64.ofNat kStateHeaderBytes + 32).toNat

/-- A journal that does not exist can be read. -/
theorem reads_nil {s : Store} {disk : Disk} (h : disk .journal = none) : s.Reads disk [] :=
  ⟨⟨by rw [h]; rfl, nofun, .inl rfl⟩, ⟨nofun, Nat.zero_le _⟩, Nat.zero_le _⟩

/-- A state that was saved can be read under the options of the save. -/
theorem readable_saved {records : List AuditRecord} (hs : Savable g)
    (hoptions : g.store.options.maxStateBytes = o.maxStateBytes)
    (hwrap : o.maxStateBytes.toNat + 56 < 2 ^ 64)
    (hstate : disk .state = some (makeStateFile (writeState g.stamped.state)))
    (hjournal : Store.Reads (openedStore o disk) disk records)
    (hpolicy : (validatePolicy g.state.policy).isOk = true)
    (hdigest : g.state.policyDigest = g.state.policy.digest) (hfits : g.stamped.state.Fits) :
    Readable o disk g.stamped.state records := by
  have hbytes := hs.fits
  have hbound : (o.maxStateBytes + UInt64.ofNat kStateHeaderBytes + 32).toNat =
      o.maxStateBytes.toNat + 56 := by
    have hheader : (UInt64.ofNat kStateHeaderBytes).toNat = 24 := rfl
    have hdigest : (32 : UInt64).toNat = 32 := rfl
    rw [UInt64.toNat_add, UInt64.toNat_add, hheader, hdigest]
    omega
  rw [hoptions] at hbytes
  refine ⟨hstate, hjournal, hs.summaries, hpolicy, hdigest, hfits, hbytes, ?_⟩
  rw [hbound]
  exact Nat.add_le_add_right hbytes 56

theorem Readable.decoded {state : DurableState} {records : List AuditRecord}
    (h : Readable o disk state records) :
    decodeStateFile o.storeOptions (makeStateFile (writeState state)) = .ok state := by
  have hserialize : serializeState state = .ok (writeState state) :=
    serializeState_eq_ok.mpr ⟨h.summaries, rfl⟩
  have hlen : (writeState state).length < 2 ^ 64 :=
    Nat.lt_of_le_of_lt h.bytes (UInt64.toNat_lt _)
  refine (decodeStateFile_saved hserialize hlen h.policy).mpr ⟨?_, h.fits, h.digest, rfl⟩
  rw [UInt64.le_iff_toNat_le, UInt64.toNat_ofNat_of_lt' hlen]
  exact h.bytes

/-- What a load makes of it. -/
theorem Readable.loads {state : DurableState} {records : List AuditRecord}
    (h : Readable o disk state records) :
    Loads o.storeOptions disk (recoverState o.storeOptions state records).1 disk :=
  ⟨_, state, records, h.state_eq, h.decoded, h.journal.recovers, rfl⟩

/-- The runtime that takes over what can be read, before it is saved. -/
def recovered (g : Governor) (o : GovernorOptions) (disk : Disk) (state : DurableState)
    (records : List AuditRecord) : Governor :=
  restored { g with options := o, store := (openedStore o disk).reading records }
    (recoverState o.storeOptions state records).1

/-- A directory that can be read is opened. -/
theorem completes_open_recovered {state : DurableState} {records : List AuditRecord}
    (hclosed : g.isOpen = false) (h : Accepts o) (hr : Readable o disk state records)
    (hnext : state.incarnation.value ≠ UInt64.ofNat u64Max)
    (hs : Savable (g.recovered o disk state records)) :
    Completes (g.open o policy) disk (.success, (g.recovered o disk state records).live)
      (withState disk (g.recovered o disk state records).stamped.state) := by
  have hlength : (makeStateFile (writeState state)).length = (writeState state).length + 56 := by
    have hframe : (makeStateFile (writeState state)).length =
        8 + (16 + ((writeState state).length + 32)) := length_makeFrame
    omega
  obtain ⟨report, hload⟩ := Store.completes_load (s := openedStore o disk) rfl hr.journal hr.state_eq
    (hlength ▸ hr.bound) hr.decoded
  refine completes_open_loaded hclosed h hload ?_ hs
  rw [(recoverState_frame _ _ _).2]
  exact hnext

end

/-! ## Publishers -/

/-- The governor after a registration. -/
def registering (g : Governor) (publisher : PublisherId) (incarnation : IncarnationId)
    (epoch : FabricEpoch) (tick : UInt64) : Governor :=
  ((g.observing tick).withPublishers ((g.observing tick).state.publishers ++
    [{ publisher, incarnation, epoch, registeredTick := (g.observing tick).clock.tick }])).marked

/-- A publisher that is not in the table is registered. -/
theorem completes_registerPublisher {publisher : PublisherId} {incarnation : IncarnationId}
    {epoch : FabricEpoch} {tick : UInt64} (hopen : g.isOpen = true) (haccepting : g.accepting = true)
    (hvalid : (publisher.valid && incarnation.valid) = true)
    (hepoch : epoch.valid = true ∧ epoch.value = g.state.epoch.value)
    (hnone : (g.observing tick).registration publisher = none)
    (hroom : (g.observing tick).state.publishers.length < kMaxPublishers)
    (hs : Savable (g.registering publisher incarnation epoch tick)) :
    Completes (g.registerPublisher publisher incarnation epoch tick) disk
      (.success, (g.registering publisher incarnation epoch tick).saved)
      (withState disk (g.registering publisher incarnation epoch tick).stamped.state) := by
  unfold registerPublisher
  rw [Bool.and_eq_true] at hvalid
  rw [if_neg (by simp [hopen]), if_neg (by simp [haccepting]), if_neg (by simp [hvalid]),
    if_neg (by simp [hepoch.1, hepoch.2])]
  dsimp only
  rw [hnone]
  dsimp only
  rw [if_neg (Nat.not_le.mpr hroom)]
  exact completes_persistState hs

/-- The governor after an adoption. -/
def adopting (g : Governor) (publisher : PublisherId) (incarnation : IncarnationId)
    (epoch : FabricEpoch) (tick : UInt64) : Governor :=
  (((g.observing tick).modifyRegistration publisher
    ((g.observing tick).admittedAs incarnation epoch)).flagPublisher publisher).marked

/-- A publisher under another incarnation is adopted. -/
theorem completes_adoptIncarnation {publisher : PublisherId} {incarnation : IncarnationId}
    {epoch : FabricEpoch} {tick : UInt64} {r : PublisherRegistration} (hopen : g.isOpen = true)
    (haccepting : g.accepting = true)
    (hvalid : (publisher.valid && incarnation.valid && epoch.valid) = true)
    (hepoch : epoch.value = g.state.epoch.value)
    (hr : (g.observing tick).registration publisher = some r) (hne : r.incarnation ≠ incarnation)
    (hs : Savable (g.adopting publisher incarnation epoch tick)) :
    Completes (g.adoptIncarnation publisher incarnation epoch tick) disk
      (.success, (g.adopting publisher incarnation epoch tick).saved)
      (withState disk (g.adopting publisher incarnation epoch tick).stamped.state) := by
  unfold adoptIncarnation
  rw [Bool.and_eq_true, Bool.and_eq_true] at hvalid
  rw [if_neg (by simp [hopen]), if_neg (by simp [haccepting]), if_neg (by simp [hvalid]),
    if_neg (by simp [hepoch])]
  dsimp only
  rw [hr]
  dsimp only
  rw [if_neg (by simp [hne])]
  exact completes_persistState hs

/-- The governor after a fence. -/
def fencing (g : Governor) (publisher : PublisherId) (reason : Code ReasonCode) : Governor :=
  (g.modifyRegistration publisher fun r => { r with fenced := true, fenceReason := reason }).marked

/-- A publisher of the table is fenced. -/
theorem completes_fencePublisher {publisher : PublisherId} {reason : Code ReasonCode}
    {r : PublisherRegistration} (hopen : g.isOpen = true) (hr : g.registration publisher = some r)
    (hs : Savable (g.fencing publisher reason)) :
    Completes (g.fencePublisher publisher reason) disk (.success, (g.fencing publisher reason).saved)
      (withState disk (g.fencing publisher reason).stamped.state) := by
  unfold fencePublisher
  rw [if_neg (by simp [hopen]), hr]
  exact completes_persistState hs

/-- The governor after a fenced publisher was admitted again. -/
def readmittingPublisher (g : Governor) (publisher : PublisherId) (incarnation : IncarnationId)
    (epoch : FabricEpoch) (tick : UInt64) : Governor :=
  ((g.observing tick).modifyRegistration publisher
    ((g.observing tick).admittedAs incarnation epoch)).marked

/-- A publisher that was fenced is registered again. -/
theorem completes_registerPublisher_fenced {publisher : PublisherId} {incarnation : IncarnationId}
    {epoch : FabricEpoch} {tick : UInt64} {r : PublisherRegistration} (hopen : g.isOpen = true)
    (haccepting : g.accepting = true) (hvalid : (publisher.valid && incarnation.valid) = true)
    (hepoch : epoch.valid = true ∧ epoch.value = g.state.epoch.value)
    (hr : (g.observing tick).registration publisher = some r) (hincarnation : r.incarnation = incarnation)
    (hfenced : r.fenced = true) (hs : Savable (g.readmittingPublisher publisher incarnation epoch tick)) :
    Completes (g.registerPublisher publisher incarnation epoch tick) disk
      (.success, (g.readmittingPublisher publisher incarnation epoch tick).saved)
      (withState disk (g.readmittingPublisher publisher incarnation epoch tick).stamped.state) := by
  unfold registerPublisher
  rw [Bool.and_eq_true] at hvalid
  rw [if_neg (by simp [hopen]), if_neg (by simp [haccepting]), if_neg (by simp [hvalid]),
    if_neg (by simp [hepoch.1, hepoch.2])]
  dsimp only
  rw [hr]
  dsimp only
  rw [if_pos hincarnation, if_pos hfenced]
  exact completes_persistState hs

/-! ## Time and epochs -/

theorem completes_advanceTick {delta : UInt64} {clock : LogicalClock} (hopen : g.isOpen = true)
    (hclock : g.clock.advance delta = some clock) :
    Completes (g.advanceTick delta) disk
      (.success, { g with clock, state := { g.state with tick := clock.tick }, stateDirty := true })
      disk := by
  unfold advanceTick
  rw [if_neg (by simp [hopen]), hclock]
  exact completes_pure

theorem completes_advanceEpoch {next : FabricEpoch} (hopen : g.isOpen = true)
    (hvalid : next.valid = true) (hnext : g.state.epoch.value < next.value)
    (hs : Savable (g.withEpoch next)) :
    Completes (g.advanceEpoch next) disk (.success, (g.withEpoch next).saved)
      (withState disk (g.withEpoch next).stamped.state) := by
  have hlater : ¬ ((!next.valid) = true ∨ next.value ≤ g.state.epoch.value) := by
    rw [not_or, UInt64.not_le]
    exact ⟨by simp [hvalid], hnext⟩
  unfold advanceEpoch
  rw [if_neg (by simp [hopen]), if_neg hlater]
  exact completes_persistState hs

/-! ## Publications -/

/-- A publication is accepted under its canonical digest if it is accepted. -/
theorem validate_digested {σ : Type} {K : SnapshotKind σ} {snapshot : σ} {c : Command}
    (hc : Publication K snapshot c) (h : (K.validate snapshot).isOk = true) :
    (K.validate (digested K snapshot)).isOk = true := by
  unfold digested
  split
  · cases hc with
    | capacity => exact SnapshotKind.validated_digest h
    | reservations => exact SnapshotKind.validated_digest h
    | admissions => exact SnapshotKind.validated_digest h
  · exact h

/-- A counter that is counted up changes. -/
theorem succ_ne (x : UInt64) : x + 1 ≠ x := by
  intro h
  have hvalue : (x + 1).toNat = x.toNat := congrArg UInt64.toNat h
  have hone : (1 : UInt64).toNat = 1 := rfl
  have hlt := x.toNat_lt
  rw [UInt64.toNat_add, hone] at hvalue
  omega

section

variable {σ : Type} {K : SnapshotKind σ} {snapshot : σ}

/-- The tests on a publication: those on its publisher, then those on its
slot. -/
def admits (K : SnapshotKind σ) (g : Governor) (copy : σ) : Except Status Accepted := do
  let r ← g.checkPublisher (K.header copy)
  g.checkSlot (g.slotState (K.header copy).domain K.kind) r (K.header copy)

/-- The generation a publication is to get. -/
def nextGeneration (K : SnapshotKind σ) (g : Governor) (copy : σ) : UInt64 :=
  (g.slotState (K.header copy).domain K.kind).generation + 1

/-- A publication that passes its tests as new, and can be saved. -/
structure Takes (K : SnapshotKind σ) (g : Governor) (snapshot : σ) : Prop where
  valid : (K.validate (digested K snapshot)).isOk = true
  admits : admits K g (digested K snapshot) = .ok ⟨nextGeneration K g (digested K snapshot), false⟩
  savable : Savable (g.published K (digested K snapshot))

/-- A publication whose tests are one computation. -/
theorem admits_of_check {copy : σ} {n : UInt64}
    (h : (match admits K g copy with
      | .ok a => a.generation == n && !a.duplicate
      | .error _ => false) = true) : admits K g copy = .ok ⟨n, false⟩ := by
  split at h
  next a ha =>
    rw [Bool.and_eq_true, beq_iff_eq, Bool.not_eq_true'] at h
    rw [ha, ← h.1, ← h.2]
  · cases h

/-- A publication that passes its tests as new is accepted. -/
theorem completes_ingest (h : Takes K g snapshot) :
    Completes (ingest K g snapshot) disk
      ({ status := .success, generation := nextGeneration K g (digested K snapshot) },
        (g.published K (digested K snapshot)).saved)
      (withState disk (g.published K (digested K snapshot)).stamped.state) := by
  obtain ⟨r, hp, hc⟩ := EarlyFold.bind_eq_ok.mp h.admits
  unfold ingest
  dsimp only
  rw [ingestLocked_eq, h.valid, hp]
  dsimp only
  rw [hc]
  dsimp only
  rw [if_neg (by simp), if_neg Bool.false_ne_true, if_neg Bool.false_ne_true]
  exact (completes_persistState h.savable).bind completes_pure

/-- A governor that has taken a publication back. -/
def takenBack (K : SnapshotKind σ) (g : Governor) (copy : σ) : Governor :=
  let h := K.header copy
  ((g.published K copy).stamped.modifySlot h.domain K.kind EvidenceSlot.cleared).restoreRollback
    (g.captureRollback h.domain K.kind h.provenance.publisher) h.domain K.kind h.provenance.publisher

/-- A publication that could not be saved is taken back. -/
theorem returns_ingest (h : Takes K g snapshot) :
    Returns (ingest K g snapshot) ⟨disk, [.fails 0]⟩
      ({ status := (g.published K (digested K snapshot)).unwritten },
        g.takenBack K (digested K snapshot)) ⟨disk, []⟩ := by
  obtain ⟨r, hp, hc⟩ := EarlyFold.bind_eq_ok.mp h.admits
  unfold ingest
  dsimp only
  rw [ingestLocked_eq, h.valid, hp]
  dsimp only
  rw [hc]
  dsimp only
  rw [if_neg (by simp), if_neg Bool.false_ne_true, if_neg Bool.false_ne_true]
  exact (returns_persistState h.savable).bind returns_pure

section

variable {copy : σ} {r : PublisherRegistration}

/-- Evidence that the slot names, with the content it names it by. -/
theorem admits_seen {state : EvidenceSlotState}
    (hstate : g.slotState (K.header copy).domain K.kind = state)
    (hp : g.checkPublisher (K.header copy) = .ok r) (hvalid : state.evidenceId.valid = true)
    (hid : state.evidenceId = (K.header copy).provenance.evidenceId)
    (hdigest : state.payloadDigest = (K.header copy).provenance.payloadDigest) :
    admits K g copy = .ok ⟨state.generation, true⟩ := by
  refine EarlyFold.bind_eq_ok.mpr ⟨r, hp, ?_⟩
  unfold checkSlot
  dsimp only
  rw [hstate, if_pos ⟨hvalid, hid⟩, if_pos hdigest]

theorem core_takenBack : (g.takenBack K copy).core = (g.unpublished K copy).core := by
  unfold takenBack unpublished
  dsimp only
  rw [core_restoreRollback, core_restoreRollback]
  rfl

/-- A publication that is taken back leaves its bookkeeping in a slot that was
new. -/
theorem slotState_takenBack (hK : K.Lawful)
    (hnone : g.findSlot (K.header copy).domain K.kind = none) :
    (g.takenBack K copy).slotState (K.header copy).domain K.kind =
      recorded (newSlot (K.header copy).domain K.kind).state (K.header copy) := by
  have hslots : (g.takenBack K copy).slots = (g.unpublished K copy).slots :=
    (core_congr (·.slots) (fun _ => rfl) core_takenBack :)
  rw [slotState_eq, slotOf_eq ((findSlot_congr hslots).trans (findSlot_unpublished hK)), unpublishing,
    hnone]
  have hstate : (publishing K g copy (g.slotOf (K.header copy).domain K.kind)).state =
      recorded (g.slotOf (K.header copy).domain K.kind).state (K.header copy) := hK.state_store _ _
  have hslot : g.slotOf (K.header copy).domain K.kind = newSlot (K.header copy).domain K.kind := by
    rw [slotOf, hnone]
    rfl
  rw [← hslot]
  exact hstate

/-- Its redelivery then counts as a duplicate. -/
theorem admits_takenBack (hK : K.Lawful)
    (hnone : g.findSlot (K.header copy).domain K.kind = none)
    (hp : (g.takenBack K copy).checkPublisher (K.header copy) = .ok r)
    (hvalid : (K.header copy).provenance.evidenceId.valid = true) :
    admits K (g.takenBack K copy) copy = .ok ⟨1, true⟩ :=
  admits_seen (slotState_takenBack hK hnone) hp hvalid rfl rfl

end

/-- A publication of evidence that the slot names is a duplicate. -/
theorem completes_ingest_duplicate {n : UInt64} (hv : (K.validate (digested K snapshot)).isOk = true)
    (hadmits : admits K g (digested K snapshot) = .ok ⟨n, true⟩) :
    Completes (ingest K g snapshot) disk
      ({ status := .success, generation := n, duplicate := true },
        g.ensureSlot (K.header (digested K snapshot)).domain K.kind) disk := by
  obtain ⟨r, hp, hc⟩ := EarlyFold.bind_eq_ok.mp hadmits
  unfold ingest
  dsimp only
  rw [ingestLocked_eq, hv, hp]
  dsimp only
  rw [hc]
  exact completes_pure

end

/-! ## Decisions -/

section

variable {order : MapOrder} {wall : UInt64} {request : EvaluationRequest} {record : AuditRecord}

/-- A governor that has put a record into the journal. -/
def journaled (g : Governor) (record : AuditRecord) : Governor :=
  { g with store := g.store.appending record }.withAudit record

theorem completes_appendJournal (h : g.store.HasRoom record) :
    Completes (g.appendJournal record) disk (.success, g.journaled record)
      (appended disk .journal (recordFrame record)) := by
  have htry : Completes (g.tryAppend record) disk
      (.success, { g with store := g.store.appending record })
      (appended disk .journal (recordFrame record)) :=
    (Store.completes_appendAudit h).bind completes_pure
  unfold appendJournal
  exact htry.bind completes_pure

/-- A governor that has heard of the tick of a request. -/
def ticking (g : Governor) (request : EvaluationRequest) : Governor :=
  { g with clock := g.clock.observe (max request.tick g.clock.tick) }

/-- The ruling of a request. -/
def ruling (order : MapOrder) (wall : UInt64) (g : Governor) (request : EvaluationRequest) : Ruling :=
  (g.ticking request).rule order request.domain (max request.tick g.clock.tick) wall

/-- A governor that has recorded a decision, and has yet to be saved. -/
def decided (order : MapOrder) (wall : UInt64) (g : Governor) (request : EvaluationRequest) :
    Governor :=
  ((g.ticking request).journaled (g.ruling order wall request).record).withRuling request.domain
    (g.ruling order wall request)

theorem length_auditSummary_le {result : EvaluationResult} :
    (auditSummary result).length ≤ kMaxAuditSummary := List.length_take_le _ _

/-- The summary of a ruling fits its record. -/
theorem summary_ruling_le : (g.ruling order wall request).record.summary.length ≤ kMaxAuditSummary :=
  length_auditSummary_le

theorem core_ticking : (g.ticking request).core = g.core := rfl

theorem core_decided : (g.decided order wall request).core =
    ((g.ticking request).withRuling request.domain (g.ruling order wall request)).core := rfl

/-- An evaluation gets through, while the next save is not yet due. -/
structure Answers (order : MapOrder) (wall : UInt64) (g : Governor) (request : EvaluationRequest) :
    Prop where
  isOpen : g.isOpen = true
  accepting : g.accepting = true
  domain : request.domain.valid = true
  table : (g.runtime request.domain).isNone = true → g.state.domains.length < kMaxDomainsState
  room : g.store.HasRoom (g.ruling order wall request).record
  unsaved : g.decisionsSinceSave + 1 < g.options.saveStateEveryDecisions

/-- A decision that is recorded and not yet saved. -/
theorem completes_evaluate (h : Answers order wall g request) :
    Completes (g.evaluate order wall request) disk
      (.ok (g.ruling order wall request).decision, g.decided order wall request)
      (appended disk .journal (recordFrame (g.ruling order wall request).record)) := by
  have hfull : ¬ (((g.ticking request).runtime request.domain).isNone = true ∧
      kMaxDomainsState ≤ (g.ticking request).state.domains.length) :=
    fun hfull => absurd (h.table hfull.1) (Nat.not_lt.mpr hfull.2)
  have happend : Completes
      ((g.ticking request).appendJournal (g.ruling order wall request).record) disk
      (.success, (g.ticking request).journaled (g.ruling order wall request).record)
      (appended disk .journal (recordFrame (g.ruling order wall request).record)) :=
    completes_appendJournal h.room
  have hpersist : Completes ((g.decided order wall request).persistState false)
      (appended disk .journal (recordFrame (g.ruling order wall request).record))
      (.success, g.decided order wall request)
      (appended disk .journal (recordFrame (g.ruling order wall request).record)) := by
    have hlazy' : (g.decided order wall request).decisionsSinceSave <
        (g.decided order wall request).options.saveStateEveryDecisions := h.unsaved
    have hopen' : (g.decided order wall request).isOpen = true := h.isOpen
    have hdirty : (g.decided order wall request).stateDirty = true := rfl
    unfold persistState
    rw [hopen', hdirty, if_neg (by simp), if_neg (by simp), if_pos (by simp [hlazy'])]
    exact completes_pure
  unfold evaluate evaluateLocked
  rw [if_neg (by simp [h.accepting]), if_neg (by simp [h.isOpen]), if_neg (by simp [h.domain])]
  dsimp only
  rw [if_neg Bool.false_ne_true]
  refine (if_neg hfull).symm ▸ happend.bind ?_
  dsimp only
  rw [if_neg (by decide)]
  exact hpersist.bind completes_pure

end

end Governor

/-! ## Steps -/

namespace System

variable {g g' : Governor} {disk disk' : Disk} {c : Command} {fates : List Fate} {reply : Reply}

theorem perform_of_returns {w : World FileName}
    (h : Returns (c.perform g) ⟨disk, fates⟩ (reply, g') w) :
    perform ⟨g, disk⟩ ⟨c, fates⟩ = (some reply, ⟨g', w.disk⟩) := by
  unfold Returns at h
  unfold perform
  rw [h]

theorem perform_of_completes (h : Completes (c.perform g) disk (reply, g') disk') :
    perform ⟨g, disk⟩ ⟨c, []⟩ = (some reply, ⟨g', disk'⟩) := perform_of_returns h

theorem step_of_perform {s s' : System} {call : Call} {r : Option Reply}
    (h : s.perform call = (r, s')) : s.step call = s' := congrArg Prod.snd h

theorem reply_of_perform {s s' : System} {call : Call} {r : Option Reply}
    (h : s.perform call = (r, s')) : Step.reply ⟨s, call⟩ = r := congrArg Prod.fst h

end System

end Oversub
