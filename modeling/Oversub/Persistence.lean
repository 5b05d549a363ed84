import Oversub.Lib.Files
import Oversub.Codec

/-!
# Oversub.Persistence

The store (`persistence.hpp`, `persistence.cpp`): a state file that is only
ever replaced as a whole, and a journal of audit records that is appended to,
recovered up to its first damaged frame, and compacted.

One directory is modelled.  Sizes and offsets are 64-bit words where the
source compares them with its options; a completed write is durable.
-/

namespace Oversub

open Wire Crash Files

/-! ## The directory -/

inductive FileName where
  | state | journal
  deriving DecidableEq

abbrev Disk := FileName → Option (List UInt8)

abbrev Storage := Prog (World FileName)

/-- `std::filesystem::path(directory) / name`. -/
def filePath (directory : String) (name : FileName) : String :=
  (if directory.endsWith "/" then directory else directory ++ "/") ++
    match name with
    | .state => "state.bin"
    | .journal => "journal.bin"

-- `io_error` of the source
def ioFailure (reason : ReasonCode) (detail : String) : Status := .failure .ioError reason detail

def readFileBounded (path : String) (name : FileName) (maxBytes : UInt64) :
    Storage (Except Status (List UInt8)) := do
  match ← content name with
  | none => pure (.error (.failure .notFound .none ("file not found: " ++ path)))
  | some bytes =>
      if maxBytes.toNat < bytes.length then
        pure (.error (.failure .outOfRange .persistenceTooLarge
          ("file exceeds the configured bound: " ++ path)))
      else if ← attempt then pure (.ok bytes)
      else pure (.error (ioFailure .none ("cannot open file: " ++ path)))

def writeFileAtomic (path : String) (name : FileName) (bytes : List UInt8) : Storage Status := do
  if ← replace name bytes then pure .success
  else pure (ioFailure .none ("failed to write temporary file: " ++ path ++ ".tmp"))

def appendFile (path : String) (name : FileName) (bytes : List UInt8) : Storage Status := do
  if ← append name bytes then pure .success
  else pure (ioFailure .none ("append failed: " ++ path))

/-! ## Framing -/

def kStateMagic : List UInt8 := [0x4F, 0x53, 0x47, 0x56, 0x53, 0x54, 0x41, 0x31]
def kJournalMagic : List UInt8 := [0x4F, 0x53, 0x4A, 0x31]
def kStateFormatVersion : UInt32 := 1
def kStateHeaderBytes : Nat := 8 + 4 + 4 + 8
def kJournalHeaderBytes : Nat := 4 + 4 + 4 + 8

/-- Magic, version, reserved word, length, payload and the payload's digest. -/
def makeFrame (magic : List UInt8) (version : UInt32) (payload : List UInt8) : List UInt8 :=
  magic ++ ((leBytes32 version ++ (leBytes32 0 ++ leBytes64 (UInt64.ofNat payload.length))) ++
    (payload ++ (sha256 payload).bytes))

def makeStateFile : List UInt8 → List UInt8 := makeFrame kStateMagic kStateFormatVersion

def makeJournalFrame : List UInt8 → List UInt8 := makeFrame kJournalMagic kJournalFormatVersion

/-- Version and length, behind a magic. -/
def readFrameHeader : Reader (UInt32 × UInt64) := do
  let version ← Reader.u32
  let _ ← Reader.u32
  let length ← Reader.u64
  pure (version, length)

/-! ## Options and reports -/

structure StoreOptions where
  directory : String := ""
  maxStateBytes : UInt64 := 32 * 1024 * 1024
  maxJournalBytes : UInt64 := 64 * 1024 * 1024
  maxJournalRecords : UInt64 := 200000
  maxAuditRecords : UInt32 := 65536
  deriving DecidableEq, Inhabited

inductive LoadOutcome where
  | fresh | loaded | recovered
  deriving DecidableEq

structure LoadReport where
  outcome : LoadOutcome := .fresh
  journalRecords : UInt64 := 0
  journalBytesRecovered : UInt64 := 0
  discardedTailBytes : UInt64 := 0
  reason : ReasonCode := .none
  detail : String := ""
  deriving DecidableEq

structure Store where
  options : StoreOptions := {}
  isOpen : Bool := false
  journalBytes : UInt64 := 0
  journalRecords : UInt64 := 0
  deriving DecidableEq, Inhabited

def storeNotOpen : Status := invalid .persistenceNotInitialized "store is not open"

/-! ## The state file -/

/-- A check that ends with a status when it fails. -/
def ensure (c : Prop) [Decidable c] (status : Status) : Except Status Unit :=
  if c then .ok () else .error status

@[simp] theorem ensure_eq_ok {c : Prop} [Decidable c] {status : Status} {u : Unit} :
    ensure c status = .ok u ↔ c := by
  unfold ensure
  split <;> simp_all

/-- A state whose policy is accepted and is the one it was saved with. -/
def checkState (decoded : DurableState) : Except Status DurableState := do
  let status := validatePolicy decoded.policy
  let _ ← ensure (status.isOk = true)
    (corrupt .persistenceCorrupt ("durable policy is invalid: " ++ status.toString))
  let _ ← ensure (decoded.policyDigest = decoded.policy.digest)
    (.failure .integrityFailure .policyDigestMismatch
      "durable policy digest does not match the serialized policy")
  pure decoded

/-- The state of a state file, before the journal is replayed over it. -/
def decodeStateFile (options : StoreOptions) (bytes : List UInt8) : Except Status DurableState := do
  let _ ← ensure (kStateHeaderBytes + 32 ≤ bytes.length)
    (corrupt .persistenceTruncated "state file is shorter than its header")
  let _ ← ensure (bytes.take 8 = kStateMagic)
    (corrupt .persistenceCorrupt "state file magic mismatch")
  match readFrameHeader (bytes.drop 8) with
  | none => .error (corrupt .persistenceCorrupt "state file header truncated")
  | some ((format, length), rest) =>
      let _ ← ensure (format = kStateFormatVersion)
        (.failure .unsupported .persistenceVersionUnsupported
          ("unsupported state file format version " ++ toString format.toNat))
      let _ ← ensure (length ≤ options.maxStateBytes)
        (.failure .outOfRange .persistenceTooLarge "state payload exceeds max_state_bytes")
      let _ ← ensure (UInt64.ofNat bytes.length = UInt64.ofNat kStateHeaderBytes + length + 32)
        (corrupt .persistenceTruncated "state file length does not match its header")
      let payload := rest.take length.toNat
      let _ ← ensure ((sha256 payload).bytes = bytes.drop (bytes.length - 32))
        (.failure .integrityFailure .persistenceIntegrityFailure "state payload digest mismatch")
      let decoded ← deserializeState payload
      checkState decoded

/-! ## The journal -/

/-- The frame at the front of a journal: an intact record and the frame's
size, or how far into a damaged frame the reader has come. -/
inductive FrameScan where
  | intact (record : AuditRecord) (size : Nat)
  | damaged (consumed : Nat)

def scanFrame (maxStateBytes : UInt64) (bytes : List UInt8) : FrameScan :=
  if bytes.length < kJournalHeaderBytes + 32 then .damaged 0
  else if bytes.take 4 ≠ kJournalMagic then .damaged 0
  else
    match readFrameHeader (bytes.drop 4) with
    | none => .damaged 4
    | some ((version, length), rest) =>
        if version ≠ kJournalFormatVersion ∨ maxStateBytes < length then
          .damaged kJournalHeaderBytes
        else if UInt64.ofNat rest.length < length + 32 then .damaged kJournalHeaderBytes
        else
          let payload := rest.take length.toNat
          if (sha256 payload).bytes ≠ (rest.drop length.toNat).take 32 then
            .damaged kJournalHeaderBytes
          else
            match deserializeAuditRecord payload with
            | .error _ => .damaged kJournalHeaderBytes
            | .ok record => .intact record (kJournalHeaderBytes + length.toNat + 32)

/-- What the recovery loop ends with. -/
structure JournalScan where
  records : List AuditRecord
  recovered : Nat     -- the final `offset`
  damagedFrom : Nat
  damaged : Bool

/-- The loop of `load_journal`, from `offset` on; every frame has at least one
byte, so as many steps as there are bytes always suffice. -/
def scanFrames (options : StoreOptions) : Nat → List UInt8 → Nat → List AuditRecord → JournalScan
  | 0, _, offset, records => ⟨records, offset, offset, false⟩
  | fuel + 1, bytes, offset, records =>
      if bytes = [] then ⟨records, offset, offset, false⟩
      else
        match scanFrame options.maxStateBytes bytes with
        | .damaged consumed => ⟨records, offset + consumed, offset, true⟩
        | .intact record size =>
            let records := records ++ [record]
            -- one record over the bound is kept, and the journal counts as damaged
            if options.maxJournalRecords.toNat < records.length then
              ⟨records, offset + size, offset, true⟩
            else scanFrames options fuel (bytes.drop size) (offset + size) records

def scanJournal (options : StoreOptions) (bytes : List UInt8) : JournalScan :=
  scanFrames options (bytes.length + 1) bytes 0 []

def journalFrame (record : AuditRecord) : Except Status (List UInt8) := do
  let payload ← serializeAuditRecord record
  pure (makeJournalFrame payload)

/-- The frames of some records, one after the other. -/
def journalFrames : List AuditRecord → Except Status (List UInt8)
  | [] => .ok []
  | record :: records => do
      let frame ← journalFrame record
      let rest ← journalFrames records
      pure (frame ++ rest)

/-- The loop of `compact_journal`: it ends at the first frame that does not
fit. -/
def compactFrames (maxJournalBytes : UInt64) :
    List AuditRecord → List UInt8 → Nat → Except Status (List UInt8 × Nat)
  | [], rebuilt, kept => .ok (rebuilt, kept)
  | record :: records, rebuilt, kept => do
      let frame ← journalFrame record
      if maxJournalBytes.toNat < rebuilt.length + frame.length then pure (rebuilt, kept)
      else compactFrames maxJournalBytes records (rebuilt ++ frame) (kept + 1)

/-! ## Recovery -/

/-- The history of the state file before the oldest record of the journal,
then the journal, as much as the bound keeps of the newest. -/
def mergeAudit (options : StoreOptions) (audit records : List AuditRecord) : List AuditRecord :=
  let oldest := ((records.head?.map fun r => r.id.value).getD 0)
  let merged := audit.filter (·.id.value < oldest) ++ records
  merged.drop (merged.length - options.maxAuditRecords.toNat)

/-- The state file with the journal replayed over it. -/
def recoverState (options : StoreOptions) (decoded : DurableState) (records : List AuditRecord) :
    DurableState × ReplayReport :=
  let r : DurableState × ReplayReport :=
    if records = [] then (decoded, {})
    else
      rebuildFromAudit { decoded with audit := mergeAudit options decoded.audit records } records
  ({ r.1 with
      evidence := r.1.evidence.map fun e => { e with revalidationRequired := true }
      journalRecords := UInt64.ofNat records.length }, r.2)

namespace Store

def path (s : Store) (name : FileName) : String := filePath s.options.directory name

def close (s : Store) : Store := { s with isOpen := false, journalBytes := 0, journalRecords := 0 }

end Store

def Store.open (s : Store) (options : StoreOptions) : Storage (Status × Store) :=
  if options.directory = "" then
    pure (invalid .persistenceNotInitialized "store directory is empty", s)
  else if options.maxStateBytes = 0 ∨ options.maxJournalBytes = 0 ∨
      options.maxJournalRecords = 0 then
    pure (invalid .limitExceeded "store bounds must be non-zero", s)
  else if options.maxAuditRecords = 0 ∨ kMaxAuditRecords < options.maxAuditRecords.toNat then
    pure (invalid .limitExceeded "max_audit_records out of bound", s)
  else do
    if ← attempt then
      let journal ← content .journal
      pure (.success,
        { options
          isOpen := true
          journalBytes := UInt64.ofNat (journal.getD []).length
          journalRecords := 0 })
    else
      pure (ioFailure .none ("cannot create store directory: " ++ options.directory),
        { s with options })

namespace Store

def save (s : Store) (state : DurableState) : Storage Status :=
  if !s.isOpen then pure storeNotOpen
  else
    match serializeState state with
    | .error status => pure status
    | .ok payload =>
        if s.options.maxStateBytes.toNat < payload.length then
          pure (.failure .outOfRange .persistenceTooLarge
            "serialized state exceeds max_state_bytes")
        else writeFileAtomic (s.path .state) .state (makeStateFile payload)

def appendAudit (s : Store) (record : AuditRecord) : Storage (Status × Store) :=
  if !s.isOpen then pure (storeNotOpen, s)
  else
    match journalFrame record with
    | .error status => pure (status, s)
    | .ok frame =>
        if s.options.maxJournalBytes < s.journalBytes + UInt64.ofNat frame.length ∨
            s.options.maxJournalRecords < s.journalRecords + 1 then
          pure (.failure .overflow .persistenceTooLarge
            "journal bound reached; compaction required", s)
        else do
          let status ← appendFile (s.path .journal) .journal frame
          if status.isOk then
            pure (.success,
              { s with
                journalBytes := s.journalBytes + UInt64.ofNat frame.length
                journalRecords := s.journalRecords + 1 })
          else pure (status, s)

/-- The records of the journal; a damaged tail is cut off the file. -/
def loadJournal (s : Store) : Storage (Except Status (List AuditRecord × LoadReport) × Store) :=
  if !s.isOpen then pure (.error storeNotOpen, s)
  else do
    let s := { s with journalBytes := 0, journalRecords := 0 }
    match ← readFileBounded (s.path .journal) .journal (s.options.maxJournalBytes + 1048576) with
    | .error status =>
        if status.code = .notFound then pure (.ok ([], {}), s) else pure (.error status, s)
    | .ok bytes =>
        let scan := scanJournal s.options bytes
        let report : LoadReport := {
          journalRecords := UInt64.ofNat scan.records.length
          journalBytesRecovered := UInt64.ofNat scan.recovered }
        if scan.damaged then
          match journalFrames scan.records with
          | .error status => pure (.error status, s)
          | .ok rebuilt =>
              let status ← writeFileAtomic (s.path .journal) .journal rebuilt
              if status.isOk then
                pure (.ok (scan.records,
                    { report with
                      outcome := .recovered
                      discardedTailBytes := UInt64.ofNat (bytes.length - scan.damagedFrom)
                      reason := .persistenceJournalPartial
                      detail := "journal tail was incomplete or corrupt; " ++
                        "the valid prefix was retained" }),
                  { s with
                    journalBytes := UInt64.ofNat rebuilt.length
                    journalRecords := UInt64.ofNat scan.records.length })
              else pure (.error status, s)
        else
          pure (.ok (scan.records,
              { report with outcome := if scan.records = [] then .fresh else .loaded }),
            { s with
              journalBytes := UInt64.ofNat scan.recovered
              journalRecords := UInt64.ofNat scan.records.length })

/-- The durable state, or none where there is no state file. -/
def load (s : Store) : Storage (Except Status (Option DurableState × LoadReport) × Store) :=
  if !s.isOpen then pure (.error storeNotOpen, s)
  else do
    match ← readFileBounded (s.path .state) .state
      (s.options.maxStateBytes + UInt64.ofNat kStateHeaderBytes + 32) with
    | .error status =>
        if status.code = .notFound then
          pure (.ok (none,
            { reason := .persistenceNotInitialized, detail := "no durable state present" }), s)
        else pure (.error status, s)
    | .ok bytes =>
        match decodeStateFile s.options bytes with
        | .error status => pure (.error status, s)
        | .ok decoded =>
            match ← s.loadJournal with
            | (.error status, s) => pure (.error status, s)
            | (.ok (records, report), s) =>
                let report := { report with
                  journalRecords := UInt64.ofNat records.length
                  outcome := if report.outcome = .fresh then .loaded else report.outcome }
                let (state, replay) := recoverState s.options decoded records
                let report := if 0 < replay.recordsSkipped then
                    { report with
                      detail := report.detail ++ " some audit records were skipped during replay"
                      reason := replay.lastReason }
                  else report
                pure (.ok (some state, report), s)

/-- Rewrites the journal with the newest `keep` records. -/
def compactJournal (s : Store) (records : List AuditRecord) (keep : UInt64) :
    Storage (Status × Store) :=
  if !s.isOpen then pure (storeNotOpen, s)
  else
    let keep := min keep s.options.maxJournalRecords
    match compactFrames s.options.maxJournalBytes
      (records.drop (records.length - keep.toNat)) [] 0 with
    | .error status => pure (status, s)
    | .ok (rebuilt, kept) => do
        let status ← writeFileAtomic (s.path .journal) .journal rebuilt
        if status.isOk then
          pure (.success,
            { s with
              journalBytes := UInt64.ofNat rebuilt.length
              journalRecords := UInt64.ofNat kept })
        else pure (status, s)

end Store

end Oversub
