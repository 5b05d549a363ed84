import Oversub.Lib.Trace
import Oversub.Replay
import Oversub.Salvage
import Oversub.Runtime.Progress

/-!
# Oversub.Runtime.Retries

Appends to the journal of which any may fail, and leave a part of its frame
behind.  A record that was acknowledged comes back and is applied as long as
no append went through behind such a part: the store counts only the bytes of
the appends that went through, and cuts nothing off.
-/

namespace Oversub

open Crash Files Trace

/-! ## Appends -/

/-- A record to be appended, and the bytes that are left of its frame if the
write fails. -/
structure Attempt where
  record : AuditRecord
  fails : Option Nat := none

namespace Attempt

def fate (a : Attempt) : Fate :=
  match a.fails with
  | none => .completes
  | some kept => .fails kept

/-- What the write adds to the file. -/
def written (a : Attempt) : List UInt8 :=
  match a.fails with
  | none => recordFrame a.record
  | some kept => (recordFrame a.record).take kept

end Attempt

/-- A store, its directory, and the records it has acknowledged. -/
structure Log where
  store : Store
  disk : Disk
  acknowledged : List AuditRecord

namespace Log

/-- The bytes of the journal. -/
def file (l : Log) : List UInt8 := (l.disk .journal).getD []

/-- `append_audit`. -/
def append (l : Log) (a : Attempt) : Log :=
  match l.store.appendAudit a.record ⟨l.disk, [a.fate]⟩ with
  | (some (status, store), w) =>
      ⟨store, w.disk, if status.isOk then l.acknowledged ++ [a.record] else l.acknowledged⟩
  | (none, w) => { l with disk := w.disk }

end Log

/-- An append by some caller. -/
abbrev Appending := Transition Log Attempt

abbrev LogRun (l : Log) (ts : List Appending) (l' : Log) : Prop := Run Log.append l ts l'

namespace Appending

/-- The caller numbers records above those that were acknowledged, as the
governor does: a number is used again after a failure. -/
def Ordered (t : Appending) : Prop :=
  0 < t.label.record.number ∧ ∀ r ∈ t.before.acknowledged, r.number < t.label.record.number

/-- An append that gets as far as the file finds no more in it than the store
has counted, if it goes through, and stays within what the reader takes. -/
structure Clear (t : Appending) : Prop where
  counted : t.label.fails = none → t.before.file.length = t.before.store.journalBytes.toNat
  payload : (writeAuditRecord t.label.record).length ≤ t.before.store.options.maxStateBytes.toNat
  file : t.before.file.length + t.label.written.length ≤
    (t.before.store.options.maxJournalBytes + 1048576).toNat

/-- What holds of an append that is not refused. -/
def Safe (t : Appending) : Prop := t.before.store.HasRoom t.label.record → t.Clear

end Appending

namespace Log

variable {l : Log} {a : Attempt}

theorem append_refused (h : ¬ l.store.HasRoom a.record) : l.append a = l := by
  have hrefused : ∃ status : Status, status.isOk = false ∧
      l.store.appendAudit a.record = pure (status, l.store) := by
    unfold Store.appendAudit
    cases hopen : l.store.isOpen with
    | false => exact ⟨storeNotOpen, rfl, rfl⟩
    | true =>
        cases hframe : journalFrame a.record with
        | error status =>
            rw [journalFrame_error hframe]
            exact ⟨auditTooLong, rfl, rfl⟩
        | ok frame =>
            obtain ⟨hfits, rfl⟩ := journalFrame_eq_ok.mp hframe
            dsimp only
            by_cases hfull : l.store.options.maxJournalBytes <
                l.store.journalBytes + UInt64.ofNat (recordFrame a.record).length ∨
                  l.store.options.maxJournalRecords < l.store.journalRecords + 1
            · rw [if_pos hfull]
              exact ⟨_, rfl, rfl⟩
            · rw [not_or, UInt64.not_lt, UInt64.not_lt] at hfull
              exact absurd ⟨hopen, hfits, hfull.1, hfull.2⟩ h
  obtain ⟨status, hstatus, hpure⟩ := hrefused
  unfold append
  rw [hpure]
  show Log.mk l.store l.disk _ = l
  rw [if_neg (by simp [hstatus])]

theorem append_completed (h : l.store.HasRoom a.record) (hfails : a.fails = none) : l.append a =
    ⟨l.store.appending a.record, appended l.disk .journal (recordFrame a.record),
      l.acknowledged ++ [a.record]⟩ := by
  unfold append Attempt.fate
  rw [hfails, Store.appendAudit_of_room h]
  rfl

theorem append_failed {kept : Nat} (h : l.store.HasRoom a.record) (hfails : a.fails = some kept) : l.append a =
    { l with disk := appended l.disk .journal ((recordFrame a.record).take kept) } := by
  unfold append Attempt.fate
  rw [hfails, Store.appendAudit_of_room h]
  rfl

/-! ## What the journal keeps -/

/-- The journal begins with the frames of what was acknowledged, and the store
has counted these. -/
structure Kept (l : Log) : Prop where
  isOpen : l.store.isOpen = true
  file : ∃ tail, l.file = frames l.acknowledged ++ tail
  fits : SummariesFit l.acknowledged
  payload : ∀ r ∈ l.acknowledged, (writeAuditRecord r).length ≤ l.store.options.maxStateBytes.toNat
  bytes : l.store.journalBytes.toNat = (frames l.acknowledged).length
  records : l.store.journalRecords.toNat = l.acknowledged.length
  bound : l.acknowledged.length ≤ l.store.options.maxJournalRecords.toNat
  rising : Rising 0 l.acknowledged
  read : l.file.length ≤ (l.store.options.maxJournalBytes + 1048576).toNat

theorem file_appended {store : Store} {bytes : List UInt8} {acknowledged : List AuditRecord} :
    file ⟨store, appended l.disk .journal bytes, acknowledged⟩ = l.file ++ bytes := by
  have hself : appended l.disk .journal bytes .journal = some (l.file ++ bytes) := appended_self
  exact congrArg (Option.getD · []) hself

/-- **An append** keeps what was acknowledged. -/
theorem Kept.append (h : l.Kept) (hordered : Appending.Ordered ⟨l, a⟩) (hsafe : Appending.Safe ⟨l, a⟩) :
    (l.append a).Kept := by
  by_cases hroom : l.store.HasRoom a.record
  · obtain ⟨hcounted, hpayload, hread⟩ := hsafe hroom
    obtain ⟨tail, htail⟩ := h.file
    cases hfails : a.fails with
    | some kept =>
        rw [append_failed hroom hfails]
        refine ⟨h.isOpen, ⟨tail ++ (recordFrame a.record).take kept, ?_⟩, h.fits, h.payload, h.bytes, h.records,
          h.bound, h.rising, ?_⟩
        · rw [file_appended, htail, List.append_assoc]
        · rw [file_appended, List.length_append]
          rwa [Attempt.written, hfails] at hread
    | none =>
        have hempty : tail = [] := by
          have hlength := hcounted hfails
          have hbytes := h.bytes
          rw [htail, List.length_append] at hlength
          refine List.length_eq_zero_iff.mp ?_
          dsimp only at hlength
          omega
        rw [hempty, List.append_nil] at htail
        have hframes : frames (l.acknowledged ++ [a.record]) = frames l.acknowledged ++ recordFrame a.record := by
          rw [frames_append, frames_singleton]
        have hcount := h.records
        have hshort := @length_le_frames l.acknowledged
        have hlimit := (l.store.options.maxJournalBytes + 1048576).toNat_lt
        rw [Attempt.written, hfails] at hread
        dsimp only at hread hpayload
        rw [htail] at hread
        have hbytes : (l.store.appending a.record).journalBytes.toNat =
            (frames (l.acknowledged ++ [a.record])).length := by
          rw [hframes, List.length_append, Store.appending]
          dsimp only
          rw [UInt64.toNat_add, UInt64.toNat_ofNat', h.bytes]
          omega
        have hrecords : (l.store.appending a.record).journalRecords.toNat = l.acknowledged.length + 1 := by
          rw [Store.appending]
          dsimp only
          rw [UInt64.toNat_add, hcount]
          have hone : (1 : UInt64).toNat = 1 := rfl
          omega
        rw [append_completed hroom hfails]
        refine ⟨h.isOpen, ⟨[], ?_⟩, ?_, ?_, hbytes, ?_, ?_, ?_, ?_⟩
        · rw [file_appended, htail, hframes, List.append_nil]
        · exact List.forall_mem_append.mpr ⟨h.fits, List.forall_mem_singleton.mpr hroom.fits⟩
        · exact List.forall_mem_append.mpr ⟨h.payload, List.forall_mem_singleton.mpr hpayload⟩
        · rw [hrecords, List.length_append, List.length_singleton]
        · have hmax := UInt64.le_iff_toNat_le.mp hroom.records
          rw [List.length_append, List.length_singleton, ← hrecords]
          exact hmax
        · obtain ⟨hpos, hlast⟩ := hordered
          refine ⟨List.forall_mem_append.mpr ⟨h.rising.1, List.forall_mem_singleton.mpr hpos⟩, ?_⟩
          refine List.pairwise_append.mpr ⟨h.rising.2, List.pairwise_singleton _ _, fun r hr r' hr' => ?_⟩
          rw [List.mem_singleton.mp hr']
          exact hlast r hr
        · rw [file_appended, List.length_append, htail]
          exact hread
  · rwa [append_refused hroom]

/-- **Appends in a row** do. -/
theorem Kept.run {l' : Log} {ts : List Appending} (h : l.Kept) (hrun : LogRun l ts l')
    (hordered : ∀ t ∈ ts, t.Ordered) (hsafe : ∀ t ∈ ts, t.Safe) : l'.Kept := by
  induction hrun with
  | nil => exact h
  | snoc _ a ih =>
      rw [List.forall_mem_append, List.forall_mem_singleton] at hordered hsafe
      exact (ih hordered.1 hsafe.1).append hordered.2 hsafe.2

end Log

/-! ## Recovery -/

/-- A replay of some records comes to one of them and applies it. -/
def Applies (state : DurableState) (records : List AuditRecord) (record : AuditRecord) : Prop :=
  ∃ before after, records = before ++ record :: after ∧
    (replayRecord (before.foldl replayRecord { state }) record).state =
      (before.foldl replayRecord { state }).state.applying record

/-- The row of a journal goes on behind some frames. -/
theorem IntactRow.append {maxStateBytes : UInt64} {records records' : List AuditRecord} {row row' : List UInt8}
    (h : IntactRow maxStateBytes records row) (h' : IntactRow maxStateBytes records' row') :
    IntactRow maxStateBytes (records ++ records') (row ++ row') := by
  induction h with
  | nil => exact h'
  | cons hframe _ ih =>
      rw [List.append_assoc]
      exact .cons hframe ih

theorem replayRecord_at {keys : List OversubscriptionDomainId} {record : AuditRecord}
    {before after : List AuditRecord} {r : Replay} (hrising : Rising r.previousId.toNat (before ++ record :: after))
    (h : Houses keys r.state (before ++ record :: after)) :
    (replayRecord (before.foldl replayRecord r) record).state =
      (before.foldl replayRecord r).state.applying record := by
  induction before generalizing r with
  | nil =>
      rw [List.foldl_nil, replayRecord_eq (Ledger.rising_cons.mp hrising).1 h.room]
  | cons first before ih =>
      obtain ⟨hid, hrest⟩ := Ledger.rising_cons.mp hrising
      rw [List.foldl_cons, replayRecord_eq hid h.room]
      exact ih hrest h.applying

namespace Log

variable {l l' : Log} {ts : List Appending} {state : DurableState} {keys : List OversubscriptionDomainId}

/-- A store that has read a journal. -/
structure Begins (l : Log) : Prop where
  isOpen : l.store.isOpen = true
  reads : l.store.Reads l.disk l.acknowledged
  counted : l.store = l.store.reading l.acknowledged
  rising : Rising 0 l.acknowledged

theorem Begins.kept (h : l.Begins) : l.Kept := by
  obtain ⟨hopen, ⟨hframed, hwithin, hread⟩, hcounted, hrising⟩ := h
  have hlimit := (l.store.options.maxJournalBytes + 1048576).toNat_lt
  have hshort := @length_le_frames l.acknowledged
  refine ⟨hopen, ⟨[], hframed.bytes⟩, hframed.fits, hwithin.bytes, ?_, ?_, ?_, hrising, ?_⟩
  · rw [hcounted]
    exact UInt64.toNat_ofNat_of_lt' (Nat.lt_of_le_of_lt hread hlimit)
  · rw [hcounted]
    exact UInt64.toNat_ofNat_of_lt' (Nat.lt_of_le_of_lt (by omega) hlimit)
  · rw [← Nat.zero_add l.acknowledged.length]
    exact hwithin.count
  · rw [file, hframed.bytes, List.append_nil]
    exact hread

/-- Loading the journal returns what was acknowledged, and a replay applies
it. -/
def Restores (l : Log) (state : DurableState) : Prop :=
  ∃ loaded report s' disk', Completes l.store.loadJournal l.disk (.ok (loaded, report), s') disk' ∧
    l.acknowledged <+: loaded ∧ ∀ record ∈ l.acknowledged, Applies state loaded record

theorem Kept.loads (h : l.Kept) : ∃ extra report s' disk',
    Completes l.store.loadJournal l.disk (.ok (l.acknowledged ++ extra, report), s') disk' := by
  obtain ⟨tail, htail⟩ := h.file
  cases hjournal : l.disk .journal with
  | none =>
      have hempty : frames l.acknowledged ++ tail = [] := by
        rw [← htail, Log.file, hjournal]
        rfl
      rw [List.append_eq_nil_iff, frames_eq_nil] at hempty
      have hreads : l.store.Reads l.disk [] := by
        refine ⟨⟨?_, nofun, .inl rfl⟩, ⟨nofun, Nat.zero_le _⟩, Nat.zero_le _⟩
        rw [hjournal]
        rfl
      obtain ⟨report, hloads⟩ := Store.completes_loadJournal h.isOpen hreads
      rw [hempty.1]
      exact ⟨[], report, _, _, hloads⟩
  | some bytes =>
      have hbytes : bytes = frames l.acknowledged ++ tail := by
        rw [← htail, Log.file, hjournal]
        rfl
      obtain ⟨records, rest, ⟨row, hrow, hintact⟩, hends⟩ := @exists_leading l.store.options.maxStateBytes tail
      have hleading : Leading l.store.options.maxStateBytes bytes (l.acknowledged ++ records) rest := by
        refine ⟨⟨frames l.acknowledged ++ row, ?_, (intactRow_frames h.fits h.payload).append hintact⟩, hends⟩
        rw [hbytes, hrow, List.append_assoc]
      have hread : bytes.length ≤ (l.store.options.maxJournalBytes + 1048576).toNat := by
        have hfile := h.read
        rw [Log.file, hjournal] at hfile
        exact hfile
      have hloads := Store.loadsAs_leading h.isOpen hjournal hread hleading
      obtain ⟨loaded, report, s', disk', hcompletes⟩ := hloads.completes
      obtain ⟨hscan, hsalvaged⟩ := hloads.returned [] _ _ _ _ hcompletes
      have hloaded : loaded = l.acknowledged ++
          records.take (l.store.options.maxJournalRecords.toNat + 1 - l.acknowledged.length) := by
        have hbound := h.bound
        rw [hscan.records, hsalvaged.taken, List.nil_append, List.length_nil, List.take_append,
          List.take_of_length_le (by omega), Nat.sub_zero]
      rw [hloaded] at hcompletes
      exact ⟨_, report, s', disk', hcompletes⟩

/-- A store on a directory without a journal. -/
def fresh : Log := ⟨storeWithin 508, fun _ => none, []⟩

theorem begins_fresh : fresh.Begins := by
  refine ⟨rfl, ⟨⟨rfl, nofun, .inl rfl⟩, ⟨nofun, Nat.zero_le _⟩, Nat.zero_le _⟩, rfl, Ledger.rising_nil⟩

theorem houses_older : Houses [⟨0⟩] {} [olderRecord] := by
  refine ⟨.nil, nofun, ?_, by decide⟩
  rw [List.forall_mem_singleton]
  exact List.mem_singleton.mpr rfl

theorem hasRoom_older : fresh.store.HasRoom olderRecord := by
  refine ⟨rfl, by decide, ?_, by decide⟩
  rw [length_olderRecord]
  decide

def whole : Attempt := { record := olderRecord }

/-- The write leaves one byte. -/
def cut : Attempt := { record := olderRecord, fails := some 1 }

theorem append_whole {l : Log} (h : l.store.HasRoom olderRecord) : l.append whole =
    ⟨l.store.appending olderRecord, appended l.disk .journal (recordFrame olderRecord),
      l.acknowledged ++ [olderRecord]⟩ := append_completed h rfl

/-- The record is acknowledged on the second try. -/
def retried : Log := (fresh.append cut).append whole

theorem append_cut : fresh.append cut = ⟨storeWithin 508, appended (fun _ => none) .journal [0x4F], []⟩ := by
  have hfailed := @append_failed fresh cut 1 hasRoom_older rfl
  have htake : (recordFrame cut.record).take 1 = [0x4F] := rfl
  rw [htake] at hfailed
  exact hfailed

theorem retried_eq : retried = ⟨(storeWithin 508).appending olderRecord,
    appended (appended (fun _ => none) .journal [0x4F]) .journal (recordFrame olderRecord), [olderRecord]⟩ := by
  rw [retried, append_cut]
  exact append_whole hasRoom_older

/-- The reader stops at the byte that was left. -/
theorem scan_retried {options : StoreOptions} :
    (scanJournal options (0x4F :: recordFrame olderRecord)).records = [] := by
  have hlong : ¬ (0x4F :: recordFrame olderRecord).length < kJournalHeaderBytes + 32 := by
    rw [List.length_cons, length_olderRecord]
    decide
  have hmagic : (0x4F :: recordFrame olderRecord).take 4 ≠ kJournalMagic := by
    have htake : (0x4F :: recordFrame olderRecord).take 4 = [0x4F, 0x4F, 0x53, 0x4A] := rfl
    rw [htake]
    decide
  have hscan : scanFrame options.maxStateBytes (0x4F :: recordFrame olderRecord) = .damaged 0 := by
    rw [scanFrame, if_neg hlong, if_pos hmagic]
  rw [scanJournal, scanFrames, if_neg (List.cons_ne_nil _ _), hscan]

theorem loads_retried {s s' : Store} {disk disk' : Disk} {loaded : List AuditRecord} {report : LoadReport}
    (hopen : s.isOpen = true) (hjournal : disk .journal = some (0x4F :: recordFrame olderRecord))
    (hloads : Completes s.loadJournal disk (.ok (loaded, report), s') disk') : loaded = [] := by
  have hmeets := @Store.meets_loadJournal_scan s ⟨disk, []⟩ _ hopen hjournal
  rw [(hmeets.returned hloads loaded report rfl).records, scan_retried]

end Log

end Oversub
