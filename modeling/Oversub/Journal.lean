import Oversub.Recovery

/-!
# Oversub.Journal

The journal as a row of frames, and what its recovery makes of it.

A frame is read back behind any other, and a frame that was cut off is
damage.  So the records that come back from a journal are a prefix of those
that were written to it, and all of them where the bounds of the reader are
those of the writer.
-/

namespace Oversub

open Wire Crash Files

/-! ## Frames -/

/-- The frame of a record whose summary fits. -/
def recordFrame (record : AuditRecord) : List UInt8 := makeJournalFrame (writeAuditRecord record)

/-- The frames of some records, one after the other. -/
def frames (records : List AuditRecord) : List UInt8 := records.flatMap recordFrame

section

variable {record : AuditRecord} {records : List AuditRecord} {bytes : List UInt8}

theorem length_recordFrame : (recordFrame record).length = 52 + (writeAuditRecord record).length := by
  have hlength : (recordFrame record).length =
      kJournalMagic.length + (16 + ((writeAuditRecord record).length + 32)) := length_makeFrame
  have hmagic : kJournalMagic.length = 4 := rfl
  omega

theorem length_recordFrame_le (h : record.summary.length ≤ kMaxAuditSummary) :
    (recordFrame record).length ≤ 510 := by
  have hmax : kMaxAuditSummary = 256 := rfl
  rw [length_recordFrame, length_writeAuditRecord h]
  omega

@[simp] theorem frames_nil : frames [] = [] := rfl

@[simp] theorem frames_cons : frames (record :: records) = recordFrame record ++ frames records :=
  List.flatMap_cons

theorem frames_append {records' : List AuditRecord} :
    frames (records ++ records') = frames records ++ frames records' := List.flatMap_append

theorem frames_singleton : frames [record] = recordFrame record := by
  rw [frames_cons, frames_nil, List.append_nil]

theorem journalFrame_eq_ok :
    journalFrame record = .ok bytes ↔
      record.summary.length ≤ kMaxAuditSummary ∧ bytes = recordFrame record := by
  rw [journalFrame, EarlyFold.bind_eq_ok]
  constructor
  · intro ⟨payload, hpayload, h⟩
    obtain ⟨hfits, rfl⟩ := serializeAuditRecord_eq_ok.mp hpayload
    exact ⟨hfits, (Except.ok.inj h).symm⟩
  · intro ⟨hfits, h⟩
    exact ⟨_, serializeAuditRecord_eq_ok.mpr ⟨hfits, rfl⟩, congrArg Except.ok h.symm⟩

theorem journalFrames_eq_ok :
    journalFrames records = .ok bytes ↔ SummariesFit records ∧ bytes = frames records := by
  induction records generalizing bytes with
  | nil => simp [journalFrames, SummariesFit, eq_comm]
  | cons record records ih =>
      rw [journalFrames, EarlyFold.bind_eq_ok, SummariesFit, List.forall_mem_cons, frames_cons]
      constructor
      · rintro ⟨frame, hframe, h⟩
        obtain ⟨hfits, rfl⟩ := journalFrame_eq_ok.mp hframe
        obtain ⟨rest, hrest, h⟩ := EarlyFold.bind_eq_ok.mp h
        obtain ⟨hall, rfl⟩ := ih.mp hrest
        exact ⟨⟨hfits, hall⟩, (Except.ok.inj h).symm⟩
      · rintro ⟨⟨hfits, hall⟩, h⟩
        refine ⟨_, journalFrame_eq_ok.mpr ⟨hfits, rfl⟩, ?_⟩
        rw [ih.mpr ⟨hall, rfl⟩, h]
        rfl

end

/-! ## Compaction -/

/-- The records a compaction has room for, behind `n` bytes. -/
def fitting (maxBytes : Nat) : Nat → List AuditRecord → List AuditRecord
  | _, [] => []
  | n, record :: records =>
      if maxBytes < n + (recordFrame record).length then []
      else record :: fitting maxBytes (n + (recordFrame record).length) records

section

variable {maxBytes n : Nat} {records : List AuditRecord}

theorem fitting_prefix : fitting maxBytes n records <+: records := by
  induction records generalizing n with
  | nil => exact List.prefix_rfl
  | cons record records ih =>
      rw [fitting]
      split
      · exact List.nil_prefix
      · exact List.prefix_cons_inj record |>.mpr ih

theorem length_fitting (h : n ≤ maxBytes) :
    n + (frames (fitting maxBytes n records)).length ≤ maxBytes := by
  induction records generalizing n with
  | nil => simpa [fitting] using h
  | cons record records ih =>
      rw [fitting]
      split
      · simpa using h
      next hroom =>
        have hrest := ih (Nat.not_lt.mp hroom)
        rw [frames_cons, List.length_append]
        omega

/-- Where there is room for all, all are kept. -/
theorem fitting_eq (h : n + (frames records).length ≤ maxBytes) : fitting maxBytes n records = records := by
  induction records generalizing n with
  | nil => rfl
  | cons record records ih =>
      rw [frames_cons, List.length_append] at h
      rw [fitting, if_neg (by omega), ih (by omega)]

theorem compactFrames_of_ok {max : UInt64} {rebuilt : List UInt8} {kept : Nat} {r : List UInt8 × Nat}
    (h : compactFrames max records rebuilt kept = .ok r) :
    SummariesFit (fitting max.toNat rebuilt.length records) ∧
      r = (rebuilt ++ frames (fitting max.toNat rebuilt.length records),
        kept + (fitting max.toNat rebuilt.length records).length) := by
  induction records generalizing rebuilt kept with
  | nil =>
      have hr := Except.ok.inj h
      simp [fitting, SummariesFit, ← hr]
  | cons record records ih =>
      rw [compactFrames, EarlyFold.bind_eq_ok] at h
      obtain ⟨frame, hframe, h⟩ := h
      obtain ⟨hfits, rfl⟩ := journalFrame_eq_ok.mp hframe
      rw [fitting]
      split at h
      next hfull =>
        have hr := Except.ok.inj h
        simp [hfull, SummariesFit, ← hr]
      next hroom =>
        obtain ⟨hall, hr⟩ := ih h
        rw [List.length_append] at hall hr
        rw [if_neg hroom, hr, frames_cons, List.append_assoc, List.length_cons]
        refine ⟨List.forall_mem_cons.mpr ⟨hfits, hall⟩, ?_⟩
        rw [Nat.add_assoc, Nat.add_comm 1]

/-- A compaction of records whose summaries fit is done. -/
theorem compactFrames_isOk {max : UInt64} {rebuilt : List UInt8} {kept : Nat}
    (h : SummariesFit records) : ∃ r, compactFrames max records rebuilt kept = .ok r := by
  induction records generalizing rebuilt kept with
  | nil => exact ⟨_, rfl⟩
  | cons record records ih =>
      obtain ⟨hfits, hall⟩ := List.forall_mem_cons.mp h
      have hframe : journalFrame record = .ok (recordFrame record) := journalFrame_eq_ok.mpr ⟨hfits, rfl⟩
      rw [compactFrames, hframe]
      by_cases hfull : max.toNat < rebuilt.length + (recordFrame record).length
      · exact ⟨_, if_pos hfull⟩
      · obtain ⟨r, hr⟩ := @ih (rebuilt ++ recordFrame record) (kept + 1) hall
        exact ⟨r, (if_neg hfull).trans hr⟩

theorem journalFrame_error {status : Status} (h : journalFrame record = .error status) :
    status = auditTooLong := by
  rw [journalFrame, EarlyFold.bind_eq_error] at h
  rcases h with h | ⟨payload, _, h⟩
  · exact serializeAuditRecord_error h
  · cases h

theorem compactFrames_error {max : UInt64} {rebuilt : List UInt8} {kept : Nat} {status : Status}
    (h : compactFrames max records rebuilt kept = .error status) : status = auditTooLong := by
  induction records generalizing rebuilt kept with
  | nil => cases h
  | cons record records ih =>
      rw [compactFrames, EarlyFold.bind_eq_error] at h
      rcases h with h | ⟨frame, _, h⟩
      · exact journalFrame_error h
      · split at h
        · cases h
        · exact ih h

end

/-! ## One frame -/

section

variable {record : AuditRecord} {rest payload : List UInt8} {maxStateBytes : UInt64}

/-- A frame whose payload is within the bound is read back. -/
theorem scanFrame_recordFrame (h : record.summary.length ≤ kMaxAuditSummary)
    (hlen : (recordFrame record ++ rest).length < 2 ^ 64) :
    scanFrame maxStateBytes (recordFrame record ++ rest) =
      if (writeAuditRecord record).length ≤ maxStateBytes.toNat then
        .intact record (recordFrame record).length
      else .damaged kJournalHeaderBytes := by
  have hpayload : (writeAuditRecord record).length < 2 ^ 64 := by
    rw [List.length_append, length_recordFrame] at hlen
    omega
  have hcount : (UInt64.ofNat (writeAuditRecord record).length).toNat =
      (writeAuditRecord record).length := toNat_count hpayload
  have hmagic : (recordFrame record ++ rest).take 4 = kJournalMagic := rfl
  have hdrop : (recordFrame record ++ rest).drop 4 =
      (leBytes32 kJournalFormatVersion ++
        (leBytes32 0 ++ leBytes64 (UInt64.ofNat (writeAuditRecord record).length))) ++
          (writeAuditRecord record ++ ((sha256 (writeAuditRecord record)).bytes ++ rest)) := by
    have hshape : recordFrame record ++ rest = kJournalMagic ++ ((leBytes32 kJournalFormatVersion ++
        (leBytes32 0 ++ leBytes64 (UInt64.ofNat (writeAuditRecord record).length))) ++
          (writeAuditRecord record ++ ((sha256 (writeAuditRecord record)).bytes ++ rest))) := by
      simp only [recordFrame, makeJournalFrame, makeFrame, List.append_assoc]
    rw [hshape]
    rfl
  have hlong : ¬ (recordFrame record ++ rest).length < kJournalHeaderBytes + 32 := by
    rw [List.length_append, length_recordFrame, kJournalHeaderBytes]
    omega
  have hroom : ¬ UInt64.ofNat (writeAuditRecord record ++
      ((sha256 (writeAuditRecord record)).bytes ++ rest)).length <
        UInt64.ofNat (writeAuditRecord record).length + 32 := by
    have h32 : (32 : UInt64).toNat = 32 := rfl
    rw [List.length_append, length_recordFrame] at hlen
    rw [UInt64.lt_iff_toNat_lt, UInt64.toNat_add, hcount, h32, UInt64.toNat_ofNat',
      List.length_append, List.length_append, Digest.length_bytes]
    omega
  have hdigest : (((sha256 (writeAuditRecord record)).bytes ++ rest).take 32) =
      (sha256 (writeAuditRecord record)).bytes := List.take_left' (Digest.length_bytes _)
  unfold scanFrame
  rw [if_neg hlong, if_neg (not_not.mpr hmagic), hdrop,
    reads_frameHeader kJournalFormatVersion (UInt64.ofNat (writeAuditRecord record).length)]
  dsimp only
  by_cases hbound : (writeAuditRecord record).length ≤ maxStateBytes.toNat
  · have hversion : ¬ (kJournalFormatVersion ≠ kJournalFormatVersion ∨
        maxStateBytes < UInt64.ofNat (writeAuditRecord record).length) := by
      rw [not_or, not_not, UInt64.not_lt, UInt64.le_iff_toNat_le, hcount]
      exact ⟨rfl, hbound⟩
    have hsame : ¬ (sha256 (writeAuditRecord record)).bytes ≠
        (sha256 (writeAuditRecord record)).bytes := fun hne => hne rfl
    have hread : deserializeAuditRecord (writeAuditRecord record) = .ok record :=
      (deserializeAuditRecord_eq_ok h).mpr rfl
    have hsize : kJournalHeaderBytes + (writeAuditRecord record).length + 32 =
        (recordFrame record).length := by
      rw [length_recordFrame, kJournalHeaderBytes]
      omega
    rw [if_pos hbound, if_neg hversion, if_neg hroom, hcount, List.take_left, List.drop_left,
      hdigest, if_neg hsame, hread]
    dsimp only
    rw [hsize]
  · have hversion : kJournalFormatVersion ≠ kJournalFormatVersion ∨
        maxStateBytes < UInt64.ofNat (writeAuditRecord record).length := by
      rw [UInt64.lt_iff_toNat_lt, hcount]
      exact .inr (Nat.not_le.mp hbound)
    rw [if_neg hbound, if_pos hversion]

/-- Bytes that no reader takes for a frame. -/
def Torn (bytes : List UInt8) : Prop := ∀ maxStateBytes, ∃ n, scanFrame maxStateBytes bytes = .damaged n

/-- A frame that was cut off is damage. -/
theorem torn_take {k : Nat} (hfits : record.summary.length ≤ kMaxAuditSummary)
    (hk : k < (recordFrame record).length) : Torn ((recordFrame record).take k) := by
  intro maxStateBytes
  have hle := length_recordFrame_le hfits
  have hlength : ((recordFrame record).take k).length = k := List.length_take_of_le (by omega)
  by_cases hshort : k < kJournalHeaderBytes + 32
  · unfold scanFrame
    rw [hlength, if_pos hshort]
    exact ⟨0, rfl⟩
  · have hheader : kJournalHeaderBytes = 20 := rfl
    have hshape : (recordFrame record).take k = kJournalMagic ++ ((leBytes32 kJournalFormatVersion ++
        (leBytes32 0 ++ leBytes64 (UInt64.ofNat (writeAuditRecord record).length))) ++
          (writeAuditRecord record ++ (sha256 (writeAuditRecord record)).bytes).take (k - 20)) := by
      rw [recordFrame, makeJournalFrame, makeFrame, List.take_append,
        List.take_of_length_le (l := kJournalMagic), List.take_append, List.take_of_length_le]
      · simp only [List.length_append, length_leBytes32, length_leBytes64, kJournalMagic,
          List.length_cons, List.length_nil, Nat.sub_sub]
      · simp only [List.length_append, length_leBytes32, length_leBytes64, kJournalMagic,
          List.length_cons, List.length_nil]
        omega
      · simp only [kJournalMagic, List.length_cons, List.length_nil]
        omega
    have hmagic : ((recordFrame record).take k).take 4 = kJournalMagic := by
      rw [hshape]
      rfl
    have hdrop : ((recordFrame record).take k).drop 4 = (leBytes32 kJournalFormatVersion ++
        (leBytes32 0 ++ leBytes64 (UInt64.ofNat (writeAuditRecord record).length))) ++
          (writeAuditRecord record ++ (sha256 (writeAuditRecord record)).bytes).take (k - 20) := by
      rw [hshape]
      rfl
    have hcount : (UInt64.ofNat (writeAuditRecord record).length).toNat =
        (writeAuditRecord record).length := by
      refine toNat_count ?_
      rw [length_recordFrame] at hle
      omega
    have hcut : UInt64.ofNat ((writeAuditRecord record ++
        (sha256 (writeAuditRecord record)).bytes).take (k - 20)).length <
          UInt64.ofNat (writeAuditRecord record).length + 32 := by
      have h32 : (32 : UInt64).toNat = 32 := rfl
      rw [length_recordFrame] at hle hk
      rw [UInt64.lt_iff_toNat_lt, UInt64.toNat_add, hcount, h32, UInt64.toNat_ofNat',
        List.length_take, List.length_append, Digest.length_bytes]
      omega
    unfold scanFrame
    rw [hlength, if_neg hshort, if_neg (not_not.mpr hmagic), hdrop,
      reads_frameHeader kJournalFormatVersion (UInt64.ofNat (writeAuditRecord record).length)]
    dsimp only
    by_cases hbad : kJournalFormatVersion ≠ kJournalFormatVersion ∨
        maxStateBytes < UInt64.ofNat (writeAuditRecord record).length
    · rw [if_pos hbad]
      exact ⟨_, rfl⟩
    · rw [if_neg hbad, if_pos hcut]
      exact ⟨_, rfl⟩

end

/-! ## The records that come back -/

/-- The records a reader keeps of those in a journal, after the first `n`. -/
def readable (options : StoreOptions) : Nat → List AuditRecord → List AuditRecord
  | _, [] => []
  | n, record :: records =>
      if (writeAuditRecord record).length ≤ options.maxStateBytes.toNat then
        if options.maxJournalRecords.toNat < n + 1 then [record]
        else record :: readable options (n + 1) records
      else []

section

variable {options : StoreOptions} {n : Nat} {records : List AuditRecord} {tail : List UInt8}

theorem readable_prefix : readable options n records <+: records := by
  induction records generalizing n with
  | nil => exact List.prefix_rfl
  | cons record records ih =>
      unfold readable
      split
      · split
        · exact List.prefix_append [record] records
        · exact List.prefix_cons_inj record |>.mpr ih
      · exact List.nil_prefix

/-- The bounds of a reader that has read `n` records let all of these
through. -/
structure WithinBounds (options : StoreOptions) (n : Nat) (records : List AuditRecord) : Prop where
  bytes : ∀ r ∈ records, (writeAuditRecord r).length ≤ options.maxStateBytes.toNat
  count : n + records.length ≤ options.maxJournalRecords.toNat

theorem WithinBounds.cons {record : AuditRecord} (h : WithinBounds options n (record :: records)) :
    (writeAuditRecord record).length ≤ options.maxStateBytes.toNat ∧
      ¬ options.maxJournalRecords.toNat < n + 1 ∧ WithinBounds options (n + 1) records := by
  obtain ⟨hbytes, hcount⟩ := h
  rw [List.forall_mem_cons] at hbytes
  rw [List.length_cons] at hcount
  exact ⟨hbytes.1, by omega, hbytes.2, by omega⟩

/-- Where the bounds of the reader are those of the writer, every record comes
back. -/
theorem readable_eq (h : WithinBounds options n records) : readable options n records = records := by
  induction records generalizing n with
  | nil => rfl
  | cons record records ih =>
      obtain ⟨hbytes, hcount, hrest⟩ := h.cons
      rw [readable, if_pos hbytes, if_neg hcount, ih hrest]

/-- What the recovery loop ends with on a row of frames, and what may be left
of one more. -/
structure Scanned (options : StoreOptions) (records : List AuditRecord) (tail : List UInt8)
    (offset : Nat) (before : List AuditRecord) (scan : JournalScan) : Prop where
  records_eq : scan.records = before ++ readable options before.length records
  intact : scan.damaged = false →
    tail = [] ∧ readable options before.length records = records ∧
      scan.recovered = offset + (frames records).length
  whole : tail = [] → WithinBounds options before.length records → scan.damaged = false

theorem scanned_frames (htail : tail = [] ∨ Torn tail) {fuel offset : Nat}
    {before : List AuditRecord} (hfits : SummariesFit records)
    (hlen : (frames records ++ tail).length < 2 ^ 64) (hfuel : (frames records ++ tail).length < fuel) :
    Scanned options records tail offset before
      (scanFrames options fuel (frames records ++ tail) offset before) := by
  induction records generalizing fuel offset before with
  | nil =>
      cases fuel with
      | zero => exact absurd hfuel (Nat.not_lt_zero _)
      | succ fuel =>
          rw [frames_nil, List.nil_append, scanFrames]
          split
          next hempty =>
            exact ⟨(List.append_nil _).symm, fun _ => ⟨hempty, rfl, rfl⟩, fun _ _ => rfl⟩
          next hne =>
            obtain ⟨n, hn⟩ := htail.resolve_left hne options.maxStateBytes
            rw [hn]
            exact ⟨(List.append_nil _).symm, nofun, fun hempty => absurd hempty hne⟩
  | cons record records ih =>
      obtain ⟨hrecord, hrecords⟩ := List.forall_mem_cons.mp hfits
      rw [frames_cons, List.append_assoc] at hlen hfuel ⊢
      have hpos : 0 < (recordFrame record).length := by
        rw [length_recordFrame]
        omega
      cases fuel with
      | zero => exact absurd hfuel (Nat.not_lt_zero _)
      | succ fuel =>
          have hne : recordFrame record ++ (frames records ++ tail) ≠ [] := by
            intro h
            rw [List.append_eq_nil_iff] at h
            rw [h.1] at hpos
            exact absurd hpos (Nat.lt_irrefl _)
          rw [scanFrames, if_neg hne, scanFrame_recordFrame hrecord hlen]
          by_cases hbytes : (writeAuditRecord record).length ≤ options.maxStateBytes.toNat
          · rw [if_pos hbytes]
            dsimp only
            rw [List.length_append, List.length_singleton, List.drop_left]
            by_cases hcount : options.maxJournalRecords.toNat < before.length + 1
            · rw [if_pos hcount]
              refine ⟨?_, nofun, fun _ hwithin => absurd hcount hwithin.cons.2.1⟩
              rw [readable, if_pos hbytes, if_pos hcount]
            · rw [if_neg hcount]
              rw [List.length_append] at hlen hfuel
              have hrest : Scanned options records tail (offset + (recordFrame record).length)
                  (before ++ [record]) (scanFrames options fuel (frames records ++ tail) _ _) :=
                ih hrecords (by omega) (by omega)
              have hreadable : readable options before.length (record :: records) =
                  record :: readable options (before ++ [record]).length records := by
                rw [readable, if_pos hbytes, if_neg hcount, List.length_append, List.length_singleton]
              refine ⟨?_, fun h => ?_, fun hempty hwithin => ?_⟩
              · rw [hrest.records_eq, hreadable, List.append_assoc, List.singleton_append]
              · obtain ⟨htail, hall, hrecovered⟩ := hrest.intact h
                refine ⟨htail, ?_, ?_⟩
                · rw [hreadable, hall]
                · rw [hrecovered, frames_cons, List.length_append, Nat.add_assoc]
              · refine hrest.whole hempty ?_
                rw [List.length_append, List.length_singleton]
                exact hwithin.cons.2.2
          · rw [if_neg hbytes]
            refine ⟨?_, nofun, fun _ hwithin => absurd hwithin.cons.1 hbytes⟩
            rw [readable, if_neg hbytes, List.append_nil]

/-- **A journal read back**: a prefix of the records in it, and damage unless
it is all of them.  A journal within the bounds of its reader is intact. -/
theorem scanned_journal (options : StoreOptions) (htail : tail = [] ∨ Torn tail) (hfits : SummariesFit records)
    (hlen : (frames records ++ tail).length < 2 ^ 64) :
    Scanned options records tail 0 [] (scanJournal options (frames records ++ tail)) :=
  scanned_frames htail hfits hlen (Nat.lt_succ_self _)

end

/-! ## The journal of a directory -/

/-- The journal is a row of frames, and what may be left of one more. -/
structure Framed (disk : Disk) (records : List AuditRecord) (tail : List UInt8) : Prop where
  bytes : (disk .journal).getD [] = frames records ++ tail
  fits : SummariesFit records
  torn : tail = [] ∨ Torn tail

section

variable {options : StoreOptions} {disk disk' : Disk} {records records' : List AuditRecord}
  {record : AuditRecord} {tail : List UInt8}

theorem frames_eq_nil : frames records = [] ↔ records = [] := by
  cases records with
  | nil => exact ⟨fun _ => rfl, fun _ => rfl⟩
  | cons record records =>
      refine ⟨fun h => ?_, nofun⟩
      have hlength := congrArg List.length h
      rw [frames_cons, List.length_append, length_recordFrame, List.length_nil] at hlength
      omega

theorem SummariesFit.of_prefix (h : SummariesFit records) (hle : records' <+: records) :
    SummariesFit records' := fun r hr => h r (hle.subset hr)

theorem Framed.congr (h : Framed disk records tail) (hdisk : disk' .journal = disk .journal) :
    Framed disk' records tail := ⟨hdisk ▸ h.bytes, h.fits, h.torn⟩

/-- **Recovery of a journal**: the records that can be read, and a journal of
these alone. -/
theorem Recovers.framed (h : Recovers options disk records' disk') (hf : Framed disk records tail) :
    records' = readable options 0 records ∧ Framed disk' records' [] := by
  have hbytes := hf.bytes
  cases h with
  | absent hnone =>
      rw [hnone, Option.getD_none, eq_comm, List.append_eq_nil_iff, frames_eq_nil] at hbytes
      rw [hbytes.1]
      refine ⟨rfl, ?_, nofun, .inl rfl⟩
      rw [hnone]
      rfl
  | @intact bytes hjournal hlen hscan =>
      rw [hjournal, Option.getD_some] at hbytes
      rw [hbytes] at hlen hscan ⊢
      have hscanned := scanned_journal options hf.torn hf.fits hlen
      obtain ⟨htail, hall, -⟩ := hscanned.intact hscan
      have hrecords : (scanJournal options (frames records ++ tail)).records = records :=
        hscanned.records_eq.trans hall
      rw [hrecords]
      refine ⟨hall.symm, ?_, hf.fits, .inl rfl⟩
      rw [hjournal, Option.getD_some, hbytes, htail]
  | @rewritten bytes rebuilt hjournal hlen hscan hrebuilt =>
      rw [hjournal, Option.getD_some] at hbytes
      rw [hbytes] at hlen hrebuilt ⊢
      have hscanned := scanned_journal options hf.torn hf.fits hlen
      obtain ⟨hfits, rfl⟩ := journalFrames_eq_ok.mp hrebuilt
      refine ⟨hscanned.records_eq, ?_, hfits, .inl rfl⟩
      rw [replaced_self, Option.getD_some, List.append_nil]

/-- A frame at the end of a journal. -/
theorem Framed.append (h : Framed disk records []) (hfits : record.summary.length ≤ kMaxAuditSummary) :
    Framed (appended disk .journal (recordFrame record)) (records ++ [record]) [] := by
  refine ⟨?_, ?_, .inl rfl⟩
  · rw [appended_self, Option.getD_some, h.bytes, frames_append, frames_singleton]
    simp only [List.append_nil]
  · intro r hr
    rcases List.mem_append.mp hr with hr | hr
    · exact h.fits r hr
    · rw [List.mem_singleton.mp hr]
      exact hfits

/-- A frame that was cut off, or was not. -/
theorem Framed.append_take (h : Framed disk records [])
    (hfits : record.summary.length ≤ kMaxAuditSummary) (k : Nat) :
    (∃ tail, Framed (appended disk .journal ((recordFrame record).take k)) records tail) ∨
      Framed (appended disk .journal ((recordFrame record).take k)) (records ++ [record]) [] := by
  by_cases hk : k < (recordFrame record).length
  · refine .inl ⟨_, ?_, h.fits, .inr (torn_take hfits hk)⟩
    rw [appended_self, Option.getD_some, h.bytes, List.append_nil]
  · rw [List.take_of_length_le (Nat.not_lt.mp hk)]
    exact .inr (h.append hfits)

/-- A journal that was replaced. -/
theorem framed_replaced (hfits : SummariesFit records) :
    Framed (replaced disk .journal (frames records)) records [] := by
  refine ⟨?_, hfits, .inl rfl⟩
  rw [replaced_self, Option.getD_some, List.append_nil]

end

end Oversub
