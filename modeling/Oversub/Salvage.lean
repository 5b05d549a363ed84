import Oversub.Compacted
import Oversub.Lib.Takes

/-!
# Oversub.Salvage

What loading a journal makes of an arbitrary file.  A journal begins with a row
of intact frames, as long as it goes, and what comes after that is its tail.
Loading returns the records of the row, and cuts the tail off.
-/

namespace Oversub

open Wire Wire.Reader Crash Files

/-! ## Records in bytes -/

theorem takes_digest : readDigest.Takes fun _ n => n = 32 := by
  unfold readDigest
  exact takes_raw.bind fun _ _ hn => takes_pure (by simp [hn])

/-- A record that is read fits its frame, and is read off as many bytes as it is
written in. -/
theorem takes_auditRecord : readAuditRecord.Takes fun record n =>
    record.summary.length ≤ kMaxAuditSummary ∧ n = 202 + record.summary.length := by
  unfold readAuditRecord
  refine takes_u64_bind fun id => takes_u64_bind fun tick => takes_u64_bind fun wallMillis => ?_
  refine takes_u64_bind fun incarnation => takes_u64_bind fun epoch => takes_u64_bind fun domain => ?_
  refine takes_u64_bind fun domainGeneration => takes_u64_bind fun policyGeneration => ?_
  refine takes_u32_bind fun rawOutcome => takes_u32_bind fun effectiveOutcome => ?_
  refine takes_u32_bind fun reason => takes_u32_bind fun bindingConstraint => ?_
  refine takes_u64_bind fun decision => takes_digest.bind fun decisionDigest _ hdecision => ?_
  refine takes_digest.bind fun inputDigest _ hinput => takes_boolean_bind fun authorized => ?_
  refine takes_u64_bind fun authorizedIncrement => takes_boolean_bind fun fenced => ?_
  refine takes_u32_bind fun confirmations => takes_u64_bind fun lastEscalationTick => ?_
  refine takes_u64_bind fun ceilingTotal => takes_u64_bind fun committedTotal => ?_
  refine takes_u64_bind fun overage => takes_string.bind fun summary _ hsummary => takes_pure ?_
  dsimp only
  rw [hdecision, hinput, hsummary.2]
  simp only [hsummary.1, ← Nat.add_assoc, Nat.reduceAdd, Nat.add_zero, and_self]

theorem takes_frameHeader : readFrameHeader.Takes fun _ n => n = 16 := by
  unfold readFrameHeader
  exact takes_u32_bind fun _ => takes_u32_bind fun _ => takes_u64_bind fun _ => takes_pure rfl

/-- What is read as a whole is read off all of it. -/
theorem Takes.of_whole {α : Type} {r : Reader α} {Q : α → Nat → Prop} {bytes : List UInt8} {a : α}
    (h : r.Takes Q) (hread : r bytes = some (a, [])) : r.Reads bytes a ∧ Q a bytes.length := by
  obtain ⟨front, hbytes, hreads, hsize⟩ := h _ _ _ hread
  rw [List.append_nil] at hbytes
  subst hbytes
  exact ⟨hreads, hsize⟩

section

variable {record record' : AuditRecord} {bytes frame frame' rest rest' payload : List UInt8} {maxStateBytes : UInt64}
  {size : Nat}

theorem deserializeAuditRecord_read (h : deserializeAuditRecord payload = .ok record) :
    readAuditRecord payload = some (record, []) := by
  unfold deserializeAuditRecord Decoder.whole Decoder.ofReader at h
  cases hread : readAuditRecord payload with
  | none => simp [hread] at h
  | some p =>
      obtain ⟨a, rest⟩ := p
      cases rest with
      | nil => simpa [hread] using h
      | cons b rest => simp [hread] at h

/-- A record that is read back is written in as many bytes. -/
theorem deserializeAuditRecord_fits (h : deserializeAuditRecord payload = .ok record) :
    record.summary.length ≤ kMaxAuditSummary ∧ (writeAuditRecord record).length = payload.length := by
  have hsize := (Takes.of_whole takes_auditRecord (deserializeAuditRecord_read h)).2
  exact ⟨hsize.1, (length_writeAuditRecord hsize.1).trans hsize.2.symm⟩

/-! ## Intact frames -/

/-- One intact frame: the magic, the version, the length of a payload within the
bound, that payload, its digest; and a record reads from the payload. -/
def IntactFrame (maxStateBytes : UInt64) (record : AuditRecord) (frame : List UInt8) : Prop :=
  ∃ header length payload, frame = kJournalMagic ++ (header ++ (payload ++ (sha256 payload).bytes)) ∧
    readFrameHeader.Reads header (kJournalFormatVersion, length) ∧ payload.length = length.toNat ∧
    length ≤ maxStateBytes ∧ deserializeAuditRecord payload = .ok record

/-- An intact frame at the front is found. -/
theorem scanFrame_of_intact (h : IntactFrame maxStateBytes record frame) (hlen : (frame ++ rest).length < 2 ^ 64) :
    scanFrame maxStateBytes (frame ++ rest) = .intact record frame.length := by
  obtain ⟨header, length, payload, hframe, hheader, hpayload, hle, hrecord⟩ := h
  have h32 : (32 : UInt64).toNat = 32 := rfl
  have hmagic4 : kJournalMagic.length = 4 := rfl
  have h16 : header.length = 16 := by
    have hwhole := hheader []
    rw [List.append_nil] at hwhole
    exact (Takes.of_whole takes_frameHeader hwhole).2
  have hsize : frame.length = kJournalHeaderBytes + length.toNat + 32 := by
    simp only [hframe, List.length_append, Digest.length_bytes, hmagic4, h16, hpayload, kJournalHeaderBytes]
    omega
  have hshape : frame ++ rest = kJournalMagic ++ (header ++ (payload ++ ((sha256 payload).bytes ++ rest))) := by
    simp only [hframe, List.append_assoc]
  rw [List.length_append, hsize, kJournalHeaderBytes] at hlen
  have hlong : ¬ (frame ++ rest).length < kJournalHeaderBytes + 32 := by
    rw [List.length_append, hsize]
    omega
  have hmagic : (frame ++ rest).take 4 = kJournalMagic := by
    rw [hshape, List.take_left' hmagic4]
  have hdrop : (frame ++ rest).drop 4 = header ++ (payload ++ ((sha256 payload).bytes ++ rest)) := by
    rw [hshape, List.drop_left' hmagic4]
  have hversion : ¬ (kJournalFormatVersion ≠ kJournalFormatVersion ∨ maxStateBytes < length) := by
    simpa using hle
  have hroom : ¬ UInt64.ofNat (payload ++ ((sha256 payload).bytes ++ rest)).length < length + 32 := by
    rw [UInt64.lt_iff_toNat_lt, UInt64.toNat_add, UInt64.toNat_ofNat', h32, List.length_append, List.length_append,
      Digest.length_bytes, hpayload]
    omega
  have hdigest : ¬ (sha256 payload).bytes ≠ ((sha256 payload).bytes ++ rest).take 32 := by
    rw [List.take_left' (Digest.length_bytes _)]
    simp
  unfold scanFrame
  rw [if_neg hlong, if_neg (not_not.mpr hmagic), hdrop, hheader]
  dsimp only
  rw [if_neg hversion, if_neg hroom, List.take_left' hpayload, List.drop_left' hpayload, if_neg hdigest, hrecord,
    hsize]

/-- **The test of a frame** finds the intact frame at the front, if there is
one. -/
theorem scanFrame_eq_intact (hlen : bytes.length < 2 ^ 64) :
    scanFrame maxStateBytes bytes = .intact record size ↔
      ∃ frame rest, bytes = frame ++ rest ∧ frame.length = size ∧ IntactFrame maxStateBytes record frame := by
  have h32 : (32 : UInt64).toNat = 32 := rfl
  have hmagic4 : kJournalMagic.length = 4 := rfl
  constructor
  · intro h
    unfold scanFrame at h
    split at h
    · cases h
    split at h
    · cases h
    next hmagic =>
      split at h
      · cases h
      next version length tail hheader =>
        split at h
        · cases h
        next hversion =>
          split at h
          · cases h
          dsimp only at h
          split at h
          · cases h
          next hdigest =>
            split at h
            · cases h
            next hpayload =>
              cases h
              simp only [ne_eq, not_not, not_or, UInt64.not_lt] at hmagic hversion hdigest
              obtain ⟨header, hdrop, hreads, h16⟩ := takes_frameHeader _ _ _ hheader
              rw [hversion.1] at hreads
              have hroom := congrArg List.length hdigest
              rw [Digest.length_bytes, List.length_take, List.length_drop] at hroom
              have hlength : (tail.take length.toNat).length = length.toNat := List.length_take_of_le (by omega)
              refine ⟨kJournalMagic ++ (header ++ (tail.take length.toNat ++
                (sha256 (tail.take length.toNat)).bytes)), (tail.drop length.toNat).drop 32, ?_, ?_,
                header, length, tail.take length.toNat, rfl, hreads, hlength, hversion.2, hpayload⟩
              · rw [hdigest, ← hmagic]
                simp only [List.append_assoc, List.take_append_drop]
                rw [← hdrop, List.take_append_drop]
              · simp only [List.length_append, Digest.length_bytes, hmagic4, h16, hlength, kJournalHeaderBytes]
                omega
  · rintro ⟨frame, rest, hbytes, hsize, hframe⟩
    rw [hbytes] at hlen ⊢
    rw [scanFrame_of_intact hframe hlen, hsize]

theorem IntactFrame.length (h : IntactFrame maxStateBytes record frame) :
    frame.length = (recordFrame record).length ∧ record.summary.length ≤ kMaxAuditSummary ∧
      (writeAuditRecord record).length ≤ maxStateBytes.toNat := by
  obtain ⟨header, length, payload, hframe, hheader, hpayload, hle, hrecord⟩ := h
  have hmagic4 : kJournalMagic.length = 4 := rfl
  obtain ⟨hfits, hwritten⟩ := deserializeAuditRecord_fits hrecord
  have h16 : header.length = 16 := by
    have hwhole := hheader []
    rw [List.append_nil] at hwhole
    exact (Takes.of_whole takes_frameHeader hwhole).2
  rw [UInt64.le_iff_toNat_le] at hle
  refine ⟨?_, hfits, by omega⟩
  simp only [hframe, List.length_append, Digest.length_bytes, hmagic4, h16, hpayload, length_recordFrame]
  omega

/-- The frame of a record that is within the bound. -/
theorem intactFrame_recordFrame (hfits : record.summary.length ≤ kMaxAuditSummary)
    (hle : (writeAuditRecord record).length ≤ maxStateBytes.toNat) :
    IntactFrame maxStateBytes record (recordFrame record) := by
  have hcount : (UInt64.ofNat (writeAuditRecord record).length).toNat = (writeAuditRecord record).length :=
    toNat_count (Nat.lt_of_le_of_lt hle (UInt64.toNat_lt _))
  refine ⟨_, UInt64.ofNat (writeAuditRecord record).length, writeAuditRecord record, rfl,
    reads_frameHeader _ _, hcount.symm, ?_, (deserializeAuditRecord_eq_ok hfits).mpr rfl⟩
  rwa [UInt64.le_iff_toNat_le, hcount]

end

/-! ## Rows of intact frames -/

/-- Intact frames of some records, one after the other. -/
inductive IntactRow (maxStateBytes : UInt64) : List AuditRecord → List UInt8 → Prop
  | nil : IntactRow maxStateBytes [] []
  | cons {record : AuditRecord} {records : List AuditRecord} {frame row : List UInt8}
      (hframe : IntactFrame maxStateBytes record frame) (hrow : IntactRow maxStateBytes records row) :
      IntactRow maxStateBytes (record :: records) (frame ++ row)

/-- The bytes begin with a row of intact frames, and no intact frame comes
after it. -/
structure Leading (maxStateBytes : UInt64) (bytes : List UInt8) (records : List AuditRecord) (rest : List UInt8) :
    Prop where
  row : ∃ row, bytes = row ++ rest ∧ IntactRow maxStateBytes records row
  ends : ∀ record frame more, rest = frame ++ more → ¬ IntactFrame maxStateBytes record frame

section

variable {maxStateBytes : UInt64} {records : List AuditRecord} {bytes row rest : List UInt8}

theorem IntactRow.length (h : IntactRow maxStateBytes records row) :
    row.length = (frames records).length ∧ SummariesFit records ∧
      ∀ record ∈ records, (writeAuditRecord record).length ≤ maxStateBytes.toNat := by
  induction h with
  | nil => simp [SummariesFit]
  | cons hframe hrow ih =>
      obtain ⟨hlength, hfits, hle⟩ := hframe.length
      obtain ⟨hlengths, hall, hles⟩ := ih
      refine ⟨?_, List.forall_mem_cons.mpr ⟨hfits, hall⟩, List.forall_mem_cons.mpr ⟨hle, hles⟩⟩
      rw [List.length_append, frames_cons, List.length_append, hlength, hlengths]

theorem intactRow_frames (hfits : SummariesFit records)
    (hle : ∀ record ∈ records, (writeAuditRecord record).length ≤ maxStateBytes.toNat) :
    IntactRow maxStateBytes records (frames records) := by
  induction records with
  | nil => exact .nil
  | cons record records ih =>
      obtain ⟨hrecord, hrecords⟩ := List.forall_mem_cons.mp hfits
      obtain ⟨hbytes, hall⟩ := List.forall_mem_cons.mp hle
      rw [frames_cons]
      exact .cons (intactFrame_recordFrame hrecord hbytes) (ih hrecords hall)

/-- No frame is empty. -/
theorem IntactFrame.ne_nil {record : AuditRecord} {frame : List UInt8} (h : IntactFrame maxStateBytes record frame) :
    52 ≤ frame.length := by
  have hlength := h.length.1
  rw [length_recordFrame] at hlength
  omega

/-- A row with nothing after it. -/
theorem IntactRow.leading (h : IntactRow maxStateBytes records row) : Leading maxStateBytes row records [] where
  row := ⟨row, (List.append_nil row).symm, h⟩
  ends record frame more hrest hframe := by
    have hlength := hframe.ne_nil
    rw [eq_comm, List.append_eq_nil_iff] at hrest
    rw [hrest.1] at hlength
    simp at hlength

/-- Every file begins with a row of intact frames that goes as far as it can. -/
theorem exists_leading : ∃ records rest, Leading maxStateBytes bytes records rest := by
  induction hn : bytes.length using Nat.strong_induction_on generalizing bytes with
  | _ n ih =>
      by_cases hfront : ∃ record frame more, bytes = frame ++ more ∧ IntactFrame maxStateBytes record frame
      · obtain ⟨record, frame, more, rfl, hframe⟩ := hfront
        have hlength := hframe.ne_nil
        have hshort : more.length < n := by
          rw [← hn, List.length_append]
          omega
        obtain ⟨records, rest, ⟨row, rfl, hrow⟩, hends⟩ := ih _ hshort rfl
        exact ⟨record :: records, rest, ⟨frame ++ row, (List.append_assoc ..).symm, .cons hframe hrow⟩, hends⟩
      · exact ⟨[], bytes, ⟨[], rfl, .nil⟩, fun record frame more hbytes hframe =>
          hfront ⟨record, frame, more, hbytes, hframe⟩⟩

end

/-! ## The recovery loop -/

/-- What the loop ends with on a row of intact frames with something after it,
when it has taken some records already. -/
structure Salvaged (options : StoreOptions) (bytes : List UInt8) (records : List AuditRecord) (rest : List UInt8)
    (offset : Nat) (before : List AuditRecord) (scan : JournalScan) : Prop where
  taken : scan.records = before ++ records.take (options.maxJournalRecords.toNat + 1 - before.length)
  damaged : scan.damaged = true ↔
    rest ≠ [] ∨ options.maxJournalRecords.toNat < before.length + records.length
  tail : before.length + records.length ≤ options.maxJournalRecords.toNat →
    scan.damagedFrom + rest.length = offset + bytes.length

section

variable {options : StoreOptions} {records before : List AuditRecord} {bytes row rest : List UInt8}

theorem scanFrame_rest (hlen : rest.length < 2 ^ 64)
    (hends : ∀ record frame more, rest = frame ++ more → ¬ IntactFrame options.maxStateBytes record frame) :
    ∃ n, scanFrame options.maxStateBytes rest = .damaged n := by
  cases hscan : scanFrame options.maxStateBytes rest with
  | damaged n => exact ⟨n, rfl⟩
  | intact record size =>
      obtain ⟨frame, more, hrest, _, hframe⟩ := (scanFrame_eq_intact hlen).mp hscan
      exact absurd hframe (hends record frame more hrest)

/-- **The recovery loop** takes the records of the row up to its bound, and one
more if there is one. -/
theorem scanFrames_salvaged {fuel offset : Nat} (hrow : IntactRow options.maxStateBytes records row)
    (hends : ∀ record frame more, rest = frame ++ more → ¬ IntactFrame options.maxStateBytes record frame)
    (hlen : (row ++ rest).length < 2 ^ 64) (hfuel : (row ++ rest).length < fuel)
    (hbefore : before.length ≤ options.maxJournalRecords.toNat) :
    Salvaged options (row ++ rest) records rest offset before
      (scanFrames options fuel (row ++ rest) offset before) := by
  induction hrow generalizing fuel offset before with
  | nil =>
      rw [List.nil_append] at hlen hfuel ⊢
      cases fuel with
      | zero => exact absurd hfuel (Nat.not_lt_zero _)
      | succ fuel =>
          have hcount : ¬ options.maxJournalRecords.toNat < before.length := by omega
          unfold scanFrames
          by_cases hempty : rest = []
          · rw [if_pos hempty, hempty]
            exact ⟨by simp, by simp [hcount], fun _ => rfl⟩
          · obtain ⟨n, hscan⟩ := scanFrame_rest hlen hends
            rw [if_neg hempty, hscan]
            exact ⟨by simp, by simp [hempty], fun _ => rfl⟩
  | @cons record records frame row hframe hrow ih =>
      rw [List.append_assoc] at hlen hfuel ⊢
      have hpos := hframe.ne_nil
      have htotal := hlen
      rw [List.length_append] at htotal hfuel
      cases fuel with
      | zero => exact absurd hfuel (Nat.not_lt_zero _)
      | succ fuel =>
          have hne : frame ++ (row ++ rest) ≠ [] := by
            intro h
            rw [List.append_eq_nil_iff] at h
            rw [h.1] at hpos
            simp at hpos
          unfold scanFrames
          rw [if_neg hne, scanFrame_of_intact hframe hlen]
          dsimp only
          rw [List.length_append, List.length_singleton, List.drop_left]
          by_cases hcount : options.maxJournalRecords.toNat < before.length + 1
          · rw [if_pos hcount]
            have hone : options.maxJournalRecords.toNat + 1 - before.length = 1 := by omega
            refine ⟨?_, iff_of_true rfl (.inr ?_), fun hle => ?_⟩
            · rw [hone, List.take_succ_cons, List.take_zero]
            · simp only [List.length_cons]
              omega
            · simp only [List.length_cons] at hle
              omega
          · rw [if_neg hcount]
            have hrest := @ih (before ++ [record]) fuel (offset + frame.length) (by omega) (by omega)
              (by rw [List.length_append, List.length_singleton]; omega)
            obtain ⟨hrecords, hdamaged, htail⟩ := hrest
            rw [List.length_append, List.length_singleton] at hrecords hdamaged htail
            refine ⟨?_, ?_, fun hle => ?_⟩
            · have hmore : options.maxJournalRecords.toNat + 1 - before.length =
                  options.maxJournalRecords.toNat + 1 - (before.length + 1) + 1 := by omega
              rw [hrecords, hmore, List.take_succ_cons, List.append_assoc, List.singleton_append]
            · rw [hdamaged, List.length_cons, Nat.add_assoc, Nat.add_comm 1]
            · rw [List.length_cons] at hle
              rw [htail (by omega), @List.length_append _ frame]
              omega

/-- **The scan of a journal** that begins with a row of intact frames. -/
theorem scanJournal_salvaged (h : Leading options.maxStateBytes bytes records rest) (hlen : bytes.length < 2 ^ 64) :
    Salvaged options bytes records rest 0 [] (scanJournal options bytes) := by
  obtain ⟨⟨row, rfl, hrow⟩, hends⟩ := h
  exact scanFrames_salvaged hrow hends hlen (Nat.lt_succ_self _) (Nat.zero_le _)

end

/-! ## Loading -/

namespace Store

/-- What loading the journal comes to, in the terms of its scan. -/
structure ScanLoaded (s : Store) (disk : Disk) (bytes : List UInt8) (loaded : List AuditRecord) (report : LoadReport)
    (s' : Store) (disk' : Disk) : Prop where
  options : s'.options = s.options
  isOpen : s'.isOpen = true
  records : loaded = (scanJournal s.options bytes).records
  count : s'.journalRecords = UInt64.ofNat loaded.length
  outcome : report.outcome = .recovered ↔ (scanJournal s.options bytes).damaged = true
  rewritten : (scanJournal s.options bytes).damaged = true →
    report.discardedTailBytes = UInt64.ofNat (bytes.length - (scanJournal s.options bytes).damagedFrom) ∧
      SummariesFit loaded ∧ disk' = replaced disk .journal (frames loaded)
  intact : (scanJournal s.options bytes).damaged = false → report.discardedTailBytes = 0 ∧ disk' = disk

/-- Loading the journal gets through where no operation fails, and whenever it
does it comes to `P`. -/
structure LoadsAs (s : Store) (disk : Disk) (P : List AuditRecord → LoadReport → Store → Disk → Prop) : Prop where
  completes : ∃ loaded report s' disk', Completes s.loadJournal disk (.ok (loaded, report), s') disk'
  returned : ∀ fates loaded report s' w', s.loadJournal ⟨disk, fates⟩ = (some (.ok (loaded, report), s'), w') →
    P loaded report s' w'.disk

section

variable {s : Store} {disk : Disk} {w : World FileName} {bytes row rest : List UInt8} {records : List AuditRecord}

theorem LoadsAs.mono {P Q : List AuditRecord → LoadReport → Store → Disk → Prop} (h : s.LoadsAs disk P)
    (hPQ : ∀ loaded report s' disk', P loaded report s' disk' → Q loaded report s' disk') : s.LoadsAs disk Q where
  completes := h.completes
  returned fates loaded report s' w' hrun := hPQ _ _ _ _ (h.returned fates loaded report s' w' hrun)

theorem meets_loadJournal_scan (hopen : s.isOpen = true) (hjournal : w.disk .journal = some bytes) :
    Meets s.loadJournal
      (fun r w' => ∀ loaded report, r.1 = .ok (loaded, report) → s.ScanLoaded w.disk bytes loaded report r.2 w'.disk)
      (fun _ => True) w := by
  unfold loadJournal
  rw [if_neg (by simp [hopen]), meets_bind]
  refine meets_readFileBounded.mono (fun read w₁ ⟨hdisk, hread⟩ => ?_) fun _ _ => trivial
  cases read with
  | error status =>
      dsimp only at hread ⊢
      have hfound : status.code ≠ .notFound := by simp [hread, hjournal]
      rw [if_neg hfound]
      exact fun _ _ hreturned => nomatch hreturned
  | ok found =>
      dsimp only at hread ⊢
      obtain ⟨hfound, -⟩ := hread
      rw [hjournal, Option.some.injEq] at hfound
      subst hfound
      cases hdamaged : (scanJournal s.options bytes).damaged with
      | true =>
          rw [if_pos rfl]
          split
          · exact fun _ _ hreturned => nomatch hreturned
          next rebuilt hrebuilt =>
            obtain ⟨hfits, rfl⟩ := journalFrames_eq_ok.mp hrebuilt
            rw [meets_bind]
            refine meets_writeFileAtomic.mono (fun status w₂ hwritten => ?_) fun _ _ => trivial
            split
            next hok =>
              rw [if_pos hok, hdisk] at hwritten
              intro loaded report hreturned
              cases hreturned
              exact ⟨rfl, hopen, rfl, rfl, by simp [hdamaged], fun _ => ⟨rfl, hfits, hwritten⟩, by simp [hdamaged]⟩
            next hok => exact fun _ _ hreturned => nomatch hreturned
      | false =>
          rw [if_neg Bool.false_ne_true]
          intro loaded report hreturned
          cases hreturned
          have houtcome : (if (scanJournal s.options bytes).records = [] then LoadOutcome.fresh else .loaded) ≠
              .recovered := by
            split
            · exact nofun
            · exact nofun
          exact ⟨rfl, hopen, rfl, rfl, by simp [hdamaged, houtcome], by simp [hdamaged], fun _ => ⟨rfl, hdisk⟩⟩

theorem completes_loadJournal_scan (hopen : s.isOpen = true) (hjournal : disk .journal = some bytes)
    (hread : bytes.length ≤ (s.options.maxJournalBytes + 1048576).toNat)
    (hfits : SummariesFit (scanJournal s.options bytes).records) :
    ∃ loaded report s' disk', Completes s.loadJournal disk (.ok (loaded, report), s') disk' := by
  have hframes := journalFrames_eq_ok.mpr ⟨hfits, rfl⟩
  unfold loadJournal
  rw [if_neg (by simp [hopen])]
  cases hdamaged : (scanJournal s.options bytes).damaged with
  | true =>
      exact ⟨_, _, _, _, (completes_readFileBounded hjournal hread).bind (by
        dsimp only
        rw [if_pos hdamaged, hframes]
        exact completes_writeFileAtomic.bind completes_pure)⟩
  | false =>
      exact ⟨_, _, _, _, (completes_readFileBounded hjournal hread).bind (by
        dsimp only
        rw [if_neg (by simp [hdamaged])]
        exact completes_pure)⟩

/-- **Loading a journal** that begins with a row of intact frames. -/
theorem loadsAs_leading (hopen : s.isOpen = true) (hjournal : disk .journal = some bytes)
    (hread : bytes.length ≤ (s.options.maxJournalBytes + 1048576).toNat)
    (hleading : Leading s.options.maxStateBytes bytes records rest) :
    s.LoadsAs disk fun loaded report s' disk' => s.ScanLoaded disk bytes loaded report s' disk' ∧
      Salvaged s.options bytes records rest 0 [] (scanJournal s.options bytes) := by
  have hlen : bytes.length < 2 ^ 64 := Nat.lt_of_le_of_lt hread (UInt64.toNat_lt _)
  have hsalvaged := scanJournal_salvaged hleading hlen
  obtain ⟨⟨row, -, hrow⟩, -⟩ := hleading
  have hfits : SummariesFit (scanJournal s.options bytes).records := by
    rw [hsalvaged.taken, List.nil_append]
    exact fun r hr => hrow.length.2.1 r (List.mem_of_mem_take hr)
  constructor
  · exact completes_loadJournal_scan hopen hjournal hread hfits
  · intro fates loaded report s' w' hrun
    have hmeets := @meets_loadJournal_scan s ⟨disk, fates⟩ _ hopen hjournal
    exact ⟨hmeets.returned hrun loaded report rfl, hsalvaged⟩

end

/-- The records of the row come back, and the file consists of their frames. -/
structure Salvages (s : Store) (records : List AuditRecord) (rest : List UInt8) (loaded : List AuditRecord)
    (report : LoadReport) (disk' : Disk) : Prop where
  taken : loaded = records
  outcome : report.outcome = .recovered ↔ rest ≠ []
  discarded : report.discardedTailBytes.toNat = rest.length
  file : ∃ row, disk' .journal = some row ∧ IntactRow s.options.maxStateBytes records row

section

variable {s s' : Store} {disk disk' : Disk} {bytes rest : List UInt8} {records loaded : List AuditRecord}
  {report : LoadReport}

theorem ScanLoaded.salvages (h : s.ScanLoaded disk bytes loaded report s' disk')
    (hsalvaged : Salvaged s.options bytes records rest 0 [] (scanJournal s.options bytes))
    (hleading : Leading s.options.maxStateBytes bytes records rest) (hjournal : disk .journal = some bytes)
    (hlen : bytes.length < 2 ^ 64) (hcount : records.length ≤ s.options.maxJournalRecords.toNat) :
    s.Salvages records rest loaded report disk' := by
  obtain ⟨⟨row, hbytes, hrow⟩, -⟩ := hleading
  obtain ⟨-, hfits, hwithin⟩ := hrow.length
  have hloaded : loaded = records := by
    rw [h.records, hsalvaged.taken, List.nil_append, List.take_of_length_le]
    simp only [List.length_nil]
    omega
  have hdamaged : (scanJournal s.options bytes).damaged = true ↔ rest ≠ [] := by
    have hmore : ¬ s.options.maxJournalRecords.toNat < 0 + records.length := by omega
    rw [hsalvaged.damaged, List.length_nil, or_iff_left hmore]
  have htail := hsalvaged.tail (by simpa using hcount)
  by_cases hrest : rest = []
  · have hintact : (scanJournal s.options bytes).damaged = false := by
      rw [← Bool.not_eq_true, hdamaged, not_not]
      exact hrest
    obtain ⟨hzero, hdisk⟩ := h.intact hintact
    rw [hrest, List.append_nil] at hbytes
    refine ⟨hloaded, h.outcome.trans hdamaged, ?_, row, ?_, hrow⟩
    · rw [hzero, hrest]
      rfl
    · rw [hdisk, hjournal, hbytes]
  · obtain ⟨htailbytes, -, hdisk⟩ := h.rewritten (hdamaged.mpr hrest)
    refine ⟨hloaded, h.outcome.trans hdamaged, ?_, frames records, ?_, intactRow_frames hfits hwithin⟩
    · rw [htailbytes, UInt64.toNat_ofNat', Nat.mod_eq_of_lt (by omega)]
      omega
    · rw [hdisk, replaced_self, hloaded]

/-- **Recovery keeps the longest row of intact frames**, and a second one has
nothing more to do.  With `maxStateBytes` near `2 ^ 64` the sum
`payload_length + 32` wraps, and the code reads past its buffer. -/
theorem loadJournal_salvages (hopen : s.isOpen = true) (_hmax : s.options.maxStateBytes.toNat < 2 ^ 63)
    (hjournal : disk .journal = some bytes) (hread : bytes.length ≤ (s.options.maxJournalBytes + 1048576).toNat)
    (hleading : Leading s.options.maxStateBytes bytes records rest)
    (hcount : records.length ≤ s.options.maxJournalRecords.toNat) :
    s.LoadsAs disk fun loaded report s' disk' => s.Salvages records rest loaded report disk' ∧
      s'.LoadsAs disk' fun again report' _ _ => again = records ∧ report'.outcome ≠ .recovered := by
  have hlen : bytes.length < 2 ^ 64 := Nat.lt_of_le_of_lt hread (UInt64.toNat_lt _)
  refine (loadsAs_leading hopen hjournal hread hleading).mono ?_
  intro loaded report s' disk' ⟨hloaded, hsalvaged⟩
  have hsalvages := hloaded.salvages hsalvaged hleading hjournal hlen hcount
  obtain ⟨row, hfile, hrow⟩ := hsalvages.file
  refine ⟨hsalvages, ?_⟩
  have hshort : row.length ≤ bytes.length := by
    obtain ⟨⟨before, hbytes, hbefore⟩, -⟩ := hleading
    rw [hrow.length.1, hbytes, List.length_append, hbefore.length.1]
    omega
  have hagain : Leading s'.options.maxStateBytes row records [] := by
    rw [hloaded.options]
    exact hrow.leading
  refine (loadsAs_leading hloaded.isOpen hfile (by rw [hloaded.options]; omega) hagain).mono ?_
  intro again report' s'' disk'' ⟨hloaded', hsalvaged'⟩
  have hsalvages' := hloaded'.salvages hsalvaged' hagain hfile (by omega) (by rwa [hloaded.options])
  exact ⟨hsalvages'.taken, fun hrecovered => hsalvages'.outcome.mp hrecovered rfl⟩

/-! ## The bounds of a journal -/

/-- The count of a store is that of its file, within the bound, and the file has
the newest of some records. -/
structure JournalBounded (s : Store) (records : List AuditRecord) (disk : Disk) : Prop where
  bound : s.journalRecords ≤ s.options.maxJournalRecords
  newest : ∃ kept row, disk .journal = some row ∧ IntactRow s.options.maxStateBytes kept row ∧
    s.journalRecords.toNat = kept.length ∧ kept <:+ records

theorem ScanLoaded.bounded_iff (h : s.ScanLoaded disk bytes loaded report s' disk')
    (hsalvaged : Salvaged s.options bytes records [] 0 [] (scanJournal s.options bytes))
    (hrow : IntactRow s.options.maxStateBytes records bytes) (hjournal : disk .journal = some bytes)
    (hlen : bytes.length < 2 ^ 64) :
    s'.JournalBounded records disk' ↔ records.length ≤ s.options.maxJournalRecords.toNat := by
  have hframes := @length_le_frames records
  rw [← hrow.length.1] at hframes
  constructor
  · intro hbounded
    by_contra hmore
    have hbound := hbounded.bound
    have htaken : loaded.length = s.options.maxJournalRecords.toNat + 1 := by
      rw [h.records, hsalvaged.taken, List.nil_append, List.length_take, List.length_nil]
      omega
    rw [h.options, UInt64.le_iff_toNat_le, h.count, htaken, UInt64.toNat_ofNat', Nat.mod_eq_of_lt (by omega)] at hbound
    omega
  · intro hcount
    have hsalvages := h.salvages hsalvaged hrow.leading hjournal hlen hcount
    obtain ⟨row, hfile, hkept⟩ := hsalvages.file
    have htotal : s'.journalRecords.toNat = records.length := by
      rw [h.count, hsalvages.taken, toNat_count (by omega)]
    refine ⟨?_, records, row, hfile, ?_, htotal, List.suffix_refl _⟩
    · rwa [UInt64.le_iff_toNat_le, htotal, h.options]
    · rwa [h.options]

/-- **The bounds hold after loading** exactly when the file kept to them. -/
theorem loadJournal_bounded_iff {w w' : World FileName} (hopen : s.isOpen = true)
    (hjournal : w.disk .journal = some bytes) (hread : bytes.length ≤ (s.options.maxJournalBytes + 1048576).toNat)
    (hrow : IntactRow s.options.maxStateBytes records bytes)
    (hrun : s.loadJournal w = (some (.ok (loaded, report), s'), w')) :
    s'.JournalBounded records w'.disk ↔ records.length ≤ s.options.maxJournalRecords.toNat := by
  have hlen : bytes.length < 2 ^ 64 := Nat.lt_of_le_of_lt hread (UInt64.toNat_lt _)
  obtain ⟨hloaded, hsalvaged⟩ :=
    (loadsAs_leading hopen hjournal hread hrow.leading).returned w.fates loaded report s' w' hrun
  exact hloaded.bounded_iff hsalvaged hrow hjournal hlen

end

/-! ## Samples -/

/-- A journal of some frames, with something after them. -/
def journalOf (records : List AuditRecord) (rest : List UInt8) : Disk
  | .journal => some (frames records ++ rest)
  | .state => none

/-- A store whose journal has room for one record. -/
def storeOfOne : Store where
  options := { directory := "state", maxJournalRecords := 1 }
  isOpen := true

theorem intactRow_older : IntactRow (storeWithin 508).options.maxStateBytes [olderRecord] (frames [olderRecord]) :=
  intactRow_frames (by simp [SummariesFit, olderRecord]) fun record hrecord => by
    rw [List.mem_singleton.mp hrecord, length_writeAuditRecord (by decide)]
    decide

theorem intactRow_two : IntactRow storeOfOne.options.maxStateBytes [olderRecord, newerRecord]
    (frames [olderRecord, newerRecord]) := by
  refine intactRow_frames summariesFit_two fun record hrecord => ?_
  have hlength : (writeAuditRecord record).length = 202 := by
    rw [List.mem_pair] at hrecord
    cases hrecord with
    | inl h => rw [h, length_writeAuditRecord (by decide)]; rfl
    | inr h => rw [h, length_writeAuditRecord (by decide)]; rfl
  rw [hlength]
  decide

theorem loadJournal_salvages_sample :
    (storeWithin 508).LoadsAs (journalOf [olderRecord] [0]) fun loaded report s' disk' =>
      (storeWithin 508).Salvages [olderRecord] [0] loaded report disk' ∧
        s'.LoadsAs disk' fun again report' _ _ => again = [olderRecord] ∧ report'.outcome ≠ .recovered := by
  refine loadJournal_salvages rfl (by decide) rfl ?_ ⟨⟨_, rfl, intactRow_older⟩, ?_⟩ (by decide)
  · rw [frames_singleton, List.length_append, length_olderRecord]
    decide
  · intro record frame more hrest hframe
    have hlength := hframe.ne_nil
    have hsize := congrArg List.length hrest
    rw [List.length_append, List.length_singleton] at hsize
    omega

/-- A file of one frame is within the bounds. -/
theorem loadJournal_bounded_sample : ∃ loaded report s' w',
    (storeWithin 508).loadJournal ⟨journalOf [olderRecord] [], []⟩ = (some (.ok (loaded, report), s'), w') ∧
      s'.JournalBounded [olderRecord] w'.disk := by
  have hrow := intactRow_older
  rw [← List.append_nil (frames [olderRecord])] at hrow
  have hread : (frames [olderRecord] ++ []).length ≤
      ((storeWithin 508).options.maxJournalBytes + 1048576).toNat := by
    rw [frames_singleton, List.append_nil, length_olderRecord]
    decide
  have hloads := @loadsAs_leading (storeWithin 508) (journalOf [olderRecord] []) _ _ _ rfl rfl hread hrow.leading
  obtain ⟨loaded, report, s', disk', hrun⟩ := hloads.completes
  exact ⟨loaded, report, s', _, hrun, (loadJournal_bounded_iff rfl rfl hread hrow hrun).mpr (by decide)⟩

/-- Where there is room for one record, a file of two frames keeps both. -/
theorem loadJournal_unbounded : ¬ ∀ (s s' : Store) (bytes : List UInt8) (records loaded : List AuditRecord)
    (report : LoadReport) (w w' : World FileName), s.isOpen = true → s.options.Accepted →
    w.disk .journal = some bytes → bytes.length ≤ (s.options.maxJournalBytes + 1048576).toNat →
    IntactRow s.options.maxStateBytes records bytes →
    s.loadJournal w = (some (.ok (loaded, report), s'), w') → s'.JournalBounded records w'.disk := by
  intro h
  have haccepted : storeOfOne.options.Accepted :=
    ⟨by decide, by decide, by decide, by decide, by decide, by decide⟩
  have hrow := intactRow_two
  rw [← List.append_nil (frames [olderRecord, newerRecord])] at hrow
  have hread : (frames [olderRecord, newerRecord] ++ []).length ≤
      (storeOfOne.options.maxJournalBytes + 1048576).toNat := by
    rw [frames_cons, frames_singleton, List.append_nil, List.length_append, length_olderRecord, length_newerRecord]
    decide
  have hloads := @loadsAs_leading storeOfOne (journalOf [olderRecord, newerRecord] []) _ _ _ rfl rfl hread
    hrow.leading
  obtain ⟨loaded, report, s', disk', hrun⟩ := hloads.completes
  obtain ⟨hloaded, hsalvaged⟩ := hloads.returned [] loaded report s' _ hrun
  have hlen := Nat.lt_of_le_of_lt hread (UInt64.toNat_lt _)
  have hbounded := h _ _ _ _ _ _ _ _ rfl haccepted rfl hread hrow hrun
  exact absurd ((hloaded.bounded_iff hsalvaged hrow rfl hlen).mp hbounded) (by decide)

end Store

end Oversub
