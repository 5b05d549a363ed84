import Oversub.Compacted
import Oversub.Salvage

/-!
# Oversub.JournalReads

The recovery loop of the journal on offsets into the file (`Store::load_journal`
of `persistence.cpp`).  Offsets, lengths and their sums are 64-bit words that
wrap around; every range that the loop reads or copies is checked against the
bytes that were read from the file, and a range outside of them ends the run.

The announced length of a payload is bounded by `max_state_bytes` alone, and
`Store::open` takes any bound.  A length within 32 of the end of the range of a
word makes the room check wrap around, and the copy of the payload leaves the
buffer.  Short of that, the loop is the one of `Oversub.Persistence`.
-/

namespace Oversub

open Wire Crash Files

/-! ## Ranges of a buffer -/

/-- The bytes that were read from a file, a vector: at most `PTRDIFF_MAX` of them. -/
structure Buffer where
  bytes : List UInt8
  length_lt : bytes.length < 2 ^ 63

def Buffer.size (b : Buffer) : UInt64 := UInt64.ofNat b.bytes.length

/-- The range from `begin() + first` up to `begin() + past`. -/
structure Span where
  first : UInt64
  past : UInt64
  deriving DecidableEq

def Span.Inside (s : Span) (b : Buffer) : Prop := s.first ≤ s.past ∧ s.past ≤ b.size

instance (s : Span) (b : Buffer) : Decidable (s.Inside b) := inferInstanceAs (Decidable (_ ∧ _))

/-- The bytes of a range, or the range where it is not one of the buffer. -/
def Buffer.read (b : Buffer) (s : Span) : Except Span (List UInt8) :=
  if s.Inside b then .ok ((b.bytes.drop s.first.toNat).take (s.past.toNat - s.first.toNat)) else .error s

/-- `read_u32`: the word at an offset, and the offset behind it. -/
def readU32At (b : Buffer) (offset : UInt64) : Except Span (Option (UInt32 × UInt64)) :=
  if b.size < offset + 4 then .ok none
  else do
    let bytes ← b.read ⟨offset, offset + 4⟩
    pure ((Reader.u32 bytes).map fun r => (r.1, offset + 4))

/-- `read_u64`, likewise. -/
def readU64At (b : Buffer) (offset : UInt64) : Except Span (Option (UInt64 × UInt64)) :=
  if b.size < offset + 8 then .ok none
  else do
    let bytes ← b.read ⟨offset, offset + 8⟩
    pure ((Reader.u64 bytes).map fun r => (r.1, offset + 8))

/-! ## The loop -/

/-- Version and length of a frame, and the offset behind its header. -/
def readHeaderAt (b : Buffer) (offset : UInt64) : Except Span (Option (UInt32 × UInt64 × UInt64)) := do
  match ← readU32At b offset with
  | none => pure none
  | some (version, offset) =>
      match ← readU32At b offset with
      | none => pure none
      | some (_, offset) =>
          match ← readU64At b offset with
          | none => pure none
          | some (length, offset) => pure (some (version, length, offset))

/-- How one pass of the loop ends: with the final offset, or with a record and
the offset of the next frame. -/
inductive FrameRead where
  | damaged (offset : UInt64)
  | accepted (record : AuditRecord) (next : UInt64)

/-- One pass of the loop, for the frame at an offset. -/
def readFrameAt (maxStateBytes : UInt64) (b : Buffer) (offset : UInt64) : Except Span FrameRead :=
  if b.size - offset < UInt64.ofNat (kJournalHeaderBytes + 32) then pure (.damaged offset)
  else do
    let magic ← b.read ⟨offset, offset + 4⟩
    if magic ≠ kJournalMagic then pure (.damaged offset)
    else
      match ← readHeaderAt b (offset + 4) with
      | none => pure (.damaged (offset + 4))
      | some (version, length, offset) =>
          if version ≠ kJournalFormatVersion ∨ maxStateBytes < length then pure (.damaged offset)
          else if b.size - offset < length + 32 then pure (.damaged offset)
          else do
            let payload ← b.read ⟨offset, offset + length⟩
            let stored ← b.read ⟨offset + length, offset + length + 32⟩
            if (sha256 payload).bytes ≠ stored then pure (.damaged offset)
            else
              match deserializeAuditRecord payload with
              | .error _ => pure (.damaged offset)
              | .ok record => pure (.accepted record (offset + (length + 32)))

/-- How far a run of the loop has come. -/
inductive JournalRun where
  | left (range : Span)     -- a range that is not in the buffer
  | ended (scan : JournalScan)
  | unfinished

/-- So many passes of the loop. -/
def readFrames (options : StoreOptions) (b : Buffer) : Nat → UInt64 → List AuditRecord → JournalRun
  | 0, _, _ => .unfinished
  | passes + 1, offset, records =>
      if offset < b.size then
        match readFrameAt options.maxStateBytes b offset with
        | .error range => .left range
        | .ok (.damaged final) => .ended ⟨records, final.toNat, offset.toNat, true⟩
        | .ok (.accepted record next) =>
            let records := records ++ [record]
            if options.maxJournalRecords.toNat < records.length then
              .ended ⟨records, next.toNat, offset.toNat, true⟩
            else readFrames options b passes next records
      else .ended ⟨records, offset.toNat, offset.toNat, false⟩

/-! ## Announced lengths -/

/-- A frame whose header is accepted and whose length makes the room check
wrap around. -/
def Overruns (maxStateBytes : UInt64) (bytes : List UInt8) : Prop :=
  kJournalHeaderBytes + 32 ≤ bytes.length ∧ bytes.take 4 = kJournalMagic ∧
    ∃ length rest, readFrameHeader (bytes.drop 4) = some ((kJournalFormatVersion, length), rest) ∧
      length ≤ maxStateBytes ∧ 2 ^ 64 - 32 ≤ length.toNat

/-- No frame behind a row of intact ones overruns. -/
def NeverOverruns (options : StoreOptions) (bytes : List UInt8) : Prop :=
  ∀ records row rest, bytes = row ++ rest → IntactRow options.maxStateBytes records row →
    records.length ≤ options.maxJournalRecords.toNat → ¬ Overruns options.maxStateBytes rest

/-- A bound on the payloads that keeps the room check from wrapping. -/
theorem neverOverruns_of_small {options : StoreOptions} (h : options.maxStateBytes.toNat < 2 ^ 64 - 32)
    (bytes : List UInt8) : NeverOverruns options bytes := by
  intro records row rest _ _ _ ⟨_, _, length, _, _, hle, hbig⟩
  have hlength := UInt64.le_iff_toNat_le.mp hle
  omega

/-! ## Reads inside the buffer -/

section

variable {b : Buffer} {offset : UInt64} {m k : Nat}

theorem ok_bind {ε α β : Type} (a : α) (f : α → Except ε β) : (Except.ok a >>= f) = f a := rfl

theorem Buffer.toNat_size : b.size.toNat = b.bytes.length := by
  have hlength := b.length_lt
  rw [Buffer.size, UInt64.toNat_ofNat']
  omega

theorem Buffer.read_inside {x y : UInt64} (hx : x.toNat = m) (hy : y.toNat = m + k) (h : m + k ≤ b.bytes.length) :
    b.read ⟨x, y⟩ = .ok ((b.bytes.drop m).take k) := by
  have hinside : Span.Inside ⟨x, y⟩ b := by
    unfold Span.Inside
    rw [UInt64.le_iff_toNat_le, UInt64.le_iff_toNat_le, Buffer.toNat_size]
    dsimp only
    omega
  rw [Buffer.read, if_pos hinside]
  dsimp only
  rw [hx, hy, Nat.add_sub_cancel_left]

theorem u32_take {bytes : List UInt8} (h : 4 ≤ bytes.length) :
    ∃ x, Reader.u32 bytes = some (x, bytes.drop 4) ∧ Reader.u32 (bytes.take 4) = some (x, []) :=
  match bytes, h with
  | _ :: _ :: _ :: _ :: _, _ => ⟨_, rfl, rfl⟩

theorem u64_take {bytes : List UInt8} (h : 8 ≤ bytes.length) :
    ∃ x, Reader.u64 bytes = some (x, bytes.drop 8) ∧ Reader.u64 (bytes.take 8) = some (x, []) :=
  match bytes, h with
  | _ :: _ :: _ :: _ :: _ :: _ :: _ :: _ :: _, _ => ⟨_, rfl, rfl⟩

/-- An offset moved forward within the buffer. -/
theorem Buffer.toNat_advance (b : Buffer) {x : UInt64} (ho : offset.toNat = m) (hx : x.toNat = k) (h : m + k ≤ b.bytes.length) :
    (offset + x).toNat = m + k := by
  have hlength := b.length_lt
  rw [UInt64.toNat_add, ho, hx]
  omega

theorem readU32At_eq (ho : offset.toNat = m) (h : m + 4 ≤ b.bytes.length) :
    ∃ x, Reader.u32 (b.bytes.drop m) = some (x, b.bytes.drop (m + 4)) ∧
      readU32At b offset = .ok (some (x, offset + 4)) := by
  have hnext : (offset + 4).toNat = m + 4 := b.toNat_advance ho rfl h
  have hroom : ¬ b.size < offset + 4 := by
    rw [UInt64.lt_iff_toNat_lt, Buffer.toNat_size]
    omega
  obtain ⟨x, hwhole, hfront⟩ := @u32_take (b.bytes.drop m) (by rw [List.length_drop]; omega)
  refine ⟨x, by rw [hwhole, List.drop_drop], ?_⟩
  rw [readU32At, if_neg hroom, Buffer.read_inside ho hnext h, ok_bind, hfront]
  rfl

theorem readU64At_eq (ho : offset.toNat = m) (h : m + 8 ≤ b.bytes.length) :
    ∃ x, Reader.u64 (b.bytes.drop m) = some (x, b.bytes.drop (m + 8)) ∧
      readU64At b offset = .ok (some (x, offset + 8)) := by
  have hnext : (offset + 8).toNat = m + 8 := b.toNat_advance ho rfl h
  have hroom : ¬ b.size < offset + 8 := by
    rw [UInt64.lt_iff_toNat_lt, Buffer.toNat_size]
    omega
  obtain ⟨x, hwhole, hfront⟩ := @u64_take (b.bytes.drop m) (by rw [List.length_drop]; omega)
  refine ⟨x, by rw [hwhole, List.drop_drop], ?_⟩
  rw [readU64At, if_neg hroom, Buffer.read_inside ho hnext h, ok_bind, hfront]
  rfl

/-- The header behind a magic. -/
theorem readHeaderAt_eq (ho : offset.toNat = m) (h : m + 16 ≤ b.bytes.length) :
    ∃ version length next, readFrameHeader (b.bytes.drop m) = some ((version, length), b.bytes.drop (m + 16)) ∧
      readHeaderAt b offset = .ok (some (version, length, next)) ∧ next.toNat = m + 16 := by
  have h4 : (offset + 4).toNat = m + 4 := b.toNat_advance ho rfl (by omega)
  have h8 : (offset + 4 + 4).toNat = m + 4 + 4 := b.toNat_advance h4 rfl (by omega)
  have h16 : (offset + 4 + 4 + 8).toNat = m + 4 + 4 + 8 := b.toNat_advance h8 rfl (by omega)
  obtain ⟨version, hversion, hread⟩ := @readU32At_eq b offset m ho (by omega)
  obtain ⟨reserved, hreserved, hread'⟩ := @readU32At_eq b (offset + 4) (m + 4) h4 (by omega)
  obtain ⟨length, hlength, hread''⟩ := @readU64At_eq b (offset + 4 + 4) (m + 4 + 4) h8 (by omega)
  refine ⟨version, length, offset + 4 + 4 + 8, ?_, ?_, h16⟩
  · have hbind : readFrameHeader (b.bytes.drop m) = (Reader.u32 (b.bytes.drop m)).bind fun r =>
        (Reader.u32 r.2).bind fun r' => (Reader.u64 r'.2).bind fun r'' => some ((r.1, r''.1), r''.2) := rfl
    rw [hbind, hversion, Option.bind_some, hreserved, Option.bind_some, hlength]
    rfl
  · rw [readHeaderAt, hread]
    rw [ok_bind]
    dsimp only
    rw [hread', ok_bind]
    dsimp only
    rw [hread'', ok_bind]
    rfl

/-- What is left behind an offset. -/
theorem Buffer.size_sub (ho : offset.toNat = m) (h : m ≤ b.bytes.length) :
    b.size - offset = UInt64.ofNat (b.bytes.drop m).length := by
  have hlength := b.length_lt
  rw [← UInt64.toNat_inj, UInt64.toNat_sub_of_le, Buffer.toNat_size, ho, UInt64.toNat_ofNat', List.length_drop]
  · omega
  · rw [UInt64.le_iff_toNat_le, Buffer.toNat_size, ho]
    exact h

variable {maxStateBytes : UInt64}

/-- One pass past a whole header, which both readings agree on. -/
theorem readFrameAt_header (ho : offset.toNat = m) (h : m + 52 ≤ b.bytes.length)
    (hmagic : (b.bytes.drop m).take 4 = kJournalMagic) :
    ∃ version length next, next.toNat = m + 20 ∧
      readFrameHeader ((b.bytes.drop m).drop 4) = some ((version, length), b.bytes.drop (m + 20)) ∧
      readFrameAt maxStateBytes b offset =
        (if version ≠ kJournalFormatVersion ∨ maxStateBytes < length then .ok (.damaged next)
        else if UInt64.ofNat (b.bytes.drop (m + 20)).length < length + 32 then .ok (.damaged next)
        else do
          let payload ← b.read ⟨next, next + length⟩
          let stored ← b.read ⟨next + length, next + length + 32⟩
          if (sha256 payload).bytes ≠ stored then .ok (.damaged next)
          else
            match deserializeAuditRecord payload with
            | .error _ => .ok (.damaged next)
            | .ok record => .ok (.accepted record (next + (length + 32)))) := by
  have h4 : (offset + 4).toNat = m + 4 := b.toNat_advance ho rfl (by omega)
  obtain ⟨version, length, next, hheader, hread, hnext⟩ := @readHeaderAt_eq b (offset + 4) (m + 4) h4 (by omega)
  refine ⟨version, length, next, hnext, ?_, ?_⟩
  · rw [List.drop_drop, hheader]
  · have hroom : ¬ b.size - offset < UInt64.ofNat (kJournalHeaderBytes + 32) := by
      have hlength := b.length_lt
      rw [Buffer.size_sub ho (by omega), UInt64.lt_iff_toNat_lt, UInt64.toNat_ofNat', UInt64.toNat_ofNat',
        List.length_drop, kJournalHeaderBytes]
      omega
    have hfront := @Buffer.read_inside b m 4 offset (offset + 4) ho h4 (by omega)
    rw [readFrameAt, if_neg hroom, hfront, ok_bind, if_neg (not_not.mpr hmagic), hread, ok_bind]
    dsimp only
    rw [Buffer.size_sub hnext (by omega)]
    rfl

/-- The outcome of a scan at the front, placed at an offset. -/
def FrameScan.placed (offset : UInt64) : FrameScan → FrameRead
  | .damaged n => .damaged (offset + UInt64.ofNat n)
  | .intact record n => .accepted record (offset + UInt64.ofNat n)

/-- **One pass**, where the frame does not overrun, reads what a scan of the
bytes from the offset on reads. -/
theorem readFrameAt_eq (ho : offset.toNat = m) (h : m ≤ b.bytes.length)
    (hsound : ¬ Overruns maxStateBytes (b.bytes.drop m)) :
    readFrameAt maxStateBytes b offset = .ok ((scanFrame maxStateBytes (b.bytes.drop m)).placed offset) := by
  have hlen := b.length_lt
  have hdrop := @List.length_drop _ m b.bytes
  have hstay : offset + UInt64.ofNat 0 = offset := by simp
  by_cases hshort : b.bytes.length < m + 52
  · have hroom : b.size - offset < UInt64.ofNat (kJournalHeaderBytes + 32) := by
      rw [Buffer.size_sub ho h, UInt64.lt_iff_toNat_lt, UInt64.toNat_ofNat', UInt64.toNat_ofNat', hdrop,
        kJournalHeaderBytes]
      omega
    have hscan : scanFrame maxStateBytes (b.bytes.drop m) = .damaged 0 := by
      unfold scanFrame
      rw [if_pos]
      rw [hdrop, kJournalHeaderBytes]
      omega
    rw [readFrameAt, if_pos hroom, hscan, FrameScan.placed, hstay]
    rfl
  · have hlong : ¬ (b.bytes.drop m).length < kJournalHeaderBytes + 32 := by
      rw [hdrop, kJournalHeaderBytes]
      omega
    by_cases hmagic : (b.bytes.drop m).take 4 = kJournalMagic
    · obtain ⟨version, length, next, hnext, hheader, hread⟩ :=
        @readFrameAt_header b offset m maxStateBytes ho (by omega) hmagic
      have hbehind : offset + UInt64.ofNat kJournalHeaderBytes = next := by
        rw [← UInt64.toNat_inj, hnext]
        exact b.toNat_advance ho rfl (by omega)
      rw [hread]
      unfold scanFrame
      rw [if_neg hlong, if_neg (not_not.mpr hmagic), hheader]
      dsimp only
      by_cases hreject : version ≠ kJournalFormatVersion ∨ maxStateBytes < length
      · rw [if_pos hreject, if_pos hreject, FrameScan.placed, hbehind]
      · obtain ⟨hversion, hle⟩ := not_or.mp hreject
        have hsmall : length.toNat < 2 ^ 64 - 32 := by
          refine Nat.lt_of_not_le fun hbig => hsound
            ⟨by omega, hmagic, length, b.bytes.drop (m + 20), ?_, UInt64.not_lt.mp hle, hbig⟩
          rw [hheader, not_not.mp hversion]
        have hsum : (length + 32).toNat = length.toNat + 32 := by
          have h32 : (32 : UInt64).toNat = 32 := rfl
          rw [UInt64.toNat_add, h32]
          omega
        rw [if_neg hreject, if_neg hreject]
        by_cases hroom : UInt64.ofNat (b.bytes.drop (m + 20)).length < length + 32
        · rw [if_pos hroom, if_pos hroom, FrameScan.placed, hbehind]
        · have hin : m + 20 + length.toNat + 32 ≤ b.bytes.length := by
            rw [UInt64.lt_iff_toNat_lt, UInt64.toNat_ofNat', List.length_drop, hsum] at hroom
            omega
          have hpast : (next + length).toNat = m + 20 + length.toNat := b.toNat_advance hnext rfl (by omega)
          have hpast' : (next + length + 32).toNat = m + 20 + length.toNat + 32 := b.toNat_advance hpast rfl hin
          have hpayload := @Buffer.read_inside b _ _ next (next + length) hnext hpast (by omega)
          have hstored : b.read ⟨next + length, next + length + 32⟩ =
              .ok (((b.bytes.drop (m + 20)).drop length.toNat).take 32) := by
            rw [List.drop_drop]
            exact Buffer.read_inside hpast hpast' hin
          have hfollows : next + (length + 32) =
              offset + UInt64.ofNat (kJournalHeaderBytes + length.toNat + 32) := by
            have hleft : (next + (length + 32)).toNat = m + 20 + (length.toNat + 32) :=
              b.toNat_advance hnext hsum (by omega)
            have hsize : (UInt64.ofNat (kJournalHeaderBytes + length.toNat + 32)).toNat =
                kJournalHeaderBytes + length.toNat + 32 := by
              rw [UInt64.toNat_ofNat', kJournalHeaderBytes]
              omega
            have hright := b.toNat_advance ho hsize (by rw [kJournalHeaderBytes]; omega)
            rw [← UInt64.toNat_inj, hleft, hright, kJournalHeaderBytes]
            omega
          rw [if_neg hroom, if_neg hroom, hpayload, ok_bind, hstored, ok_bind]
          by_cases hdigest : (sha256 ((b.bytes.drop (m + 20)).take length.toNat)).bytes ≠
              ((b.bytes.drop (m + 20)).drop length.toNat).take 32
          · rw [if_pos hdigest, if_pos hdigest, FrameScan.placed, hbehind]
          · rw [if_neg hdigest, if_neg hdigest]
            cases deserializeAuditRecord ((b.bytes.drop (m + 20)).take length.toNat) with
            | error status => rw [FrameScan.placed, hbehind]
            | ok record => rw [FrameScan.placed, hfollows]
    · have hfront := @Buffer.read_inside b m 4 offset (offset + 4) ho (b.toNat_advance ho rfl (by omega)) (by omega)
      have hroom : ¬ b.size - offset < UInt64.ofNat (kJournalHeaderBytes + 32) := by
        rw [Buffer.size_sub ho h, UInt64.lt_iff_toNat_lt, UInt64.toNat_ofNat', UInt64.toNat_ofNat', hdrop,
          kJournalHeaderBytes]
        omega
      have hscan : scanFrame maxStateBytes (b.bytes.drop m) = .damaged 0 := by
        unfold scanFrame
        rw [if_neg hlong, if_pos hmagic]
      rw [readFrameAt, if_neg hroom, hfront, ok_bind, if_pos hmagic, hscan, FrameScan.placed, hstay]
      rfl

/-- A frame that overruns: the room check passes, and the payload ends before
it begins or past the buffer. -/
theorem readFrameAt_overruns (ho : offset.toNat = m) (hover : Overruns maxStateBytes (b.bytes.drop m)) :
    ∃ range, readFrameAt maxStateBytes b offset = .error range := by
  obtain ⟨hroom, hmagic, length', rest, hheader', hle, hbig⟩ := hover
  have hlen := b.length_lt
  rw [List.length_drop, kJournalHeaderBytes] at hroom
  obtain ⟨version, length, next, hnext, hheader, hread⟩ :=
    @readFrameAt_header b offset m maxStateBytes ho (by omega) hmagic
  rw [hheader] at hheader'
  obtain ⟨⟨rfl, rfl⟩, rfl⟩ : (version = kJournalFormatVersion ∧ length = length') ∧ b.bytes.drop (m + 20) = rest := by
    simpa using hheader'
  have h32 : (32 : UInt64).toNat = 32 := rfl
  have hlt := length.toNat_lt
  have haccepted : ¬ (kJournalFormatVersion ≠ kJournalFormatVersion ∨ maxStateBytes < length) := by
    simp [UInt64.not_lt.mpr hle]
  have hwraps : ¬ UInt64.ofNat (b.bytes.drop (m + 20)).length < length + 32 := by
    rw [UInt64.lt_iff_toNat_lt, UInt64.toNat_ofNat', UInt64.toNat_add, List.length_drop, h32]
    omega
  have houtside : ¬ Span.Inside ⟨next, next + length⟩ b := by
    unfold Span.Inside
    rw [UInt64.le_iff_toNat_le, UInt64.le_iff_toNat_le, Buffer.toNat_size, UInt64.toNat_add, hnext]
    omega
  refine ⟨⟨next, next + length⟩, ?_⟩
  rw [hread, if_neg haccepted, if_neg hwraps, Buffer.read, if_neg houtside]
  rfl

end

/-! ## Runs of the loop -/

/-- The loop comes to an offset with some records. -/
inductive HeadAt (options : StoreOptions) (b : Buffer) : UInt64 → List AuditRecord → Prop
  | start : HeadAt options b 0 []
  | next {offset next : UInt64} {records : List AuditRecord} {record : AuditRecord}
      (hhead : HeadAt options b offset records) (hlt : offset < b.size)
      (hread : readFrameAt options.maxStateBytes b offset = .ok (.accepted record next))
      (hbound : (records ++ [record]).length ≤ options.maxJournalRecords.toNat) :
      HeadAt options b next (records ++ [record])

/-- A run of the loop that stays inside the buffer: every range it reads or
copies is one of the buffer, every accepted frame moves the offset forward
within it, and so it ends, with what a scan of the bytes finds. -/
structure ReadsInside (options : StoreOptions) (b : Buffer) : Prop where
  inside : ∀ offset records, HeadAt options b offset records → offset < b.size →
    ∀ range, readFrameAt options.maxStateBytes b offset ≠ .error range
  advances : ∀ offset records record next, HeadAt options b offset records → offset < b.size →
    readFrameAt options.maxStateBytes b offset = .ok (.accepted record next) → offset < next ∧ next ≤ b.size
  ends : readFrames options b (b.bytes.length + 1) 0 [] = .ended (scanJournal options b.bytes)

section

variable {options : StoreOptions} {b : Buffer} {offset next : UInt64} {records records' : List AuditRecord}
  {record : AuditRecord} {row frame rest bytes : List UInt8} {maxStateBytes : UInt64} {m n : Nat}

theorem IntactRow.concat (h : IntactRow maxStateBytes records row) (hframe : IntactFrame maxStateBytes record frame) :
    IntactRow maxStateBytes (records ++ [record]) (row ++ frame) := by
  induction h with
  | nil =>
      have hone := IntactRow.cons hframe .nil
      rwa [List.append_nil] at hone
  | cons hfirst _ ih =>
      rw [List.cons_append, List.append_assoc]
      exact .cons hfirst ih

theorem scanFrame_damaged_le (h : scanFrame maxStateBytes bytes = .damaged n) : n ≤ kJournalHeaderBytes := by
  unfold scanFrame at h
  grind [kJournalHeaderBytes]

/-- An intact frame does not overrun: its payload is in the buffer. -/
theorem not_overruns_of_intact (hframe : IntactFrame maxStateBytes record frame)
    (hlen : (frame ++ rest).length < 2 ^ 63) : ¬ Overruns maxStateBytes (frame ++ rest) := by
  intro ⟨_, _, length', rest', hheader', _, hbig⟩
  obtain ⟨header, length, payload, rfl, hheader, hpayload, _, _⟩ := hframe
  have hdrop : (kJournalMagic ++ (header ++ (payload ++ (sha256 payload).bytes)) ++ rest).drop 4 =
      header ++ (payload ++ (sha256 payload).bytes ++ rest) := by
    have h4 : kJournalMagic.length = 4 := rfl
    rw [List.append_assoc, List.drop_left' h4, List.append_assoc]
  rw [hdrop, hheader] at hheader'
  obtain ⟨rfl, -⟩ : length = length' ∧ _ := by simpa using hheader'
  simp only [List.length_append] at hlen
  omega

/-- An intact frame at an offset ends inside the buffer. -/
theorem intact_at (ho : offset.toNat = m) (hscan : scanFrame maxStateBytes (b.bytes.drop m) = .intact record n) :
    ∃ frame rest, b.bytes.drop m = frame ++ rest ∧ frame.length = n ∧ IntactFrame maxStateBytes record frame ∧
      (offset + UInt64.ofNat n).toNat = m + n ∧ m + n ≤ b.bytes.length ∧ 52 ≤ n := by
  have hlen := b.length_lt
  obtain ⟨frame, rest, hbytes, hsize, hframe⟩ := (scanFrame_eq_intact (by rw [List.length_drop]; omega)).mp hscan
  have hlong := hframe.ne_nil
  have hroom := congrArg List.length hbytes
  rw [List.length_append, List.length_drop] at hroom
  have hn : (UInt64.ofNat n).toNat = n := by
    rw [UInt64.toNat_ofNat']
    omega
  exact ⟨frame, rest, hbytes, hsize, hframe, b.toNat_advance ho hn (by omega), by omega, by omega⟩

/-- What a pass accepts, the scan finds intact. -/
theorem scan_of_accepted (ho : offset.toNat = m) (hm : m ≤ b.bytes.length)
    (hsound : ¬ Overruns maxStateBytes (b.bytes.drop m))
    (hread : readFrameAt maxStateBytes b offset = .ok (.accepted record next)) :
    ∃ n, scanFrame maxStateBytes (b.bytes.drop m) = .intact record n ∧ next = offset + UInt64.ofNat n := by
  rw [readFrameAt_eq ho hm hsound] at hread
  cases hscan : scanFrame maxStateBytes (b.bytes.drop m) with
  | damaged n =>
      rw [hscan] at hread
      cases hread
  | intact found n =>
      rw [hscan] at hread
      cases hread
      exact ⟨n, rfl, rfl⟩

/-- Every head stands behind a row of intact frames. -/
theorem HeadAt.behind (hsound : NeverOverruns options b.bytes) (h : HeadAt options b offset records) :
    ∃ row, b.bytes = row ++ b.bytes.drop offset.toNat ∧ IntactRow options.maxStateBytes records row ∧
      offset.toNat = row.length ∧ records.length ≤ options.maxJournalRecords.toNat := by
  induction h with
  | start => exact ⟨[], rfl, .nil, rfl, Nat.zero_le _⟩
  | @next offset next records record _ _ hread hbound ih =>
      obtain ⟨row, hbytes, hrow, ho, hcount⟩ := ih
      have hroom : offset.toNat ≤ b.bytes.length := by
        rw [hbytes, List.length_append]
        omega
      have hnot := hsound _ row _ hbytes hrow hcount
      obtain ⟨n, hscan, rfl⟩ := scan_of_accepted rfl hroom hnot hread
      obtain ⟨frame, rest, hframes, hsize, hframe, hnext, _, _⟩ := intact_at rfl hscan
      have hrest : b.bytes.drop (offset.toNat + n) = rest := by
        rw [← List.drop_drop, hframes, ← hsize, List.drop_left]
      refine ⟨row ++ frame, ?_, hrow.concat hframe, ?_, hbound⟩
      · rw [hnext, hrest, List.append_assoc, ← hframes]
        exact hbytes
      · rw [hnext, List.length_append, hsize, ho]

/-- No frame at a head overruns. -/
theorem HeadAt.sound (hsound : NeverOverruns options b.bytes) (h : HeadAt options b offset records) :
    offset.toNat ≤ b.bytes.length ∧ ¬ Overruns options.maxStateBytes (b.bytes.drop offset.toNat) := by
  obtain ⟨row, hbytes, hrow, ho, hcount⟩ := h.behind hsound
  refine ⟨?_, hsound _ row _ hbytes hrow hcount⟩
  rw [hbytes, List.length_append]
  omega

/-- The loop comes past every row of intact frames, up to its bound of records. -/
theorem HeadAt.past (h : HeadAt options b offset records) (hrow : IntactRow options.maxStateBytes records' row)
    (ho : offset.toNat = m) (hm : m ≤ b.bytes.length) (hbytes : b.bytes.drop m = row ++ rest)
    (hbound : (records ++ records').length ≤ options.maxJournalRecords.toNat) :
    ∃ offset', HeadAt options b offset' (records ++ records') ∧ offset'.toNat = m + row.length := by
  have hlen := b.length_lt
  induction hrow generalizing offset records m with
  | nil =>
      rw [List.append_nil]
      exact ⟨offset, h, ho⟩
  | @cons record records' frame row hframe hrow ih =>
      rw [List.append_assoc] at hbytes
      have hlength := congrArg List.length hbytes
      rw [List.length_drop, List.length_append] at hlength
      have hsize := hframe.ne_nil
      have hscan : scanFrame options.maxStateBytes (b.bytes.drop m) = .intact record frame.length := by
        rw [hbytes]
        refine scanFrame_of_intact hframe ?_
        rw [← hbytes, List.length_drop]
        omega
      have hnot : ¬ Overruns options.maxStateBytes (b.bytes.drop m) := by
        rw [hbytes]
        refine not_overruns_of_intact hframe ?_
        rw [← hbytes, List.length_drop]
        omega
      have hread := readFrameAt_eq ho hm hnot
      rw [hscan, FrameScan.placed] at hread
      have hn : (UInt64.ofNat frame.length).toNat = frame.length := by
        rw [UInt64.toNat_ofNat']
        omega
      have hnext := b.toNat_advance ho hn (by omega)
      have hlt : offset < b.size := by
        rw [UInt64.lt_iff_toNat_lt, Buffer.toNat_size, ho]
        omega
      have hcons : records ++ record :: records' = records ++ [record] ++ records' := by simp
      rw [hcons] at hbound ⊢
      have hfirst : (records ++ [record]).length ≤ options.maxJournalRecords.toNat := by
        rw [List.length_append] at hbound
        omega
      obtain ⟨offset', hhead, hoffset⟩ := ih (.next h hlt hread hfirst) hnext (by omega)
        (by rw [← List.drop_drop, hbytes, List.drop_left]) hbound
      refine ⟨offset', hhead, ?_⟩
      rw [hoffset, List.length_append]
      omega

/-- Where nothing overruns, the loop on offsets is the scan of the bytes. -/
theorem readFrames_eq (hsound : NeverOverruns options b.bytes) {fuel : Nat}
    (hhead : HeadAt options b offset records) (ho : offset.toNat = m) (hm : m ≤ b.bytes.length)
    (hfuel : b.bytes.length < m + fuel) :
    readFrames options b fuel offset records = .ended (scanFrames options fuel (b.bytes.drop m) m records) := by
  have hlen := b.length_lt
  induction fuel generalizing offset records m with
  | zero => omega
  | succ fuel ih =>
      rw [readFrames, scanFrames]
      by_cases hend : m = b.bytes.length
      · have hstop : ¬ offset < b.size := by
          rw [UInt64.lt_iff_toNat_lt, Buffer.toNat_size, ho]
          omega
        rw [if_neg hstop, if_pos (List.drop_eq_nil_of_le (by omega)), ho]
      · have hlt : offset < b.size := by
          rw [UInt64.lt_iff_toNat_lt, Buffer.toNat_size, ho]
          omega
        have hmore : b.bytes.drop m ≠ [] := by
          rw [ne_eq, List.drop_eq_nil_iff]
          omega
        have hnot := (hhead.sound hsound).2
        rw [ho] at hnot
        have hread := readFrameAt_eq ho hm hnot
        rw [if_pos hlt, if_neg hmore, hread]
        cases hscan : scanFrame options.maxStateBytes (b.bytes.drop m) with
        | damaged n =>
            have hn := scanFrame_damaged_le hscan
            have hfinal : (offset + UInt64.ofNat n).toNat = m + n := by
              rw [kJournalHeaderBytes] at hn
              rw [UInt64.toNat_add, UInt64.toNat_ofNat', ho]
              omega
            dsimp only [FrameScan.placed]
            rw [hfinal, ho]
        | intact record n =>
            rw [hscan, FrameScan.placed] at hread
            obtain ⟨frame, rest, _, _, _, hnext, hroom, hsize⟩ := intact_at ho hscan
            dsimp only [FrameScan.placed]
            by_cases hbound : options.maxJournalRecords.toNat < (records ++ [record]).length
            · rw [if_pos hbound, if_pos hbound, hnext, ho]
            · rw [if_neg hbound, if_neg hbound, List.drop_drop]
              exact ih (.next hhead hlt hread (by omega)) hnext hroom (by omega)

/-- **The journal is read inside the buffer** exactly when no frame behind a row
of intact ones announces a length that makes the room check wrap around. -/
theorem reads_inside_iff (options : StoreOptions) (b : Buffer) :
    ReadsInside options b ↔ NeverOverruns options b.bytes := by
  have hlen := b.length_lt
  constructor
  · intro h records row rest hbytes hrow hcount hover
    have hrest : b.bytes.drop row.length = rest := by rw [hbytes, List.drop_left]
    obtain ⟨offset, hhead, hoffset⟩ := HeadAt.start.past hrow (m := 0) rfl (Nat.zero_le _) hbytes hcount
    rw [Nat.zero_add] at hoffset
    have hlt : offset < b.size := by
      have hroom := hover.1
      rw [kJournalHeaderBytes] at hroom
      rw [UInt64.lt_iff_toNat_lt, Buffer.toNat_size, hoffset, hbytes, List.length_append]
      omega
    rw [← hrest] at hover
    obtain ⟨range, hread⟩ := readFrameAt_overruns hoffset hover
    exact h.inside offset _ hhead hlt range hread
  · intro hsound
    refine ⟨fun offset records hhead _ range hread => ?_, fun offset records record next hhead _ hread => ?_, ?_⟩
    · obtain ⟨hroom, hnot⟩ := hhead.sound hsound
      rw [readFrameAt_eq rfl hroom hnot] at hread
      cases hread
    · obtain ⟨hroom, hnot⟩ := hhead.sound hsound
      obtain ⟨n, hscan, rfl⟩ := scan_of_accepted rfl hroom hnot hread
      obtain ⟨frame, rest, _, _, _, hnext, hin, hsize⟩ := intact_at rfl hscan
      rw [UInt64.lt_iff_toNat_lt, UInt64.le_iff_toNat_le, Buffer.toNat_size, hnext]
      omega
    · exact readFrames_eq hsound .start rfl (Nat.zero_le _) (by omega)

/-- One frame that announces a payload of `2 ^ 64 - 1` bytes. -/
def overrunningJournal : Buffer where
  bytes := kJournalMagic ++ (leBytes32 1 ++ (leBytes32 0 ++ (leBytes64 0xFFFFFFFFFFFFFFFF ++ List.replicate 32 0)))
  length_lt := by decide

def unboundedOptions : StoreOptions where
  directory := "d"
  maxStateBytes := 0xFFFFFFFFFFFFFFFF

theorem reads_not_inside : ¬ ∀ (options : StoreOptions) (b : Buffer), options.Accepted → ReadsInside options b := by
  intro h
  have haccepted : unboundedOptions.Accepted := ⟨by decide, by decide, by decide, by decide, by decide⟩
  have hover : Overruns unboundedOptions.maxStateBytes (overrunningJournal.bytes.drop 0) :=
    ⟨by decide, by decide, 0xFFFFFFFFFFFFFFFF, List.replicate 32 0, by decide, by decide, by decide⟩
  obtain ⟨range, hread⟩ := @readFrameAt_overruns overrunningJournal 0 0 _ rfl hover
  exact (h unboundedOptions overrunningJournal haccepted).inside 0 [] .start (by decide) range hread

end

end Oversub
