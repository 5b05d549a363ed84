import Oversub.Journal

/-!
# Oversub.Compacted

What a compaction keeps.  The header promises the newest records; the loop
takes the records of its window from the oldest on and ends at the first frame
that does not fit.  So the two agree where the whole window fits, and next to
never where it does not.
-/

namespace Oversub

open Crash Files

/-! ## Options of an open store -/

/-- Options that `Store::open` accepts. -/
structure StoreOptions.Accepted (o : StoreOptions) : Prop where
  directory : o.directory ≠ ""
  stateBytes : o.maxStateBytes ≠ 0
  journalBytes : o.maxJournalBytes ≠ 0
  journalRecords : o.maxJournalRecords ≠ 0
  auditRecords : o.maxAuditRecords ≠ 0 ∧ o.maxAuditRecords.toNat ≤ kMaxAuditRecords

theorem Store.meets_open_accepted {s : Store} {o : StoreOptions} {w : World FileName} :
    Meets (s.open o) (fun r _ => r.1.isOk = true → o.Accepted ∧ r.2.options = o) (fun _ => True) w := by
  unfold Store.open
  split
  · exact nofun
  next hdirectory =>
    split
    · exact nofun
    next hbounds =>
      split
      · exact nofun
      next haudit =>
        simp only [not_or, Nat.not_lt] at hbounds haudit
        have haccepted : o.Accepted := ⟨hdirectory, hbounds.1, hbounds.2.1, hbounds.2.2, haudit⟩
        rw [meets_bind]
        exact meets_attempt (fun _ => ⟨haccepted, rfl⟩) (fun _ => nofun) trivial

/-! ## Rows of frames -/

section

variable {records records' : List AuditRecord}

theorem length_le_frames : 52 * records.length ≤ (frames records).length := by
  induction records with
  | nil => simp
  | cons record records ih =>
      have hframe := @length_recordFrame record
      simp only [List.length_cons, frames_cons, List.length_append]
      omega

theorem length_payload_le {record : AuditRecord} (h : record ∈ records) :
    (writeAuditRecord record).length ≤ (frames records).length := by
  induction records with
  | nil => simp at h
  | cons r records ih =>
      have hframe := @length_recordFrame r
      simp only [frames_cons, List.length_append]
      rcases List.mem_cons.mp h with rfl | h
      · omega
      · have hrest := ih h
        omega

theorem length_frames_le_of_prefix (h : records' <+: records) :
    (frames records').length ≤ (frames records).length := by
  obtain ⟨rest, rfl⟩ := h
  simp [frames_append]

theorem length_frames_le_of_suffix (h : records' <:+ records) :
    (frames records').length ≤ (frames records).length := by
  obtain ⟨rest, rfl⟩ := h
  simp [frames_append]

/-- A reader without bounds. -/
def boundless : StoreOptions := { maxStateBytes := UInt64.ofNat u64Max, maxJournalRecords := UInt64.ofNat u64Max }

/-- A row of frames is that of one list of records. -/
theorem frames_inj (hfits : SummariesFit records) (hfits' : SummariesFit records')
    (hlen : (frames records).length < 2 ^ 64) (h : frames records = frames records') : records = records' := by
  have hread {l : List AuditRecord} (hfits : SummariesFit l) (hlen : (frames l).length < 2 ^ 64) :
      (scanJournal boundless (frames l)).records = l := by
    have hmax : (UInt64.ofNat u64Max).toNat = 2 ^ 64 - 1 := rfl
    have hscan := @scanned_journal l [] boundless (.inl rfl) hfits (by rwa [List.append_nil])
    rw [List.append_nil] at hscan
    have hwithin : WithinBounds boundless 0 l := by
      have hcount := @length_le_frames l
      refine ⟨fun r hr => ?_, ?_⟩
      · have hpayload := length_payload_le hr
        rw [boundless, hmax]
        omega
      · rw [boundless, hmax]
        omega
    rw [hscan.records_eq]
    exact readable_eq hwithin
  have hleft := hread hfits hlen
  rw [h] at hlen hleft
  rw [← hleft, hread hfits' hlen]

end

/-! ## From the front -/

section

variable {maxBytes n : Nat} {records other : List AuditRecord}

/-- No longer row from the front would fit. -/
theorem prefix_fitting (h : other <+: records) (hbytes : n + (frames other).length ≤ maxBytes) :
    other <+: fitting maxBytes n records := by
  induction records generalizing n other with
  | nil =>
      rw [List.prefix_nil] at h
      rw [h]
      exact List.nil_prefix
  | cons record records ih =>
      cases other with
      | nil => exact List.nil_prefix
      | cons r other =>
          obtain ⟨rfl, hother⟩ := List.cons_prefix_cons.mp h
          rw [frames_cons, List.length_append] at hbytes
          rw [fitting, if_neg (by omega)]
          exact List.cons_prefix_cons.mpr ⟨rfl, ih hother (by omega)⟩

theorem fitting_eq_take (hn : n < records.length) (hbytes : (frames (records.take n)).length ≤ maxBytes)
    (hmore : maxBytes < (frames (records.take (n + 1))).length) : fitting maxBytes 0 records = records.take n := by
  have hle : records.take n <+: fitting maxBytes 0 records :=
    prefix_fitting (List.take_prefix _ _) (by omega)
  have hbound : 0 + (frames (fitting maxBytes 0 records)).length ≤ maxBytes := length_fitting (Nat.zero_le _)
  have hfirst : fitting maxBytes 0 records <+: records := fitting_prefix
  have hlong : (fitting maxBytes 0 records).length ≤ n := by
    by_contra hlong
    have hlonger : records.take (n + 1) <+: fitting maxBytes 0 records :=
      List.prefix_of_prefix_length_le (List.take_prefix _ _) hfirst (by rw [List.length_take]; omega)
    have hframes := length_frames_le_of_prefix hlonger
    omega
  refine (hle.eq_of_length_le ?_).symm
  rw [List.length_take]
  omega

end

/-! ## The newest records -/

/-- How many records a compaction may keep. -/
def compactionLimit (o : StoreOptions) (keep : UInt64) : Nat := (min keep o.maxJournalRecords).toNat

/-- The records a compaction looks at. -/
def compactionWindow (o : StoreOptions) (records : List AuditRecord) (keep : UInt64) : List AuditRecord :=
  records.drop (records.length - compactionLimit o keep)

/-- The newest records, as many as the bounds have room for. -/
structure NewestKept (o : StoreOptions) (records : List AuditRecord) (keep : UInt64) (kept : List AuditRecord) :
    Prop where
  suffix : kept <:+ records
  count : kept.length ≤ compactionLimit o keep
  bytes : (frames kept).length ≤ o.maxJournalBytes.toNat
  longest : ∀ other, other <:+ records → other.length ≤ compactionLimit o keep →
    (frames other).length ≤ o.maxJournalBytes.toNat → other.length ≤ kept.length

section

variable {o : StoreOptions} {records kept kept' other : List AuditRecord} {keep : UInt64} {n : Nat}

theorem NewestKept.unique (h : NewestKept o records keep kept) (h' : NewestKept o records keep kept') : kept = kept' := by
  have hle := h.longest kept' h'.suffix h'.count h'.bytes
  have hle' := h'.longest kept h.suffix h.count h.bytes
  exact (List.suffix_of_suffix_length_le h.suffix h'.suffix hle').eq_of_length (by omega)

/-- The newest record is among them if there is room for it. -/
theorem NewestKept.last {record : AuditRecord} (h : NewestKept o records keep kept)
    (hlast : records.getLast? = some record) (hframe : (recordFrame record).length ≤ o.maxJournalBytes.toNat)
    (hlimit : 0 < compactionLimit o keep) : record ∈ kept := by
  have hsuffix : [record] <:+ records := by
    obtain ⟨before, rfl⟩ := List.getLast?_eq_some_iff.mp hlast
    exact List.suffix_append _ _
  have hlength := h.longest [record] hsuffix hlimit (by rwa [frames_singleton])
  exact (List.suffix_of_suffix_length_le hsuffix h.suffix hlength).subset List.mem_cons_self

theorem compactionWindow_suffix : compactionWindow o records keep <:+ records := List.drop_suffix _ _

theorem length_compactionWindow : (compactionWindow o records keep).length ≤ compactionLimit o keep := by
  rw [compactionWindow, List.length_drop]
  omega

/-- The window holds every row of newest records that is short enough. -/
theorem suffix_window (h : other <:+ records) (hcount : other.length ≤ compactionLimit o keep) :
    other <:+ compactionWindow o records keep := by
  have hlength := h.length_le
  refine List.suffix_of_suffix_length_le h compactionWindow_suffix ?_
  rw [compactionWindow, List.length_drop]
  omega

/-- A window that fits is kept whole. -/
theorem newest_window (h : (frames (compactionWindow o records keep)).length ≤ o.maxJournalBytes.toNat) :
    NewestKept o records keep (compactionWindow o records keep) where
  suffix := compactionWindow_suffix
  count := length_compactionWindow
  bytes := h
  longest _ hsuffix hcount _ := (suffix_window hsuffix hcount).length_le

/-- The last `n` records of the window, where they fit and one more would not. -/
theorem newest_drop (hn : n < (compactionWindow o records keep).length)
    (hbytes : (frames ((compactionWindow o records keep).drop
      ((compactionWindow o records keep).length - n))).length ≤ o.maxJournalBytes.toNat)
    (hmore : o.maxJournalBytes.toNat < (frames ((compactionWindow o records keep).drop
      ((compactionWindow o records keep).length - (n + 1)))).length) :
    NewestKept o records keep ((compactionWindow o records keep).drop
      ((compactionWindow o records keep).length - n)) where
  suffix := (List.drop_suffix _ _).trans compactionWindow_suffix
  count := by
    have hlength := @length_compactionWindow o records keep
    rw [List.length_drop]
    omega
  bytes := hbytes
  longest other hsuffix hcount hother := by
    have hwindow := suffix_window hsuffix hcount
    have hlength := hwindow.length_le
    by_contra hlong
    rw [List.length_drop] at hlong
    have hlonger : (compactionWindow o records keep).drop ((compactionWindow o records keep).length - (n + 1)) <:+
        other := List.suffix_of_suffix_length_le (List.drop_suffix _ _) hwindow (by rw [List.length_drop]; omega)
    have hframes := length_frames_le_of_suffix hlonger
    omega

/-- Rows from both ends of the window that are as long as the bytes allow, and
of the same records. -/
def EndsAlike (o : StoreOptions) (window : List AuditRecord) : Prop :=
  ∃ n < window.length, window.take n = window.drop (window.length - n) ∧
    (frames (window.take n)).length ≤ o.maxJournalBytes.toNat ∧
    o.maxJournalBytes.toNat < (frames (window.take (n + 1))).length ∧
    o.maxJournalBytes.toNat < (frames (window.drop (window.length - (n + 1)))).length

/-- **From the front or from the back**: the first records of the window that
fit are the newest ones that do. -/
theorem newest_fitting_iff : NewestKept o records keep
      (fitting o.maxJournalBytes.toNat 0 (compactionWindow o records keep)) ↔
    (frames (compactionWindow o records keep)).length ≤ o.maxJournalBytes.toNat ∨
      EndsAlike o (compactionWindow o records keep) := by
  constructor
  · intro h
    by_cases hfits : (frames (compactionWindow o records keep)).length ≤ o.maxJournalBytes.toNat
    · exact .inl hfits
    right
    have hfirst : fitting o.maxJournalBytes.toNat 0 (compactionWindow o records keep) <+:
        compactionWindow o records keep := fitting_prefix
    have hsuffix := suffix_window h.suffix h.count
    have hbytes := h.bytes
    have hlongest := h.longest
    have hmaximal {other : List AuditRecord} (hother : other <+: compactionWindow o records keep)
        (hle : (frames other).length ≤ o.maxJournalBytes.toNat) :
        other <+: fitting o.maxJournalBytes.toNat 0 (compactionWindow o records keep) :=
      prefix_fitting hother (by omega)
    generalize fitting o.maxJournalBytes.toNat 0 (compactionWindow o records keep) = row at *
    have hlength : row.length < (compactionWindow o records keep).length := by
      by_contra hlength
      rw [hfirst.eq_of_length_le (by omega)] at hbytes
      exact hfits hbytes
    have htake : (compactionWindow o records keep).take row.length = row := (List.prefix_iff_eq_take.mp hfirst).symm
    have hdrop : (compactionWindow o records keep).drop
        ((compactionWindow o records keep).length - row.length) = row := (List.suffix_iff_eq_drop.mp hsuffix).symm
    refine ⟨row.length, hlength, htake.trans hdrop.symm, htake.symm ▸ hbytes, ?_, ?_⟩
    · by_contra hmore
      have hle := (hmaximal (List.take_prefix (row.length + 1) _) (by omega)).length_le
      rw [List.length_take] at hle
      omega
    · by_contra hmore
      have hcount := @length_compactionWindow o records keep
      have hlast : (compactionWindow o records keep).drop
          ((compactionWindow o records keep).length - (row.length + 1)) <:+ records :=
        (List.drop_suffix _ _).trans compactionWindow_suffix
      have hle := hlongest _ hlast (by rw [List.length_drop]; omega) (by omega)
      rw [List.length_drop] at hle
      omega
  · intro h
    rcases h with hfits | ⟨n, hn, hsame, hbytes, hfront, hback⟩
    · rw [fitting_eq (by omega)]
      exact newest_window hfits
    · rw [fitting_eq_take hn hbytes hfront, hsame]
      rw [hsame] at hbytes
      exact newest_drop hn hbytes hback

end

/-! ## A compaction -/

namespace Store

variable {s s' : Store} {records kept : List AuditRecord} {keep : UInt64} {w w' : World FileName} {status : Status}

/-- The journal that a compaction leaves. -/
theorem meets_compactJournal_fitting : Meets (s.compactJournal records keep)
    (fun r w' => r.1.isOk = true →
      SummariesFit (fitting s.options.maxJournalBytes.toNat 0 (compactionWindow s.options records keep)) ∧
        w'.disk .journal =
          some (frames (fitting s.options.maxJournalBytes.toNat 0 (compactionWindow s.options records keep))))
    (fun _ => True) w := by
  unfold compactJournal
  split
  · exact nofun
  dsimp only
  cases hcompact : compactFrames s.options.maxJournalBytes
    (records.drop (records.length - (min keep s.options.maxJournalRecords).toNat)) [] 0 with
  | error status =>
      have hstatus : status = auditTooLong := compactFrames_error hcompact
      rw [hstatus]
      exact nofun
  | ok r =>
      obtain ⟨hfits, rfl⟩ := compactFrames_of_ok hcompact
      rw [meets_bind]
      refine meets_writeFileAtomic.mono (fun status w' hdisk => ?_) fun _ _ => trivial
      split
      next hok =>
        rw [if_pos hok] at hdisk
        exact fun _ => ⟨hfits, by rw [hdisk, replaced_self, List.nil_append]; rfl⟩
      next hok => exact fun hok' => absurd hok' hok

/-- The journal holds the newest records and nothing else. -/
def KeepsNewest (s : Store) (records : List AuditRecord) (keep : UInt64) (disk : Disk) : Prop :=
  ∃ kept, NewestKept s.options records keep kept ∧ disk .journal = some (frames kept)

/-- **A compaction keeps the newest records** exactly when its window fits, or
begins with the records it ends with. -/
theorem compactJournal_newest_iff (hfits : SummariesFit records)
    (hrun : s.compactJournal records keep w = (some (status, s'), w')) (hok : status.isOk = true) :
    KeepsNewest s records keep w'.disk ↔
      (frames (compactionWindow s.options records keep)).length ≤ s.options.maxJournalBytes.toNat ∨
        EndsAlike s.options (compactionWindow s.options records keep) := by
  obtain ⟨hfitting, hjournal⟩ := meets_compactJournal_fitting.returned hrun hok
  rw [← newest_fitting_iff]
  constructor
  · intro ⟨kept, hnewest, hkept⟩
    rw [hjournal, Option.some.injEq] at hkept
    have hbytes : 0 + (frames (fitting s.options.maxJournalBytes.toNat 0
        (compactionWindow s.options records keep))).length ≤ s.options.maxJournalBytes.toNat :=
      length_fitting (Nat.zero_le _)
    have hmax := s.options.maxJournalBytes.toNat_lt
    have hsummaries : SummariesFit kept := fun r hr => hfits r (hnewest.suffix.subset hr)
    rwa [frames_inj hfitting hsummaries (by omega) hkept]
  · intro hnewest
    exact ⟨_, hnewest, hjournal⟩

/-- A compaction of an open store gets through. -/
theorem completes_compactJournal {disk : Disk} (hopen : s.isOpen = true) (hfits : SummariesFit records) :
    ∃ s', Completes (s.compactJournal records keep) disk (.success, s') (replaced disk .journal
      (frames (fitting s.options.maxJournalBytes.toNat 0 (compactionWindow s.options records keep)))) := by
  have hwindow : SummariesFit (compactionWindow s.options records keep) := fun r hr =>
    hfits r (compactionWindow_suffix.subset hr)
  obtain ⟨r, hr⟩ := @compactFrames_isOk _ s.options.maxJournalBytes [] 0 hwindow
  obtain ⟨_, rfl⟩ := compactFrames_of_ok hr
  rw [List.nil_append] at hr
  unfold compactJournal
  rw [if_neg (by simp [hopen])]
  dsimp only
  rw [← compactionLimit, ← compactionWindow, hr]
  exact ⟨_, completes_writeFileAtomic.bind completes_pure⟩

end Store

/-! ## Two records -/

def olderRecord : AuditRecord := { id := ⟨1⟩ }

def newerRecord : AuditRecord := { id := ⟨2⟩ }

/-- A store whose journal has room for some bytes. -/
def storeWithin (maxJournalBytes : UInt64) : Store where
  options := { directory := "state", maxJournalBytes }
  isOpen := true

theorem length_olderRecord : (recordFrame olderRecord).length = 254 := by
  rw [length_recordFrame, length_writeAuditRecord (by decide)]
  rfl

theorem length_newerRecord : (recordFrame newerRecord).length = 254 := by
  rw [length_recordFrame, length_writeAuditRecord (by decide)]
  rfl

theorem summariesFit_two : SummariesFit [olderRecord, newerRecord] := by
  simp [SummariesFit, olderRecord, newerRecord]

theorem compactionWindow_two {maxJournalBytes : UInt64} :
    compactionWindow (storeWithin maxJournalBytes).options [olderRecord, newerRecord] 2 =
      [olderRecord, newerRecord] := rfl

namespace Store

/-- Where both fit, both are kept. -/
theorem compactJournal_newest_sample : ∃ s' w',
    (storeWithin 508).compactJournal [olderRecord, newerRecord] 2 ⟨fun _ => none, []⟩ =
        (some (.success, s'), w') ∧
      KeepsNewest (storeWithin 508) [olderRecord, newerRecord] 2 w'.disk := by
  obtain ⟨s', hrun⟩ := @completes_compactJournal (storeWithin 508) _ 2 (fun _ => none) rfl summariesFit_two
  refine ⟨s', _, hrun, (compactJournal_newest_iff summariesFit_two hrun rfl).mpr (.inl ?_)⟩
  rw [compactionWindow_two, frames_cons, frames_singleton, List.length_append, length_olderRecord,
    length_newerRecord]
  decide

/-- Where one of two records fits, the older one is kept. -/
theorem compactJournal_not_newest : ¬ ∀ (s s' : Store) (records : List AuditRecord) (keep : UInt64)
    (w w' : World FileName) (status : Status), s.isOpen = true → s.options.Accepted → SummariesFit records →
    s.compactJournal records keep w = (some (status, s'), w') → status.isOk = true →
    KeepsNewest s records keep w'.disk := by
  intro h
  obtain ⟨s', hrun⟩ := @completes_compactJournal (storeWithin 254) _ 2 (fun _ => none) rfl summariesFit_two
  have haccepted : (storeWithin 254).options.Accepted :=
    ⟨by decide, by decide, by decide, by decide, by decide, by decide⟩
  have hone : fitting 254 0 [olderRecord, newerRecord] = [olderRecord] := by
    simp [fitting, length_olderRecord, length_newerRecord]
  have hbytes : (storeWithin 254).options.maxJournalBytes.toNat = 254 := rfl
  obtain ⟨kept, hnewest, hkept⟩ := h _ _ _ _ _ _ _ rfl haccepted summariesFit_two hrun rfl
  dsimp only at hkept
  rw [replaced_self, compactionWindow_two, hbytes, hone, Option.some.injEq] at hkept
  have hfits : SummariesFit kept := fun r hr => summariesFit_two r (hnewest.suffix.subset hr)
  have hsame := frames_inj (by simp [SummariesFit, olderRecord])
    hfits (by rw [frames_singleton, length_olderRecord]; decide) hkept
  have hlast : newerRecord ∈ kept := hnewest.last rfl (by rw [length_newerRecord]; decide) (by decide)
  rw [← hsame, List.mem_singleton] at hlast
  cases hlast

end Store

end Oversub
