import Oversub.Runtime.Progress
import Oversub.Runtime.Books

/-!
# Oversub.Runtime.Logs

The journal while no write to it leaves a part behind.  It is a row of whole
frames that the store has counted; an append adds the frame of its record, or
finds the journal full, and a full journal is first cut down to what is left of
the history.
-/

namespace Oversub

open Crash Files

/-! ## Appending -/

namespace Store

variable {s s' : Store} {disk disk' : Disk} {rs : List AuditRecord} {record : AuditRecord}

/-- The journal of a directory has some records, and the store has counted
them. -/
structure Journals (s : Store) (disk : Disk) (rs : List AuditRecord) : Prop where
  framed : Framed disk rs []
  counts : Counts s disk rs

/-- A store that counts the records `rs`. -/
def counting (s : Store) (rs : List AuditRecord) : Store :=
  { s with
    journalBytes := UInt64.ofNat (frames rs).length
    journalRecords := UInt64.ofNat rs.length }

theorem Journals.bytes_eq (h : s.Journals disk rs) : s.journalBytes = UInt64.ofNat (frames rs).length := by
  rw [h.counts.bytes, h.framed.bytes, List.append_nil]

theorem journals_counting (hopen : s.isOpen = true) (h : Framed disk rs []) :
    (s.counting rs).Journals disk rs := by
  refine ⟨h, hopen, ?_, rfl⟩
  rw [h.bytes, List.append_nil, counting]

/-- A store that has counted its journal. -/
theorem Journals.eq_counting (h : s.Journals disk rs) : s.counting rs = s := by
  unfold counting
  rw [← h.bytes_eq, ← h.counts.records]

theorem Journals.appending (h : s.Journals disk rs) (hfits : record.summary.length ≤ kMaxAuditSummary) :
    (s.appending record).Journals (appended disk .journal (recordFrame record)) (rs ++ [record]) := by
  have hframed := h.framed.append hfits
  refine ⟨hframed, h.counts.isOpen, ?_, ?_⟩
  · rw [hframed.bytes, List.append_nil, frames_append, frames_singleton, List.length_append,
      UInt64.ofNat_add, ← h.bytes_eq, Store.appending]
  · rw [List.length_append, List.length_singleton, UInt64.ofNat_add, ← h.counts.records,
      Store.appending]
    rfl

theorem Journals.congr (h : s.Journals disk rs) (hdisk : disk' .journal = disk .journal)
    (hopen : s'.isOpen = s.isOpen) (hbytes : s'.journalBytes = s.journalBytes)
    (hrecords : s'.journalRecords = s.journalRecords) : s'.Journals disk' rs := by
  refine ⟨h.framed.congr hdisk, hopen.trans h.counts.isOpen, ?_, hrecords.trans h.counts.records⟩
  rw [hbytes, h.counts.bytes, hdisk]

/-- What an append reports of a full journal. -/
def journalFull : Status :=
  .failure .overflow .persistenceTooLarge "journal bound reached; compaction required"

/-- How an append ends where no write fails. -/
inductive Appends (s : Store) (disk : Disk) (record : AuditRecord) : Status × Store → Disk → Prop
  | done (hroom : s.HasRoom record) :
      Appends s disk record (.success, s.appending record) (appended disk .journal (recordFrame record))
  | full (hfull : ¬ s.HasRoom record) : Appends s disk record (journalFull, s) disk

/-- How an append ends that fails and leaves nothing behind. -/
structure Misses (s : Store) (disk : Disk) (r : Status × Store) (disk' : Disk) : Prop where
  bad : r.1.isOk = false
  code : r.1.code ≠ .overflow
  store : r.2 = s
  disk : disk' = appended disk .journal []

theorem meets_appendAudit {w : World FileName} (hw : w.Clean) (hopen : s.isOpen = true)
    (hfits : record.summary.length ≤ kMaxAuditSummary) : Meets (s.appendAudit record)
      (fun r w' => w'.fates ⊆ w.fates ∧ (Appends s w.disk record r w'.disk ∨
        s.HasRoom record ∧ w.Failing ∧ Misses s w.disk r w'.disk))
      (fun w' => s.HasRoom record ∧
        ∃ kept, w'.disk = appended w.disk .journal ((recordFrame record).take kept)) w := by
  have hframe : journalFrame record = .ok (recordFrame record) := journalFrame_eq_ok.mpr ⟨hfits, rfl⟩
  unfold appendAudit
  rw [if_neg (by simp [hopen]), hframe]
  dsimp only
  split
  next hfull =>
    refine ⟨List.Subset.refl _, .inl (.full fun hroom => ?_)⟩
    rcases hfull with h | h
    · exact UInt64.not_le.mpr h hroom.bytes
    · exact UInt64.not_le.mpr h hroom.records
  next hroom =>
    rw [not_or, UInt64.not_lt, UInt64.not_lt] at hroom
    have hroom' : s.HasRoom record := ⟨hopen, hfits, hroom.1, hroom.2⟩
    rw [meets_bind, appendFile, meets_bind]
    refine (meets_append_clean hw).mono (fun ok w' h => ?_) fun w' hcrashed => ⟨hroom', hcrashed⟩
    obtain ⟨hsub, ⟨hok, hdisk⟩ | ⟨hok, hfailing, hdisk⟩⟩ := h
    · have hdone : Appends s w.disk record (.success, s.appending record) w'.disk := by
        rw [hdisk]
        exact .done hroom'
      rw [hok]
      exact ⟨hsub, .inl hdone⟩
    · rw [hok]
      exact ⟨hsub, .inr ⟨hroom', hfailing, rfl, fun heq => (by cases heq), rfl, hdisk⟩⟩

end Store

namespace Governor

variable {g g' : Governor} {disk disk' : Disk} {rs rs' : List AuditRecord} {record : AuditRecord}

/-! ## Compaction -/

theorem min_min_self (a b : UInt64) : min (min a b) b = min a b := by
  have hmin (a b : UInt64) : min a b = if a ≤ b then a else b := rfl
  by_cases h : a ≤ b
  · simp [hmin, h]
  · simp [hmin, h]

/-- The newest records of the history, as many as a compaction keeps. -/
def window (g : Governor) : List AuditRecord :=
  let keep := min g.options.journalCompactionRecords g.options.maxJournalRecords
  g.state.audit.drop (g.state.audit.length - keep.toNat)

/-- Those of them that a compaction writes to the journal. -/
def kept (g : Governor) : List AuditRecord := fitting g.options.maxJournalBytes.toNat 0 g.window

/-- The governor after a compaction. -/
def compacting (g : Governor) : Governor :=
  { g with
    store := g.store.counting g.kept
    state := { g.state with audit := g.window }
    stateDirty := true }

/-- The journal of a runtime. -/
structure Journaling (g : Governor) (disk : Disk) (rs : List AuditRecord) : Prop where
  journals : g.store.Journals disk rs
  options : g.store.options = g.options.storeOptions

theorem Journaling.congr (h : Journaling g disk rs) (hdisk : disk' .journal = disk .journal)
    (hstore : g'.store = g.store) (hoptions : g'.options = g.options) : Journaling g' disk' rs := by
  refine ⟨?_, ?_⟩
  · rw [hstore]
    exact h.journals.congr hdisk rfl rfl rfl
  · rw [hstore, hoptions]
    exact h.options

theorem Journaling.withRuling (h : Journaling g disk rs) {domain : OversubscriptionDomainId} {r : Ruling} :
    Journaling (g.withRuling domain r) disk rs := h.congr rfl rfl rfl

/-- How a compaction ends where no write fails. -/
inductive Compacts (g : Governor) (disk : Disk) : Status × Governor → Disk → Prop
  | done (hfits : SummariesFit g.kept) :
      Compacts g disk (.success, g.compacting) (replaced disk .journal (frames g.kept))
  | unfit (hunfit : ¬ SummariesFit g.window) : Compacts g disk (auditTooLong, g) disk

theorem meets_compactJournal {w : World FileName} (h : Journaling g w.disk rs) :
    Meets g.compactJournal (fun r w' => w'.fates ⊆ w.fates ∧ (Compacts g w.disk r w'.disk ∨
        w.Failing ∧ r.1.isOk = false ∧ r.2 = g ∧ w'.disk = w.disk))
      (fun w' => w'.disk = w.disk ∨
        SummariesFit g.kept ∧ w'.disk = replaced w.disk .journal (frames g.kept)) w := by
  have hkeep : min (min g.options.journalCompactionRecords g.options.maxJournalRecords)
      g.store.options.maxJournalRecords =
        min g.options.journalCompactionRecords g.options.maxJournalRecords := by
    rw [h.options]
    exact min_min_self _ _
  have hbytes : g.store.options.maxJournalBytes = g.options.maxJournalBytes := by
    rw [h.options]
    rfl
  unfold compactJournal Store.compactJournal
  dsimp only
  rw [hkeep, hbytes, if_neg (by simp [h.journals.counts.isOpen]), meets_bind]
  cases hcompact : compactFrames g.options.maxJournalBytes
    (g.state.audit.drop (g.state.audit.length -
      (min g.options.journalCompactionRecords g.options.maxJournalRecords).toNat)) [] 0 with
  | error status =>
      have hstatus : status = auditTooLong := compactFrames_error hcompact
      have hunfit : ¬ SummariesFit g.window := fun hfits => by
        obtain ⟨r, hr⟩ := compactFrames_isOk hfits
        rw [window, hcompact] at hr
        cases hr
      dsimp only
      rw [meets_pure]
      rw [hstatus]
      exact ⟨List.Subset.refl _, .inl (.unfit hunfit)⟩
  | ok r =>
      obtain ⟨hfits, rfl⟩ := compactFrames_of_ok hcompact
      dsimp only
      rw [List.nil_append, Nat.zero_add, List.length_nil, writeFileAtomic, meets_bind, meets_bind]
      refine meets_replace_tried.mono (fun ok w' ⟨hsub, hend⟩ => ?_) fun w' hdisk => ?_
      · rcases hend with ⟨hok, _, hdisk⟩ | ⟨hok, hfailing, hdisk⟩
        · have hdone : Compacts g w.disk (.success, g.compacting) w'.disk := by
            rw [hdisk]
            exact .done hfits
          rw [hok]
          exact ⟨hsub, .inl hdone⟩
        · rw [hok]
          exact ⟨hsub, .inr ⟨hfailing, rfl, rfl, hdisk⟩⟩
      · exact hdisk.imp_right fun hdisk => ⟨hfits, hdisk⟩

theorem journaling_compacting (h : Journaling g disk rs) (hfits : SummariesFit g.kept) :
    Journaling g.compacting (replaced disk .journal (frames g.kept)) g.kept :=
  ⟨Store.journals_counting h.journals.counts.isOpen (framed_replaced hfits), h.options⟩

/-! ## A record -/

/-- A journal that is ready for a record: it has room, or it was full and is
compacted. -/
inductive Readies (g : Governor) (disk : Disk) (rs : List AuditRecord) (record : AuditRecord) :
    Governor → Disk → List AuditRecord → Prop
  | room (hroom : g.store.HasRoom record) : Readies g disk rs record g disk rs
  | compacted (hfull : ¬ g.store.HasRoom record) (hfits : SummariesFit g.kept) :
      Readies g disk rs record g.compacting (replaced disk .journal (frames g.kept)) g.kept

theorem Readies.journaling (hr : Readies g disk rs record g' disk' rs') (h : Journaling g disk rs) :
    Journaling g' disk' rs' := by
  cases hr with
  | room => exact h
  | compacted _ hfits => exact journaling_compacting h hfits

/-- How a record is appended where no write fails. -/
inductive Appends (g : Governor) (disk : Disk) (rs : List AuditRecord) (record : AuditRecord) :
    Status × Governor → Disk → List AuditRecord → Prop
  | done {g₁ : Governor} {disk₁ : Disk} {rs₁ : List AuditRecord}
      (hready : Readies g disk rs record g₁ disk₁ rs₁) (hroom : g₁.store.HasRoom record) :
      Appends g disk rs record (.success, g₁.journaled record)
        (appended disk₁ .journal (recordFrame record)) (rs₁ ++ [record])
  | full {g₁ : Governor} {disk₁ : Disk} {rs₁ : List AuditRecord}
      (hready : Readies g disk rs record g₁ disk₁ rs₁) (hfull : ¬ g₁.store.HasRoom record) :
      Appends g disk rs record (Store.journalFull, g₁) disk₁ rs₁
  | unfit (hfull : ¬ g.store.HasRoom record) (hunfit : ¬ SummariesFit g.window) :
      Appends g disk rs record (auditTooLong, g) disk rs

/-- How an append ends where a write fails and leaves nothing behind. -/
inductive Misses (g : Governor) (disk : Disk) (rs : List AuditRecord) (record : AuditRecord) :
    Status × Governor → Disk → List AuditRecord → Prop
  | unready {status : Status} (hbad : status.isOk = false) : Misses g disk rs record (status, g) disk rs
  | unwritten {status : Status} {g₁ : Governor} {disk₁ : Disk} {rs₁ : List AuditRecord}
      (hready : Readies g disk rs record g₁ disk₁ rs₁) (hbad : status.isOk = false) :
      Misses g disk rs record (status, g₁) (appended disk₁ .journal []) rs₁

/-- How far an append has come where the process crashes. -/
inductive Stops (g : Governor) (disk : Disk) (rs : List AuditRecord) (record : AuditRecord) : Disk → Prop
  | before : Stops g disk rs record disk
  | ready {g₁ : Governor} {disk₁ : Disk} {rs₁ : List AuditRecord}
      (hready : Readies g disk rs record g₁ disk₁ rs₁) : Stops g disk rs record disk₁
  | within {g₁ : Governor} {disk₁ : Disk} {rs₁ : List AuditRecord}
      (hready : Readies g disk rs record g₁ disk₁ rs₁) (hroom : g₁.store.HasRoom record) (kept : Nat) :
      Stops g disk rs record (appended disk₁ .journal ((recordFrame record).take kept))

theorem journaling_journaled (h : Journaling g disk rs) (hroom : g.store.HasRoom record) :
    Journaling (g.journaled record) (appended disk .journal (recordFrame record)) (rs ++ [record]) :=
  ⟨h.journals.appending hroom.fits, h.options⟩

theorem Appends.journaling {status : Status} (ha : Appends g disk rs record (status, g') disk' rs')
    (h : Journaling g disk rs) : Journaling g' disk' rs' := by
  cases ha with
  | done hready hroom => exact journaling_journaled (hready.journaling h) hroom
  | full hready => exact hready.journaling h
  | unfit => exact h

/-- Nothing at the end of the journal is nothing. -/
theorem Journaling.appended_nil (h : Journaling g disk rs) : Journaling g (appended disk .journal []) rs := by
  have hbytes : (appended disk .journal [] .journal).getD [] = (disk .journal).getD [] := by
    rw [appended_self, Option.getD_some, List.append_nil]
  refine ⟨⟨⟨hbytes.trans h.journals.framed.bytes, h.journals.framed.fits, .inl rfl⟩,
    h.journals.counts.isOpen, ?_, h.journals.counts.records⟩, h.options⟩
  rw [hbytes]
  exact h.journals.counts.bytes

theorem Misses.journaling {r : Status × Governor} (hm : Misses g disk rs record r disk' rs')
    (h : Journaling g disk rs) : Journaling r.2 disk' rs' := by
  cases hm with
  | unready => exact h
  | unwritten hready => exact (hready.journaling h).appended_nil

theorem Misses.bad {r : Status × Governor} (hm : Misses g disk rs record r disk' rs') : r.1.isOk = false := by
  cases hm with
  | unready hbad => exact hbad
  | unwritten _ hbad => exact hbad

theorem Appends.success {r : Status × Governor} (ha : Appends g disk rs record r disk' rs')
    (hok : r.1.isOk = true) : r.1 = .success := by
  cases ha with
  | done => rfl
  | full => cases hok
  | unfit => cases hok

/-- A record that was appended. -/
theorem Appends.inv {r : Status × Governor} (ha : Appends g disk rs record r disk' rs')
    (hok : r.1.isOk = true) : ∃ g₁ disk₁ rs₁, Readies g disk rs record g₁ disk₁ rs₁ ∧
      g₁.store.HasRoom record ∧ r.2 = g₁.journaled record ∧
        disk' = appended disk₁ .journal (recordFrame record) ∧ rs' = rs₁ ++ [record] := by
  cases ha with
  | done hready hroom => exact ⟨_, _, _, hready, hroom, rfl, rfl, rfl⟩
  | full => cases hok
  | unfit => cases hok

theorem Readies.isOpen (hr : Readies g disk rs record g' disk' rs') : g'.isOpen = g.isOpen := by
  cases hr <;> rfl

theorem Appends.isOpen {r : Status × Governor} (ha : Appends g disk rs record r disk' rs') :
    r.2.isOpen = g.isOpen := by
  cases ha with
  | done hready => exact hready.isOpen
  | full hready => exact hready.isOpen
  | unfit => rfl

/-- The records of a journal that an append was cut off at. -/
theorem Stops.framed (hs : Stops g disk rs record disk') (h : Journaling g disk rs) :
    (∃ tail, Framed disk' rs tail) ∨
      (∃ g₁ disk₁ rs₁, Readies g disk rs record g₁ disk₁ rs₁ ∧
        ((∃ tail, Framed disk' rs₁ tail) ∨
          g₁.store.HasRoom record ∧ Framed disk' (rs₁ ++ [record]) [])) := by
  cases hs with
  | before => exact .inl ⟨[], h.journals.framed⟩
  | ready hready => exact .inr ⟨_, _, _, hready, .inl ⟨[], (hready.journaling h).journals.framed⟩⟩
  | within hready hroom kept =>
      refine .inr ⟨_, _, _, hready, ?_⟩
      exact ((hready.journaling h).journals.framed.append_take hroom.fits kept).imp_right fun h => ⟨hroom, h⟩

theorem meets_tryAppend {w : World FileName} (hw : w.Clean) (hopen : g.store.isOpen = true)
    (hfits : record.summary.length ≤ kMaxAuditSummary) : Meets (g.tryAppend record)
      (fun r w' => w'.fates ⊆ w.fates ∧ (g.store.HasRoom record ∧
          r = (.success, { g with store := g.store.appending record }) ∧
            w'.disk = appended w.disk .journal (recordFrame record) ∨
        ¬ g.store.HasRoom record ∧ r = (Store.journalFull, g) ∧ w'.disk = w.disk ∨
        g.store.HasRoom record ∧ w.Failing ∧ r.1.isOk = false ∧ r.1.code ≠ .overflow ∧ r.2 = g ∧
          w'.disk = appended w.disk .journal []))
      (fun w' => g.store.HasRoom record ∧
        ∃ kept, w'.disk = appended w.disk .journal ((recordFrame record).take kept)) w := by
  unfold tryAppend
  rw [meets_bind]
  refine (Store.meets_appendAudit hw hopen hfits).mono (fun r w' ⟨hsub, h⟩ => ⟨hsub, ?_⟩) fun _ => id
  generalize w'.disk = disk' at h
  rcases h with h | ⟨hroom, hfailing, hmisses⟩
  · cases h with
    | done hroom => exact .inl ⟨hroom, rfl, rfl⟩
    | full hfull => exact .inr (.inl ⟨hfull, rfl, rfl⟩)
  · refine .inr (.inr ⟨hroom, hfailing, hmisses.bad, hmisses.code, ?_, hmisses.disk⟩)
    rw [hmisses.store]

/-- The second try at a journal that was made ready. -/
theorem meets_retry {w : World FileName} {g₁ : Governor} (hw : w.Clean) (h : Journaling g disk rs)
    (hready : Readies g disk rs record g₁ w.disk rs')
    (hfits : record.summary.length ≤ kMaxAuditSummary) :
    Meets (g₁.tryAppend record >>= fun (status, g) =>
        pure (status, if status.isOk then g.withAudit record else g))
      (fun r w' => w'.fates ⊆ w.fates ∧ ∃ rs', Appends g disk rs record r w'.disk rs' ∨
        SomeFails w.fates ∧ Misses g disk rs record r w'.disk rs')
      (fun w' => Stops g disk rs record w'.disk) w := by
  rw [meets_bind]
  refine (meets_tryAppend hw (hready.journaling h).journals.counts.isOpen hfits).mono
    (fun r w₁ ⟨hsub, hr⟩ => ⟨hsub, ?_⟩) fun w₁ ⟨hroom, kept, hdisk⟩ => ?_
  · rcases hr with ⟨hroom, rfl, hdisk⟩ | ⟨hfull, rfl, hdisk⟩ | ⟨hroom, hfailing, hbad, _, hg, hdisk⟩
    · rw [hdisk]
      exact ⟨_, .inl (.done hready hroom)⟩
    · rw [hdisk]
      dsimp only
      rw [if_neg (by decide)]
      exact ⟨_, .inl (.full hready hfull)⟩
    · obtain ⟨status, g₂⟩ := r
      replace hg : g₂ = g₁ := hg
      replace hbad : status.isOk = false := hbad
      dsimp only
      rw [if_neg (by simp [hbad]), hg, hdisk]
      exact ⟨_, .inr ⟨hfailing.someFails, .unwritten hready hbad⟩⟩
  · rw [hdisk]
    exact .within hready hroom kept

/-- **Appending**: a journal that is full is compacted first. -/
theorem meets_appendJournal {w : World FileName} (hw : w.Clean) (h : Journaling g w.disk rs)
    (hfits : record.summary.length ≤ kMaxAuditSummary) : Meets (g.appendJournal record)
      (fun r w' => w'.fates ⊆ w.fates ∧ ∃ rs', Appends g w.disk rs record r w'.disk rs' ∨
        SomeFails w.fates ∧ Misses g w.disk rs record r w'.disk rs')
      (fun w' => Stops g w.disk rs record w'.disk) w := by
  unfold appendJournal
  refine meets_bind.mpr ?_
  refine (meets_tryAppend hw h.journals.counts.isOpen hfits).mono (fun r w₁ ⟨hsub, hr⟩ => ?_)
    fun w₁ ⟨hroom, kept, hdisk⟩ => ?_
  · rcases hr with ⟨hroom, rfl, hdisk⟩ | ⟨hfull, rfl, hdisk⟩ | ⟨hroom, hfailing, hbad, hcode, hg, hdisk⟩
    · dsimp only
      rw [if_neg (by decide), meets_pure, hdisk]
      exact ⟨hsub, _, .inl (.done (.room hroom) hroom)⟩
    · dsimp only
      rw [if_pos (by decide), meets_bind]
      refine (meets_compactJournal (hdisk ▸ h)).mono (fun r w₂ ⟨hsub₂, hr⟩ => ?_) fun w₂ hr => ?_
      · rw [hdisk] at hr
        replace hsub₂ := List.Subset.trans hsub₂ hsub
        rcases hr with hr | ⟨hfailing, hbad, hg, hdisk₂⟩
        · generalize hdisk₂ : w₂.disk = disk₂ at hr
          cases hr with
          | unfit hunfit =>
              dsimp only
              rw [if_neg (by decide), meets_pure, hdisk₂]
              exact ⟨hsub₂, _, .inl (.unfit hfull hunfit)⟩
          | done hkept =>
              have hready : Readies g w.disk rs record g.compacting w₂.disk g.kept :=
                hdisk₂ ▸ .compacted hfull hkept
              have hok : Status.success.isOk = true := rfl
              dsimp only
              rw [if_pos hok]
              refine (meets_retry (hw.later hsub₂) h hready hfits).mono (fun r w₃ ⟨hsub₃, rs', hr⟩ => ?_)
                fun _ => id
              exact ⟨List.Subset.trans hsub₃ hsub₂, rs', hr.imp_right fun hr => ⟨hr.1.earlier hsub₂, hr.2⟩⟩
        · obtain ⟨status, g₂⟩ := r
          replace hg : g₂ = g := hg
          replace hbad : status.isOk = false := hbad
          dsimp only
          rw [if_neg (by simp [hbad]), meets_pure, hg, hdisk₂]
          exact ⟨hsub₂, _, .inr ⟨hfailing.someFails.earlier hsub, .unready hbad⟩⟩
      · rw [hdisk] at hr
        rcases hr with hdisk₂ | ⟨hkept, hdisk₂⟩
        · rw [hdisk₂]
          exact .before
        · rw [hdisk₂]
          exact .ready (.compacted hfull hkept)
    · obtain ⟨status, g₁⟩ := r
      replace hg : g₁ = g := hg
      replace hbad : status.isOk = false := hbad
      replace hcode : status.code ≠ .overflow := hcode
      dsimp only
      rw [if_neg hcode, meets_pure, if_neg (by simp [hbad]), hg, hdisk]
      exact ⟨hsub, _, .inr ⟨hfailing.someFails, .unwritten (.room hroom) hbad⟩⟩
  · rw [hdisk]
    exact .within (.room hroom) hroom kept

/-! ## A save -/

/-- How a save ends where no write fails. -/
inductive Saves (g : Governor) (disk : Disk) : Status × Governor → Disk → Prop
  | saved (hs : Savable g) : Saves g disk (.success, g.saved) (withState disk g.stamped.state)
  | unsaved {status : Status} (hs : ¬ Savable g) (hbad : status.isOk = false)
      (hcode : status.code ≠ .overflow) : Saves g disk (status, g.stamped) disk

theorem meets_saveState {w : World FileName} : Meets g.saveState
    (fun r w' => w'.fates ⊆ w.fates ∧ (Saves g w.disk r w'.disk ∧ (r.1.isOk = true → ¬ w.Failing) ∨
      w.Failing ∧ r.1.isOk = false ∧ r.2 = g.stamped ∧ w'.disk = w.disk))
    (fun w' => w'.disk = w.disk ∨ Savable g ∧ w'.disk = withState w.disk g.stamped.state) w := by
  have hunsaved {status : Status} (hs : ¬ Savable g) (hbad : status.isOk = false)
      (hcode : status.code ≠ .overflow) :
      Saves g w.disk (status, if status.isOk then g.saved else g.stamped) w.disk ∧
        (status.isOk = true → ¬ w.Failing) := by
    rw [if_neg (by simp [hbad])]
    exact ⟨.unsaved hs hbad hcode, fun hok => absurd hok (by simp [hbad])⟩
  have hisOpen : g.stamped.store.isOpen = g.store.isOpen := rfl
  have hoptions : g.stamped.store.options = g.store.options := rfl
  have hsame : w.fates ⊆ w.fates := List.Subset.refl _
  unfold saveState Store.save
  rw [meets_bind, hisOpen, hoptions]
  split
  next hopen => exact ⟨hsame, .inl (hunsaved (fun hs => by simp [hs.isOpen] at hopen) rfl (by decide))⟩
  next hopen =>
    cases hbytes : serializeState g.stamped.state with
    | error status =>
        have hstatus : status = auditTooLong := serializeState_error hbytes
        refine ⟨hsame, .inl (hunsaved (fun hs => ?_) (hstatus ▸ rfl) (hstatus ▸ by decide))⟩
        have hok : serializeState g.stamped.state = .ok (writeState g.stamped.state) :=
          serializeState_eq_ok.mpr ⟨hs.summaries, rfl⟩
        rw [hbytes] at hok
        cases hok
    | ok bytes =>
        obtain ⟨hsummaries, rfl⟩ := serializeState_eq_ok.mp hbytes
        dsimp only
        split
        next hlarge =>
          exact ⟨hsame, .inl (hunsaved (fun hs => absurd hs.fits (Nat.not_le.mpr hlarge)) rfl (by decide))⟩
        next hfits =>
          have hs : Savable g := ⟨by simpa using hopen, hsummaries, Nat.not_lt.mp hfits⟩
          rw [writeFileAtomic, meets_bind]
          refine meets_replace_tried.mono (fun ok w' ⟨hsub, hend⟩ => ?_)
            fun w' hdisk => hdisk.imp_right fun hdisk => ⟨hs, hdisk⟩
          rcases hend with ⟨hok, hdone, hdisk⟩ | ⟨hok, hfailing, hdisk⟩
          · have hsaves : Saves g w.disk (.success, g.saved) w'.disk := by
              rw [hdisk]
              exact .saved hs
            rw [hok]
            exact ⟨hsub, .inl ⟨hsaves, fun _ => hdone⟩⟩
          · rw [hok]
            exact ⟨hsub, .inr ⟨hfailing, rfl, rfl, hdisk⟩⟩

/-- The next save of the decisions is due. -/
def SaveDue (g : Governor) : Prop := g.options.saveStateEveryDecisions ≤ g.decisionsSinceSave

theorem meets_persistState {w : World FileName} (hopen : g.isOpen = true) (hdirty : g.stateDirty = true) :
    Meets (g.persistState false)
      (fun r w' => ¬ g.SaveDue ∧ r = (.success, g) ∧ w'.disk = w.disk ∨
        g.SaveDue ∧ (Saves g w.disk r w'.disk ∧ (r.1.isOk = true → ¬ w.Failing) ∨
          w.Failing ∧ r.1.isOk = false ∧ r.2 = g.stamped ∧ w'.disk = w.disk))
      (fun w' => w'.disk = w.disk ∨
        g.SaveDue ∧ Savable g ∧ w'.disk = withState w.disk g.stamped.state) w := by
  unfold persistState
  rw [if_neg (by simp [hopen]), if_neg (by simp [hdirty])]
  split
  next hearly =>
    have hdue : ¬ g.SaveDue := by
      rw [SaveDue, UInt64.not_le]
      simpa using hearly
    exact .inl ⟨hdue, rfl, rfl⟩
  next hlate =>
    have hdue : g.SaveDue := by
      rw [SaveDue, ← UInt64.not_lt]
      simpa using hlate
    exact meets_saveState.mono (fun r w' ⟨_, h⟩ => .inr ⟨hdue, h⟩)
      fun w' h => h.imp_right fun h => ⟨hdue, h⟩

/-! ## A decision -/

/-- An open runtime has a place for the decision of a request. -/
structure Serves (g : Governor) (request : EvaluationRequest) : Prop where
  accepting : g.accepting = true
  isOpen : g.isOpen = true
  domain : request.domain.valid = true
  place : g.runtime request.domain = none → g.state.domains.length < kMaxDomainsState

/-- The decision of a request that is served, put into the journal and then into
the runtime. -/
def deciding (order : MapOrder) (wall : UInt64) (g : Governor) (request : EvaluationRequest) :
    Storage (Except Status Decision × Governor) := do
  let r := g.ruling order wall request
  let (status, g) ← (g.ticking request).appendJournal r.record
  if !status.isOk then pure (.error status, g)
  else
    let (status, g) ← (g.withRuling request.domain r).persistState false
    pure (if status.isOk then .ok r.decision else .error status, g)

theorem evaluate_of_serves {order : MapOrder} {wall : UInt64} {request : EvaluationRequest}
    (h : g.Serves request) : g.evaluate order wall request = g.deciding order wall request := by
  have hfull : ¬ (((g.ticking request).runtime request.domain).isNone = true ∧
      kMaxDomainsState ≤ (g.ticking request).state.domains.length) := fun hfull =>
    absurd (h.place (Option.isNone_iff_eq_none.mp hfull.1)) (Nat.not_lt.mpr hfull.2)
  unfold evaluate evaluateLocked
  rw [if_neg (by simp [h.accepting]), if_neg (by simp [h.isOpen]), if_neg (by simp [h.domain])]
  dsimp only
  rw [if_neg Bool.false_ne_true]
  exact if_neg hfull

/-- A request that is not served is refused, after its tick was taken at most. -/
theorem evaluate_of_not_serves {order : MapOrder} {wall : UInt64} {request : EvaluationRequest}
    (h : ¬ g.Serves request) : ∃ status x, (x = g ∨ x = g.ticking request) ∧ status.code ≠ .overflow ∧
      g.evaluate order wall request = pure (.error status, x) := by
  unfold evaluate evaluateLocked
  split
  next => exact ⟨shuttingDownStatus, _, .inl rfl, by decide, rfl⟩
  next haccepting =>
  split
  next => exact ⟨notOpen, _, .inl rfl, by decide, rfl⟩
  next hopen =>
  split
  next => exact ⟨invalid .invalidIdentity "evaluation domain unset", _, .inl rfl, by decide, rfl⟩
  next hdomain =>
  dsimp only
  rw [if_neg Bool.false_ne_true]
  split
  next => exact ⟨outOfRange .limitExceeded "domain runtime table is full", _, .inr rfl, by decide, rfl⟩
  next hplace =>
  refine absurd ⟨open_of_not haccepting, open_of_not hopen, open_of_not hdomain, fun hnone => ?_⟩ h
  have hfound : (g.ticking request).runtime request.domain = none := hnone
  rw [not_and, Nat.not_le] at hplace
  exact hplace (Option.isNone_iff_eq_none.mpr hfound)

/-- How an evaluation ends where no write fails. -/
inductive Decides (order : MapOrder) (wall : UInt64) (g : Governor) (request : EvaluationRequest)
    (disk : Disk) (rs : List AuditRecord) :
    Except Status Decision × Governor → Disk → List AuditRecord → Prop
  | refused {status : Status} {x : Governor} (hx : x = g ∨ x = g.ticking request)
      (hserves : ¬ g.Serves request) (hcode : status.code ≠ .overflow) :
      Decides order wall g request disk rs (.error status, x) disk rs
  | unlogged {status : Status} {x : Governor} {disk₁ : Disk} {rs₁ : List AuditRecord}
      (hserves : g.Serves request)
      (happend : Appends (g.ticking request) disk rs (g.ruling order wall request).record (status, x) disk₁ rs₁)
      (hbad : status.isOk = false) : Decides order wall g request disk rs (.error status, x) disk₁ rs₁
  | recorded {x : Governor} {disk₁ : Disk} {rs₁ : List AuditRecord} (hserves : g.Serves request)
      (happend : Appends (g.ticking request) disk rs (g.ruling order wall request).record (.success, x) disk₁ rs₁)
      (hearly : ¬ (x.withRuling request.domain (g.ruling order wall request)).SaveDue) :
      Decides order wall g request disk rs (.ok (g.ruling order wall request).decision,
        x.withRuling request.domain (g.ruling order wall request)) disk₁ rs₁
  | saved {x : Governor} {disk₁ : Disk} {rs₁ : List AuditRecord} (hserves : g.Serves request)
      (happend : Appends (g.ticking request) disk rs (g.ruling order wall request).record (.success, x) disk₁ rs₁)
      (hs : Savable (x.withRuling request.domain (g.ruling order wall request))) :
      Decides order wall g request disk rs (.ok (g.ruling order wall request).decision,
        (x.withRuling request.domain (g.ruling order wall request)).saved)
        (withState disk₁ (x.withRuling request.domain (g.ruling order wall request)).stamped.state) rs₁
  | unsaved {status : Status} {x : Governor} {disk₁ : Disk} {rs₁ : List AuditRecord}
      (hserves : g.Serves request)
      (happend : Appends (g.ticking request) disk rs (g.ruling order wall request).record (.success, x) disk₁ rs₁)
      (hs : ¬ Savable (x.withRuling request.domain (g.ruling order wall request)))
      (hbad : status.isOk = false) (hcode : status.code ≠ .overflow) :
      Decides order wall g request disk rs
        (.error status, (x.withRuling request.domain (g.ruling order wall request)).stamped) disk₁ rs₁

/-- How an evaluation ends where a write fails and leaves nothing behind. -/
inductive Falters (order : MapOrder) (wall : UInt64) (g : Governor) (request : EvaluationRequest)
    (disk : Disk) (rs : List AuditRecord) :
    Except Status Decision × Governor → Disk → List AuditRecord → Prop
  | unlogged {status : Status} {x : Governor} {disk₁ : Disk} {rs₁ : List AuditRecord}
      (hserves : g.Serves request)
      (hmisses : Misses (g.ticking request) disk rs (g.ruling order wall request).record (status, x) disk₁ rs₁) :
      Falters order wall g request disk rs (.error status, x) disk₁ rs₁
  | unsaved {status : Status} {x : Governor} {disk₁ : Disk} {rs₁ : List AuditRecord}
      (hserves : g.Serves request)
      (happend : Appends (g.ticking request) disk rs (g.ruling order wall request).record (.success, x) disk₁ rs₁)
      (hbad : status.isOk = false) :
      Falters order wall g request disk rs
        (.error status, (x.withRuling request.domain (g.ruling order wall request)).stamped) disk₁ rs₁

/-- How far an evaluation has come where the process crashes. -/
inductive Breaks (order : MapOrder) (wall : UInt64) (g : Governor) (request : EvaluationRequest)
    (disk : Disk) (rs : List AuditRecord) : Disk → Prop
  | stopped {disk' : Disk} (hserves : g.Serves request)
      (hstops : Stops (g.ticking request) disk rs (g.ruling order wall request).record disk') :
      Breaks order wall g request disk rs disk'
  | recorded {x : Governor} {disk₁ : Disk} {rs₁ : List AuditRecord} (hserves : g.Serves request)
      (happend : Appends (g.ticking request) disk rs (g.ruling order wall request).record (.success, x) disk₁ rs₁) :
      Breaks order wall g request disk rs disk₁
  | saved {x : Governor} {disk₁ : Disk} {rs₁ : List AuditRecord} (hserves : g.Serves request)
      (happend : Appends (g.ticking request) disk rs (g.ruling order wall request).record (.success, x) disk₁ rs₁)
      (hs : Savable (x.withRuling request.domain (g.ruling order wall request))) :
      Breaks order wall g request disk rs
        (withState disk₁ (x.withRuling request.domain (g.ruling order wall request)).stamped.state)

/-- **Evaluation** where no write leaves a part behind. -/
theorem meets_evaluate {order : MapOrder} {wall : UInt64} {request : EvaluationRequest}
    {w : World FileName} (hw : w.Clean) (h : Journaling g w.disk rs) :
    Meets (g.evaluate order wall request)
      (fun r w' => ∃ rs', Decides order wall g request w.disk rs r w'.disk rs' ∨
        SomeFails w.fates ∧ Falters order wall g request w.disk rs r w'.disk rs')
      (fun w' => Breaks order wall g request w.disk rs w'.disk) w := by
  have hticking : Journaling (g.ticking request) w.disk rs := h.congr rfl rfl rfl
  by_cases hserves : g.Serves request
  · have hopen' : g.isOpen = true := hserves.isOpen
    rw [evaluate_of_serves hserves]
    unfold deciding
    dsimp only
    rw [meets_bind]
    refine (meets_appendJournal hw hticking length_auditSummary_le).mono
      (fun ⟨status, x⟩ w₁ ⟨hsub, rs₁, happend⟩ => ?_) fun w₁ hstops => .stopped hserves hstops
    dsimp only
    split
    next hbad =>
      replace hbad : status.isOk = false := by simpa using hbad
      rcases happend with happend | ⟨hfails, hmisses⟩
      · exact ⟨rs₁, .inl (.unlogged hserves happend hbad)⟩
      · exact ⟨rs₁, .inr ⟨hfails, .unlogged hserves hmisses⟩⟩
    next hok =>
      replace happend := happend.resolve_right fun hmisses =>
        absurd (open_of_not hok) (by simp [hmisses.2.bad])
      obtain rfl : status = .success := happend.success (open_of_not hok)
      have hopen₁ : (x.withRuling request.domain (g.ruling order wall request)).isOpen = true :=
        happend.isOpen.trans hopen'
      rw [meets_bind]
      refine (meets_persistState hopen₁ rfl).mono (fun ⟨status, x'⟩ w₂ hr => ?_) fun w₂ hr => ?_
      · rw [meets_pure]
        rcases hr with ⟨hearly, hr, hdisk⟩ | ⟨_, ⟨hr, _⟩ | ⟨hfailing, hbad, hx, hdisk⟩⟩
        · obtain ⟨rfl, rfl⟩ := Prod.mk.inj hr
          rw [hdisk]
          exact ⟨rs₁, .inl (.recorded hserves happend hearly)⟩
        · generalize w₂.disk = disk₂ at hr
          cases hr with
          | saved hs => exact ⟨rs₁, .inl (.saved hserves happend hs)⟩
          | unsaved hs hbad hcode =>
              dsimp only
              rw [if_neg (by simp [hbad])]
              exact ⟨rs₁, .inl (.unsaved hserves happend hs hbad hcode)⟩
        · replace hbad : status.isOk = false := hbad
          replace hx : x' = (x.withRuling request.domain (g.ruling order wall request)).stamped := hx
          dsimp only
          rw [if_neg (by simp [hbad]), hx, hdisk]
          exact ⟨rs₁, .inr ⟨hfailing.someFails.earlier hsub, .unsaved hserves happend hbad⟩⟩
      · rcases hr with hdisk | ⟨_, hs, hdisk⟩
        · rw [hdisk]
          exact .recorded hserves happend
        · rw [hdisk]
          exact .saved hserves happend hs
  · obtain ⟨status, x, hx, hcode, hpure⟩ := @evaluate_of_not_serves g order wall request hserves
    rw [hpure]
    exact ⟨rs, .inl (.refused hx hserves hcode)⟩

theorem Readies.core (hr : Readies g disk rs record g' disk' rs') : g'.core = g.core := by
  cases hr <;> rfl

theorem Appends.core {r : Status × Governor} (ha : Appends g disk rs record r disk' rs') :
    r.2.core = g.core := by
  cases ha with
  | done hready => exact (core_withAudit.trans hready.core :)
  | full hready => exact hready.core
  | unfit => rfl

theorem Misses.core {r : Status × Governor} (hm : Misses g disk rs record r disk' rs') : r.2.core = g.core := by
  cases hm with
  | unready => rfl
  | unwritten hready => exact hready.core

/-- A record that was not appended. -/
theorem Appends.readied {r : Status × Governor} (ha : Appends g disk rs record r disk' rs')
    (hbad : r.1.isOk = false) : Readies g disk rs record r.2 disk' rs' ∨ r.2 = g ∧ disk' = disk ∧ rs' = rs := by
  cases ha with
  | done => cases hbad
  | full hready => exact .inl hready
  | unfit => exact .inr ⟨rfl, rfl, rfl⟩

/-- An append that failed leaves the journal ready, or everything as it was. -/
theorem Misses.readied {r : Status × Governor} (hm : Misses g disk rs record r disk' rs') :
    (∃ disk₁, Readies g disk rs record r.2 disk₁ rs') ∨ r.2 = g ∧ disk' = disk ∧ rs' = rs := by
  cases hm with
  | unready => exact .inr ⟨rfl, rfl, rfl⟩
  | unwritten hready => exact .inl ⟨_, hready⟩

theorem Readies.clock (hr : Readies g disk rs record g' disk' rs') : g'.clock = g.clock := by
  cases hr <;> rfl

theorem Readies.state (hr : Readies g disk rs record g' disk' rs') : disk' .state = disk .state := by
  cases hr with
  | room => rfl
  | compacted => exact replaced_ne (by decide)

/-- An append spares the state file. -/
theorem Appends.state {r : Status × Governor} (ha : Appends g disk rs record r disk' rs') :
    disk' .state = disk .state := by
  cases ha with
  | done hready => exact (appended_ne (by decide)).trans hready.state
  | full hready => exact hready.state
  | unfit => rfl

theorem Misses.state {r : Status × Governor} (hm : Misses g disk rs record r disk' rs') :
    disk' .state = disk .state := by
  cases hm with
  | unready => rfl
  | unwritten hready => exact (appended_ne (by decide)).trans hready.state

theorem Stops.state (hs : Stops g disk rs record disk') : disk' .state = disk .state := by
  cases hs with
  | before => rfl
  | ready hready => exact hready.state
  | within hready => exact (appended_ne (by decide)).trans hready.state

theorem Savable.savedAs (h : Savable g) : SavedAs g.stamped.state (withState disk g.stamped.state) := by
  have hmax := g.store.options.maxStateBytes.toNat_lt
  have hfits := h.fits
  exact ⟨_, serializeState_eq_ok.mpr ⟨h.summaries, rfl⟩, by omega, withState_state⟩

/-- A runtime that is closed makes no decision. -/
theorem evaluate_closed {order : MapOrder} {wall : UInt64} {request : EvaluationRequest}
    (h : g.isOpen = false) : ∃ status, status.code ≠ .overflow ∧
      g.evaluate order wall request = pure (.error status, g) := by
  unfold evaluate evaluateLocked
  split
  · exact ⟨shuttingDownStatus, by decide, rfl⟩
  · rw [if_pos (by simp [h])]
    exact ⟨notOpen, by decide, rfl⟩

end Governor

namespace System

variable {s : System} {c : Call} {order : MapOrder} {wall : UInt64} {request : EvaluationRequest}
  {rs : List AuditRecord}

/-- An evaluation as a step, where no write leaves a part behind. -/
theorem falters_step (hc : c.command = .evaluate order wall request)
    (hfates : World.Clean (⟨s.disk, c.fates⟩ : World FileName)) (h : s.governor.Journaling s.disk rs) :
    (∃ result rs', (s.perform c).1 = some (.decided result) ∧
        (Governor.Decides order wall s.governor request s.disk rs (result, (s.step c).governor)
            (s.step c).disk rs' ∨
          SomeFails c.fates ∧ Governor.Falters order wall s.governor request s.disk rs
            (result, (s.step c).governor) (s.step c).disk rs')) ∨
      (s.perform c).1 = none ∧ (s.step c).governor = {} ∧
        Governor.Breaks order wall s.governor request s.disk rs (s.step c).disk := by
  have hmeets : Meets (c.command.perform s.governor)
      (fun r w' => ∃ result rs', r.1 = .decided result ∧
        (Governor.Decides order wall s.governor request s.disk rs (result, r.2) w'.disk rs' ∨
          SomeFails c.fates ∧
            Governor.Falters order wall s.governor request s.disk rs (result, r.2) w'.disk rs'))
      (fun w' => Governor.Breaks order wall s.governor request s.disk rs w'.disk)
      ⟨s.disk, c.fates⟩ := by
    rw [hc, Command.perform, replying, meets_bind]
    exact (Governor.meets_evaluate hfates h).mono (fun r w' hr => ⟨r.1, hr.imp fun _ hend => ⟨rfl, hend⟩⟩)
      fun _ => id
  cases hreply : (s.perform c).1 with
  | some reply =>
      obtain ⟨governor, w, hp, hs⟩ := perform_eq_some hreply
      obtain ⟨result, rs', hresult, hdecides⟩ := hmeets.returned hp
      rw [hs]
      exact .inl ⟨result, rs', congrArg some hresult, hdecides⟩
  | none =>
      obtain ⟨w, hp, hs⟩ := perform_eq_none hreply
      rw [hs]
      exact .inr ⟨rfl, rfl, hmeets.crashed hp⟩

/-- An evaluation as a step, while no write fails. -/
theorem decides_step (hc : c.command = .evaluate order wall request) (hfates : ¬ SomeFails c.fates)
    (h : s.governor.Journaling s.disk rs) :
    (∃ result rs', (s.perform c).1 = some (.decided result) ∧
        Governor.Decides order wall s.governor request s.disk rs (result, (s.step c).governor)
          (s.step c).disk rs') ∨
      (s.perform c).1 = none ∧ (s.step c).governor = {} ∧
        Governor.Breaks order wall s.governor request s.disk rs (s.step c).disk := by
  have hw : World.Reliable (⟨s.disk, c.fates⟩ : World FileName) := hfates
  refine (falters_step hc hw.clean h).imp_left fun ⟨result, rs', hreply, hend⟩ => ?_
  exact ⟨result, rs', hreply, hend.resolve_right fun hfalters => hfates hfalters.1⟩

/-- An evaluation of a runtime that is closed. -/
theorem evaluate_closed (hc : c.command = .evaluate order wall request)
    (h : s.governor.isOpen = false) : s.step c = s := by
  obtain ⟨status, _, hpure⟩ := @Governor.evaluate_closed s.governor order wall request h
  unfold step perform
  rw [hc, Command.perform, hpure]
  rfl

end System

end Oversub
