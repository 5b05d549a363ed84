import Oversub.Runtime.Places
import Oversub.Runtime.Merge
import Oversub.Runtime.Compaction

/-!
# Oversub.Runtime.Numbering

The numbers of decisions across restarts.  The last id that was given is that
of the journal's last record, whatever state file it goes with: every record is
replayed, and a compaction keeps the newest ones.  So no id is given twice, and
neither the ticks nor the epochs of the decisions go back.
-/

namespace Oversub

open Crash Files Trace Ledger

/-! ## What the last record says -/

/-- The id, the tick and the epoch of a decision. -/
structure Mark where
  id : Nat
  tick : Nat
  epoch : Nat

def AuditRecord.mark (r : AuditRecord) : Mark := ⟨r.number, r.tick.toNat, r.epoch.value.toNat⟩

def Decision.mark (d : Decision) : Mark := ⟨d.id.value.toNat, d.issuedTick.toNat, d.epoch.value.toNat⟩

/-- No part of a mark is beyond that of another. -/
structure Mark.Le (m n : Mark) : Prop where
  id : m.id ≤ n.id
  tick : m.tick ≤ n.tick
  epoch : m.epoch ≤ n.epoch

theorem Mark.Le.trans {m n k : Mark} (h : m.Le n) (h' : n.Le k) : m.Le k :=
  ⟨h.id.trans h'.id, h.tick.trans h'.tick, h.epoch.trans h'.epoch⟩

/-- The mark of the last record. -/
def lastMark (rs : List AuditRecord) : Mark where
  id := newest AuditRecord.number rs
  tick := newest (fun r => r.tick.toNat) rs
  epoch := newest (fun r => r.epoch.value.toNat) rs

section

variable {rs rs' : List AuditRecord} {r : AuditRecord}

theorem lastMark_snoc : lastMark (rs ++ [r]) = r.mark := by
  rw [lastMark, newest_snoc, newest_snoc, newest_snoc]
  rfl

theorem lastMark_congr (h : rs'.getLast? = rs.getLast?) : lastMark rs' = lastMark rs := by
  rw [lastMark, newest_congr h, newest_congr h, newest_congr h]
  rfl

end

/-! ## Replays -/

section

variable {b : DurableState} {rs : List AuditRecord} {r : AuditRecord} {audit : List AuditRecord}
  {options : StoreOptions} {keys : List OversubscriptionDomainId} {domain : OversubscriptionDomainId}

theorem toNat_max_u64 (m n : UInt64) : (max m n).toNat = max m.toNat n.toNat := by
  show (if m ≤ n then n else m).toNat = _
  split
  next h => exact (Nat.max_eq_right (UInt64.le_iff_toNat_le.mp h)).symm
  next h => exact (Nat.max_eq_left (Nat.le_of_lt (UInt64.lt_iff_toNat_lt.mp (UInt64.not_le.mp h)))).symm

/-- A replay does not look at the history. -/
theorem foldl_applying_audit : rs.foldl DurableState.applying { b with audit } =
    { rs.foldl DurableState.applying b with audit } := by
  induction rs generalizing b with
  | nil => rfl
  | cons r rs ih =>
      rw [List.foldl_cons, List.foldl_cons, ← ih]
      rfl

/-- What a recovery makes of records in order, whose domains have a place. -/
theorem recoverState_eq (hrising : Rising 0 rs) (h : Houses keys b rs) :
    (recoverState options b rs).1 = { rs.foldl DurableState.applying b with
      audit := (recoverState options b rs).1.audit
      evidence := (recoverState options b rs).1.evidence
      journalRecords := (recoverState options b rs).1.journalRecords } := by
  unfold recoverState
  by_cases hnil : rs = []
  · rw [if_pos hnil, hnil]
    rfl
  · have hmerged : Houses keys { b with audit := mergeAudit options b.audit rs } rs := h.congr rfl
    rw [if_neg hnil]
    dsimp only
    rw [rebuildFromAudit_eq hrising hmerged, foldl_applying_audit]

theorem applied_issued (hrising : Rising 0 rs) : (rs.foldl DurableState.applying b).decisionsIssued.toNat =
    max b.decisionsIssued.toNat (newest AuditRecord.number rs) := by
  induction rs using List.reverseRecOn with
  | nil => simp
  | append_singleton rs r ih =>
      have hbefore : newest AuditRecord.number rs ≤ r.number := by
        rcases List.eq_nil_or_concat rs with rfl | ⟨older, last, rfl⟩
        · exact Nat.zero_le _
        · rw [List.concat_eq_append, newest_snoc]
          have hpairwise := List.pairwise_append.mp hrising.pairwise
          exact Nat.le_of_lt (hpairwise.2.2 last (by simp) r (List.mem_singleton_self r))
      have hrs := ih (hrising.sublist (List.sublist_append_left rs [r]))
      rw [List.foldl_append, List.foldl_cons, List.foldl_nil, newest_snoc]
      show (max _ r.id.value).toNat = _
      rw [toNat_max_u64, hrs]
      show max (max _ _) r.number = _
      omega

/-- The last record moves the clock and the epoch up to its own. -/
theorem applied_mark : (lastMark rs).tick ≤ (rs.foldl DurableState.applying b).tick.toNat ∧
    (lastMark rs).epoch ≤ (rs.foldl DurableState.applying b).epoch.value.toNat := by
  rcases List.eq_nil_or_concat rs with rfl | ⟨older, r, rfl⟩
  · exact ⟨Nat.zero_le _, Nat.zero_le _⟩
  · rw [List.concat_eq_append, lastMark_snoc, List.foldl_append, List.foldl_cons, List.foldl_nil]
    generalize older.foldl DurableState.applying b = s
    constructor
    · show r.tick.toNat ≤ (max s.tick r.tick).toNat
      rw [toNat_max_u64]
      exact Nat.le_max_right _ _
    · show r.epoch.value.toNat ≤ (if r.epoch.value ≤ s.epoch.value then s.epoch else r.epoch).value.toNat
      split
      next hle => exact UInt64.le_iff_toNat_le.mp hle
      · exact Nat.le_refl _

theorem mem_keys_applied : domain ∈ (rs.foldl DurableState.applying b).domains.map (·.domain) ↔
    domain ∈ b.domains.map (·.domain) ∨ ∃ r ∈ rs, r.domain = domain := by
  rw [← Table.get_isSome, get_foldl_applying, ← Table.get_isSome]
  cases hlast : lastRecord domain rs with
  | some r =>
      obtain ⟨hr, hdomain⟩ := mem_of_last hlast
      exact iff_of_true rfl (.inr ⟨r, hr, hdomain⟩)
  | none =>
      have hnone := last_eq_none.mp hlast
      rw [Option.map_none, Option.none_or]
      exact ⟨.inl, fun h => h.resolve_right fun ⟨r, hr, hdomain⟩ => hnone r hr hdomain⟩

theorem Houses.applied (h : Houses keys b rs) : Houses keys (rs.foldl DurableState.applying b) [] := by
  induction rs generalizing b with
  | nil => exact h
  | cons r rs ih => exact ih h.applying

/-- The history of a recovery rises, as the parts it is merged from do. -/
theorem rising_mergeAudit (haudit : Rising 0 audit) (hrs : Rising 0 rs) :
    Rising 0 (mergeAudit options audit rs) := by
  refine Rising.sublist ?_ (List.drop_sublist _ _)
  constructor
  · rw [List.forall_mem_append]
    exact ⟨fun r hr => haudit.above r (List.mem_of_mem_filter hr), hrs.above⟩
  · refine List.pairwise_append.mpr ⟨haudit.pairwise.sublist List.filter_sublist, hrs.pairwise, ?_⟩
    intro old hold r hr
    cases rs with
    | nil => exact absurd hr List.not_mem_nil
    | cons oldest rs =>
        have hbefore : old.id.value < oldest.id.value := of_decide_eq_true (List.mem_filter.mp hold).2
        replace hbefore : old.number < oldest.number := UInt64.lt_iff_toNat_lt.mp hbefore
        rcases List.mem_cons.mp hr with rfl | hr
        · exact hbefore
        · exact hbefore.trans ((List.pairwise_cons.mp hrs.pairwise).1 r hr)

/-- It ends with the journal. -/
theorem getLast?_mergeAudit (hbound : 0 < options.maxAuditRecords.toNat) (hne : rs ≠ []) :
    (mergeAudit options audit rs).getLast? = rs.getLast? := by
  unfold mergeAudit
  dsimp only
  rw [getLast?_drop_sub hbound, List.getLast?_append]
  cases hlast : rs.getLast? with
  | none => exact absurd (List.getLast?_eq_none_iff.mp hlast) hne
  | some r => rfl

end

/-! ## Numbers over a run -/

/-- Options under which a journal keeps its last record and is read back whole:
a compaction has a window, all of which fits, and no record is too long for the
reader. -/
structure GovernorOptions.Lossless (o : GovernorOptions) : Prop where
  window : 0 < (min o.journalCompactionRecords o.maxJournalRecords).toNat
  bytes : 510 * (min o.journalCompactionRecords o.maxJournalRecords).toNat ≤ o.maxJournalBytes.toNat
  audit : 0 < o.maxAuditRecords.toNat
  record : 510 ≤ o.maxStateBytes.toNat

def DurableState.keys (s : DurableState) : List OversubscriptionDomainId := s.domains.map (·.domain)

/-- Records in order, each of which can be written and has a place for its
domain. -/
structure Chronicle (keys : List OversubscriptionDomainId) (rs : List AuditRecord) : Prop where
  rising : Rising 0 rs
  fits : SummariesFit rs
  named : ∀ r ∈ rs, r.domain ∈ keys

/-- The journal goes on where the state file ends, or before: no id in it or
in its history is beyond the journal's last. -/
structure Numbered (o : GovernorOptions) (m : Mark) (b : DurableState) (rs : List AuditRecord) : Prop where
  journal : ∃ keys, Chronicle keys rs ∧ Houses keys b rs
  history : Chronicle b.keys b.audit
  issued : b.decisionsIssued.toNat ≤ (lastMark rs).id
  past : ∀ r ∈ b.audit, r.number ≤ (lastMark rs).id
  count : rs.length ≤ o.maxJournalRecords.toNat
  mark : m.Le (lastMark rs)

/-- The runtime goes on where the journal ends. -/
structure Numbering (o : GovernorOptions) (m : Mark) (b : DurableState) (rs : List AuditRecord)
    (g : Governor) : Prop where
  numbered : Numbered o m b rs
  options : g.options = o
  issued : g.state.decisionsIssued.toNat = (lastMark rs).id
  tick : (lastMark rs).tick ≤ g.clock.tick.toNat
  epoch : (lastMark rs).epoch ≤ g.state.epoch.value.toNat
  history : Chronicle g.state.keys g.state.audit
  last : g.state.audit.getLast? = rs.getLast?
  nodup : g.state.keys.Nodup
  houses : Houses g.state.keys b rs

section

variable {o : GovernorOptions} {m : Mark} {b : DurableState} {rs rs' : List AuditRecord} {g g' : Governor}
  {keys : List OversubscriptionDomainId} {r : AuditRecord}

theorem Chronicle.sublist (h : Chronicle keys rs) (hsub : rs'.Sublist rs) : Chronicle keys rs' :=
  ⟨h.rising.sublist hsub, fun r hr => h.fits r (hsub.subset hr), fun r hr => h.named r (hsub.subset hr)⟩

/-- One more record, with the next number. -/
theorem Chronicle.snoc (h : Chronicle keys rs) (hr : r.summary.length ≤ kMaxAuditSummary)
    (hnext : (lastMark rs).id < r.number) {keys' : List OversubscriptionDomainId} (hkeys : keys ⊆ keys')
    (hdomain : r.domain ∈ keys') : Chronicle keys' (rs ++ [r]) where
  rising := h.rising.snoc (Nat.zero_lt_of_lt hnext) fun _ hr' =>
    Nat.lt_of_le_of_lt (h.rising.le_newest hr') hnext
  fits := List.forall_mem_append.mpr ⟨h.fits, List.forall_mem_singleton.mpr hr⟩
  named := List.forall_mem_append.mpr
    ⟨fun r' hr' => hkeys (h.named r' hr'), List.forall_mem_singleton.mpr hdomain⟩

/-- Such records are read back. -/
theorem Numbered.within (h : Numbered o m b rs) (ho : o.Lossless) : WithinBounds o.storeOptions 0 rs := by
  obtain ⟨keys, hchronicle, -⟩ := h.journal
  refine ⟨fun r hr => ?_, (Nat.zero_add _).trans_le h.count⟩
  have hlength := length_recordFrame_le (hchronicle.fits r hr)
  rw [length_recordFrame] at hlength
  have hrecord := ho.record
  show _ ≤ o.maxStateBytes.toNat
  omega

/-- Only these parts count. -/
theorem Numbering.congr (h : Numbering o m b rs g) (hoptions : g'.options = g.options)
    (hissued : g'.state.decisionsIssued = g.state.decisionsIssued) (hkeys : g'.state.keys = g.state.keys)
    (haudit : g'.state.audit = g.state.audit) (hclock : g.clock.tick ≤ g'.clock.tick)
    (hepoch : g.state.epoch.value ≤ g'.state.epoch.value) : Numbering o m b rs g' where
  numbered := h.numbered
  options := hoptions.trans h.options
  issued := by rw [hissued, h.issued]
  tick := h.tick.trans (UInt64.le_iff_toNat_le.mp hclock)
  epoch := h.epoch.trans (UInt64.le_iff_toNat_le.mp hepoch)
  history := by
    rw [haudit, hkeys]
    exact h.history
  last := haudit ▸ h.last
  nodup := hkeys ▸ h.nodup
  houses := hkeys ▸ h.houses

/-- A runtime that saves itself. -/
theorem Numbering.saved (h : Numbering o m b rs g) : Numbering o m g.state rs g := by
  obtain ⟨keys, hchronicle, -⟩ := h.numbered.journal
  have hhouses : Houses g.state.keys g.state rs := ⟨h.nodup, fun _ hd => hd, h.houses.records, h.houses.bound⟩
  have hpast : ∀ r ∈ g.state.audit, r.number ≤ (lastMark rs).id := by
    intro r hr
    rw [← lastMark_congr h.last]
    exact h.history.rising.le_newest hr
  have hnumbered : Numbered o m g.state rs := {
    journal := ⟨_, ⟨hchronicle.rising, hchronicle.fits, h.houses.records⟩, hhouses⟩
    history := h.history
    issued := h.issued.le
    past := hpast
    count := h.numbered.count
    mark := h.numbered.mark }
  exact { h with numbered := hnumbered, houses := hhouses }

/-! ### Restarts -/

/-- The domains of a state that is loaded. -/
theorem keys_reopened (hrising : Rising 0 rs) (h : Houses keys b rs)
    (hstarts : Governor.Starts o (b.reopened o.storeOptions rs) g) :
    (∀ domain, domain ∈ g.state.keys ↔ domain ∈ b.keys ∨ ∃ r ∈ rs, r.domain = domain) ∧
      g.state.keys.Nodup ∧ g.state.keys.length ≤ kMaxDomainsState := by
  have hdomains : g.state.domains = (rs.foldl DurableState.applying b).domains :=
    (congrArg (·.domains) hstarts.core :).trans (congrArg (·.domains) (recoverState_eq hrising h))
  have hplaced : Houses keys (rs.foldl DurableState.applying b) [] := h.applied
  unfold DurableState.keys
  rw [hdomains]
  refine ⟨fun domain => mem_keys_applied, hplaced.nodup, ?_⟩
  exact ((hplaced.nodup.subperm hplaced.domains).length_le).trans h.bound

/-- Its history ends with the journal. -/
theorem Numbered.last_reopened (h : Numbered o m b rs) (ho : o.Lossless)
    (haudit : g.state.audit = if rs = [] then b.audit else mergeAudit o.storeOptions b.audit rs) :
    g.state.audit.getLast? = rs.getLast? := by
  rw [haudit]
  split
  next hnil =>
    have hnone : b.audit = [] := by
      refine List.eq_nil_iff_forall_not_mem.mpr fun r hr => ?_
      have hle := h.past r hr
      rw [hnil] at hle
      exact absurd (h.history.rising.above r hr) (Nat.not_lt.mpr hle)
    rw [hnone, hnil]
  next hne => exact getLast?_mergeAudit ho.audit hne

/-- The clock and the epoch of a runtime that is opened are not behind the
journal. -/
theorem mark_reopened (hrising : Rising 0 rs) (h : Houses keys b rs)
    (hstarts : Governor.Starts o (b.reopened o.storeOptions rs) g) :
    (lastMark rs).tick ≤ g.clock.tick.toNat ∧ (lastMark rs).epoch ≤ g.state.epoch.value.toNat := by
  have hstate := @recoverState_eq _ _ o.storeOptions _ hrising h
  have htick : (b.reopened o.storeOptions rs).tick = (rs.foldl DurableState.applying b).tick :=
    congrArg (·.tick) hstate
  have hepoch : (recoverState o.storeOptions b rs).1.epoch = (rs.foldl DurableState.applying b).epoch :=
    congrArg (·.epoch) hstate
  have hsame : g.state.epoch = (b.reopened o.storeOptions rs).epoch := (congrArg (·.epoch) hstarts.core :)
  obtain ⟨hclock, hmark⟩ := @applied_mark b rs
  constructor
  · have hstart := UInt64.le_iff_toNat_le.mp hstarts.clock
    rw [htick] at hstart
    exact hclock.trans hstart
  · rw [hsame, DurableState.reopened, DurableState.rebooted, hepoch]
    refine hmark.trans ?_
    dsimp only
    split
    · exact Nat.le_refl _
    next hinvalid =>
      rw [FabricEpoch.valid, bne_iff_ne, not_not] at hinvalid
      rw [hinvalid]
      exact Nat.zero_le _

/-- A runtime that is opened on the directory. -/
theorem Numbered.reopened (h : Numbered o m b rs) (ho : o.Lossless)
    (hstarts : Governor.Starts o (b.reopened o.storeOptions rs) g) : Numbering o m g.state rs g := by
  obtain ⟨keys, hchronicle, hhouses⟩ := h.journal
  obtain ⟨hkeys, hnodup, hbound⟩ := keys_reopened hchronicle.rising hhouses hstarts
  obtain ⟨htick, hepoch⟩ := mark_reopened hchronicle.rising hhouses hstarts
  have hissued : g.state.decisionsIssued.toNat = (lastMark rs).id := by
    have hsame : g.state.decisionsIssued = (rs.foldl DurableState.applying b).decisionsIssued :=
      (congrArg (·.decisionsIssued) hstarts.core :).trans
        (congrArg (·.decisionsIssued) (recoverState_eq hchronicle.rising hhouses))
    rw [hsame, applied_issued hchronicle.rising]
    exact Nat.max_eq_right h.issued
  have haudit : g.state.audit = if rs = [] then b.audit else mergeAudit o.storeOptions b.audit rs :=
    hstarts.audit.trans audit_recoverState
  have hhistory : Chronicle g.state.keys g.state.audit := by
    have hmem : ∀ r ∈ g.state.audit, r ∈ b.audit ++ rs := by
      intro r hr
      rw [haudit] at hr
      split at hr
      · exact List.mem_append_left _ hr
      · exact mergeAudit_subset hr
    refine ⟨?_, fun r hr => ?_, fun r hr => (hkeys _).mpr ?_⟩
    · rw [haudit]
      split
      · exact h.history.rising
      · exact rising_mergeAudit h.history.rising hchronicle.rising
    · exact (List.mem_append.mp (hmem r hr)).elim (h.history.fits r) (hchronicle.fits r)
    · exact (List.mem_append.mp (hmem r hr)).imp (h.history.named r) fun hr => ⟨r, hr, rfl⟩
  have hplaces : Houses g.state.keys b rs :=
    ⟨hhouses.nodup, fun d hd => (hkeys d).mpr (.inl hd), fun r hr => (hkeys _).mpr (.inr ⟨r, hr, rfl⟩), hbound⟩
  have hopened : Numbering o m b rs g :=
    ⟨h, hstarts.configured, hissued, htick, hepoch, hhistory, h.last_reopened ho haudit, hnodup, hplaces⟩
  exact hopened.saved

/-! ### Records -/

/-- A compaction keeps its whole window. -/
theorem Numbering.kept_eq (h : Numbering o m b rs g) (ho : o.Lossless) : g.kept = g.window := by
  have hwindow : Chronicle g.state.keys g.window := h.history.sublist (List.drop_sublist _ _)
  have hlength : g.window.length ≤ (min o.journalCompactionRecords o.maxJournalRecords).toNat := by
    rw [Governor.window, h.options, List.length_drop]
    omega
  have hframes := Governor.length_frames_le hwindow.fits
  have hbytes := ho.bytes
  refine fitting_eq ?_
  rw [h.options]
  omega

/-- Its last record is the last of the journal. -/
theorem Numbering.getLast?_window (h : Numbering o m b rs g) (ho : o.Lossless) :
    g.window.getLast? = rs.getLast? := by
  have hkeep : 0 < (min g.options.journalCompactionRecords g.options.maxJournalRecords).toNat := by
    rw [h.options]
    exact ho.window
  rw [Governor.window, getLast?_drop_sub hkeep]
  exact h.last

/-- A journal that is compacted keeps its last record. -/
theorem Numbering.compacted (h : Numbering o m b rs g) (ho : o.Lossless) :
    Numbering o m b g.kept g.compacting := by
  have hwindow : Chronicle g.state.keys g.window := h.history.sublist (List.drop_sublist _ _)
  have hlength : g.window.length ≤ (min o.journalCompactionRecords o.maxJournalRecords).toNat := by
    rw [Governor.window, h.options, List.length_drop]
    omega
  have hmark : lastMark g.window = lastMark rs := lastMark_congr (h.getLast?_window ho)
  have hmin : (min o.journalCompactionRecords o.maxJournalRecords).toNat ≤ o.maxJournalRecords.toNat := by
    show (if o.journalCompactionRecords ≤ o.maxJournalRecords then o.journalCompactionRecords
      else o.maxJournalRecords).toNat ≤ _
    split
    next hle => exact UInt64.le_iff_toNat_le.mp hle
    · exact Nat.le_refl _
  have hhouses : Houses g.state.keys b g.window :=
    ⟨h.houses.nodup, h.houses.domains, hwindow.named, h.houses.bound⟩
  rw [h.kept_eq ho]
  exact {
    numbered := {
      journal := ⟨_, hwindow, hhouses⟩
      history := h.numbered.history
      issued := hmark ▸ h.numbered.issued
      past := hmark ▸ h.numbered.past
      count := hlength.trans hmin
      mark := hmark ▸ h.numbered.mark }
    options := h.options
    issued := hmark ▸ h.issued
    tick := hmark ▸ h.tick
    epoch := hmark ▸ h.epoch
    history := hwindow
    last := rfl
    nodup := h.nodup
    houses := hhouses }

/-- A ruling that a runtime may record next. -/
structure Governor.Due (g : Governor) (domain : OversubscriptionDomainId) (x : Ruling) : Prop where
  id : x.record.id.value = g.state.decisionsIssued + 1
  decision : x.decision.id.value = g.state.decisionsIssued + 1
  tick : x.record.tick = g.clock.tick
  epoch : x.record.epoch = g.state.epoch
  names : x.record.domain = domain
  working : x.working.domain = domain
  place : g.runtime domain = none → g.state.domains.length < kMaxDomainsState
  more : g.state.decisionsIssued ≠ UInt64.ofNat u64Max

section

variable {domain : OversubscriptionDomainId} {x : Ruling} {disk : Disk}

theorem Governor.Due.number (h : g.Due domain x) : x.record.number = g.state.decisionsIssued.toNat + 1 := by
  have hmore : g.state.decisionsIssued.toNat ≠ 2 ^ 64 - 1 := fun heq => h.more (UInt64.toNat_inj.mp heq)
  have hlt := g.state.decisionsIssued.toNat_lt
  rw [AuditRecord.number, h.id, UInt64.toNat_add, UInt64.toNat_one]
  omega

/-- It gives its domain a place in the table. -/
theorem Governor.Due.keys_recorded (h : g.Due domain x) (hnodup : g.state.keys.Nodup)
    (hbound : g.state.keys.length ≤ kMaxDomainsState) :
    let keys := ((g.journaled x.record).withRuling domain x).state.keys
    g.state.keys ⊆ keys ∧ domain ∈ keys ∧ keys.Nodup ∧ keys.length ≤ kMaxDomainsState := by
  intro keys
  have hkeys : keys = if ((g.journaled x.record).runtime domain).isSome then g.state.keys
      else g.state.keys ++ [domain] := Governor.keys_withRuling h.working
  have hruntime : (g.journaled x.record).runtime domain = g.runtime domain := rfl
  rw [hruntime] at hkeys
  cases hfound : g.runtime domain with
  | some previous =>
      rw [hfound, if_pos (by rfl)] at hkeys
      have hmem : domain ∈ g.state.keys := Table.get_isSome.mp (Option.isSome_of_eq_some hfound)
      rw [hkeys]
      exact ⟨List.Subset.refl _, hmem, hnodup, hbound⟩
  | none =>
      rw [hfound, if_neg (by simp)] at hkeys
      have hnew : domain ∉ g.state.keys := Table.get_eq_none.mp hfound
      have hroom : g.state.keys.length < kMaxDomainsState := by
        rw [DurableState.keys, List.length_map]
        exact h.place hfound
      rw [hkeys, List.length_append, List.length_singleton]
      refine ⟨List.subset_append_left _ _, by simp, ?_, hroom⟩
      exact List.Nodup.append hnodup (List.nodup_singleton _) (List.disjoint_singleton.mpr hnew)

/-- A decision that is recorded is the last. -/
theorem Numbering.recorded (h : Numbering o m b rs g) (ho : o.Lossless) (hlog : g.Journaling disk rs)
    (hroom : g.store.HasRoom x.record) (hdue : g.Due domain x) :
    Numbering o m b (rs ++ [x.record]) ((g.journaled x.record).withRuling domain x) := by
  obtain ⟨keys, hjournal, hhouses⟩ := h.numbered.journal
  obtain ⟨hsub, hplace, hnodup, hbound⟩ := hdue.keys_recorded h.nodup h.houses.bound
  have hnumber := hdue.number
  rw [h.issued] at hnumber
  have hnext : (lastMark rs).id < x.record.number := by omega
  have hnext' : (lastMark g.state.audit).id < x.record.number := by rwa [lastMark_congr h.last]
  have hrs : Chronicle g.state.keys rs := ⟨hjournal.rising, hjournal.fits, h.houses.records⟩
  have hchronicle := hrs.snoc hroom.fits hnext hsub (hdue.names ▸ hplace)
  have hhistory := h.history.snoc hroom.fits hnext' hsub (hdue.names ▸ hplace)
  have hlast : lastMark (rs ++ [x.record]) = x.record.mark := lastMark_snoc
  have hle : (lastMark rs).Le (lastMark (rs ++ [x.record])) := by
    rw [hlast]
    refine ⟨hnext.le, ?_, ?_⟩
    · show _ ≤ x.record.tick.toNat
      rw [hdue.tick]
      exact h.tick
    · show _ ≤ x.record.epoch.value.toNat
      rw [hdue.epoch]
      exact h.epoch
  have hcount : (rs ++ [x.record]).length ≤ o.maxJournalRecords.toNat := by
    have hlength := hjournal.rising.length_le
    have hrecords := UInt64.le_iff_toNat_le.mp hroom.records
    have hmore : g.state.decisionsIssued.toNat ≠ 2 ^ 64 - 1 := fun heq => hdue.more (UInt64.toNat_inj.mp heq)
    have hlt := g.state.decisionsIssued.toNat_lt
    have hissued : g.state.decisionsIssued.toNat = newest AuditRecord.number rs := h.issued
    have hoptions : g.store.options.maxJournalRecords = o.maxJournalRecords := by
      rw [hlog.options, h.options]
      rfl
    rw [hoptions, hlog.journals.counts.records, UInt64.toNat_add, UInt64.toNat_ofNat', UInt64.toNat_one] at hrecords
    rw [List.length_append, List.length_singleton]
    omega
  have hhouses' : Houses ((g.journaled x.record).withRuling domain x).state.keys b (rs ++ [x.record]) :=
    ⟨hhouses.nodup, fun d hd => hsub (h.houses.domains d hd), hchronicle.named, hbound⟩
  exact {
    numbered := {
      journal := ⟨_, hchronicle, hhouses'⟩
      history := h.numbered.history
      issued := h.numbered.issued.trans hle.id
      past := fun r hr => (h.numbered.past r hr).trans hle.id
      count := hcount
      mark := h.numbered.mark.trans hle }
    options := h.options
    issued := by
      show x.decision.id.value.toNat = _
      rw [hlast, hdue.decision, ← hdue.id]
      rfl
    tick := by
      rw [hlast]
      exact (congrArg UInt64.toNat hdue.tick).le
    epoch := by
      rw [hlast]
      exact (congrArg (fun e : FabricEpoch => e.value.toNat) hdue.epoch).le
    history := hhistory.sublist (List.drop_sublist _ _)
    last := by
      have hbound : 0 < g.options.maxAuditRecords.toNat := h.options ▸ ho.audit
      show ((g.state.audit ++ [x.record]).drop _).getLast? = _
      rw [getLast?_drop_sub hbound, List.getLast?_concat, List.getLast?_concat]
    nodup := hnodup
    houses := hhouses' }

end

end

/-! ## Every step -/

/-- A step under these options that finds an id for its decision. -/
structure Step.Under (o : GovernorOptions) (t : Step) : Prop where
  options : ∀ options policy, t.command = .openRuntime options policy → options = o
  ids : ¬ t.ExhaustsIds

/-- No call but an evaluation gives an id. -/
theorem Governor.Effect.issued_eq {g g' : Governor} {c : Command} {reply : Reply}
    (h : Governor.Effect g c reply g') (hc : c.opens = false) (hquiet : c.journals = false) :
    g'.state.decisionsIssued = g.state.decisionsIssued := by
  have hsame {x : Governor} (hcore : g'.core = x.core) : g'.state.decisionsIssued = x.state.decisionsIssued :=
    Governor.core_congr (·.state.decisionsIssued) (fun _ => rfl) hcore
  cases h with
  | kept _ hcore => exact hsame hcore
  | opened => cases hc
  | stopped _ hcore => exact (hsame hcore).trans rfl
  | installed _ _ hcore => exact (hsame hcore).trans rfl
  | advanced _ hcore => exact (hsame hcore).trans rfl
  | registered _ hcore => exact (hsame hcore).trans rfl
  | adopted hcore => exact (hsame hcore).trans rfl
  | ingested _ h => exact (Governor.rest_congr (·.state.decisionsIssued) (fun _ => rfl) h.rest :)
  | evaluated h => cases hquiet

section

variable {o : GovernorOptions} {m : Mark} {b : DurableState} {rs : List AuditRecord} {g g' : Governor}

/-- A call that records nothing. -/
theorem Numbering.quiet {c : Command} {reply : Reply} {disk disk' : Disk} (h : Numbering o m b rs g)
    (hc : c.opens = false) (hquiet : c.journals = false) (hends : Governor.Ends g c disk reply g' disk') :
    Numbering o m b rs g' :=
  h.congr (hends.effect.options_eq hc) (hends.effect.issued_eq hc hquiet) (hends.effect.keys_eq hc hquiet)
    (hends.quiet hquiet).audit (hends.quiet hquiet).clock (hends.effect.le_epoch hc)

theorem Governor.due_ruling {x : Governor} {order : MapOrder} {wall : UInt64} {request : EvaluationRequest}
    (hcore : g.core = x.core) (hclock : g.clock = (x.ticking request).clock) (hserves : x.Serves request)
    (hids : x.state.decisionsIssued ≠ UInt64.ofNat u64Max) :
    g.Due request.domain (x.ruling order wall request) := by
  have hissued : g.state.decisionsIssued = x.state.decisionsIssued :=
    Governor.core_congr (·.state.decisionsIssued) (fun _ => rfl) hcore
  have htick : g.clock.tick = max request.tick x.clock.tick := by
    rw [hclock]
    exact LogicalClock.tick_observe (le_max_right_u64 _ _)
  have hdomains : g.state.domains = x.state.domains :=
    Governor.core_congr (·.state.domains) (fun _ => rfl) hcore
  have hplace : g.runtime request.domain = none → g.state.domains.length < kMaxDomainsState := by
    rw [Governor.runtime, hdomains]
    exact hserves.place
  exact {
    id := congrArg (· + 1) hissued.symm
    decision := congrArg (· + 1) hissued.symm
    tick := htick.symm
    epoch := (Governor.core_congr (·.state.epoch) (fun _ => rfl) hcore).symm
    names := rfl
    working := Governor.rule_working_domain
    place := hplace
    more := hissued ▸ hids }

theorem upkeep_numbering (ho : o.Lossless) :
    Upkeep (Step.Under o) (Numbered o m) (Numbering o m) where
  recovered hC hc h := by
    obtain rfl := hC.options _ _ hc
    rw [readable_eq (h.within ho)]
    exact h
  loaded hC hc h hstarts _ _ := by
    obtain rfl := hC.options _ _ hc
    rw [readable_eq (h.within ho)] at hstarts ⊢
    exact h.reopened ho hstarts
  cold h := h.numbered
  called _ hc hquiet h hends _ _ _ := h.quiet hc hquiet hends
  settled _ hc hquiet h hends _ _ := (h.quiet hc hquiet hends).saved
  ticking h := h.congr rfl rfl rfl rfl LogicalClock.le_observe (UInt64.le_refl _)
  compacted _ _ h _ _ _ := h.compacted ho
  recorded hC hc h hlog hcore hclock hserves hroom :=
    h.recorded ho hlog hroom (Governor.due_ruling hcore hclock hserves fun hids => hC.ids ⟨⟨_, _, _, hc⟩, hids⟩)
  unsaved h := h.congr rfl rfl rfl rfl (UInt64.le_refl _) (UInt64.le_refl _)
  saved {b rs g} h := by
    have hsaved : Numbering o m b rs g.saved :=
      h.congr rfl rfl rfl rfl (UInt64.le_refl _) (UInt64.le_refl _)
    exact hsaved.saved

theorem founds_numbering : Founds (Step.Under o) (Numbering o ⟨0, 0, 0⟩) := by
  intro t options policy g hC hc hstarts _ _
  obtain rfl := hC.options _ _ hc
  have hissued : g.state.decisionsIssued = 0 := (congrArg (·.decisionsIssued) hstarts.core :)
  have hdomains : g.state.domains = [] := (congrArg (·.domains) hstarts.core :)
  have haudit : g.state.audit = [] := hstarts.audit
  have hkeys : g.state.keys = [] := by rw [DurableState.keys, hdomains]; rfl
  have hnone {keys : List OversubscriptionDomainId} : Chronicle keys [] := ⟨rising_nil, nofun, nofun⟩
  have hhouses : Houses [] g.state [] := by
    refine ⟨?_, ?_, nofun, Nat.zero_le _⟩
    · rw [hdomains]
      exact List.nodup_nil
    · rw [hdomains]
      exact nofun
  have hnumbered : Numbered options ⟨0, 0, 0⟩ g.state [] := {
    journal := ⟨_, hnone, hhouses⟩
    history := haudit ▸ hnone
    issued := by rw [hissued]; exact Nat.le_refl _
    past := by
      rw [haudit]
      exact List.forall_mem_nil _
    count := Nat.zero_le _
    mark := ⟨Nat.le_refl _, Nat.le_refl _, Nat.le_refl _⟩ }
  exact {
    numbered := hnumbered
    options := hstarts.configured
    issued := by rw [hissued]; rfl
    tick := Nat.zero_le _
    epoch := Nat.zero_le _
    history := haudit ▸ hnone
    last := congrArg List.getLast? haudit
    nodup := hkeys ▸ List.nodup_nil
    houses := hkeys ▸ hhouses }

/-- A mark that has been reached. -/
theorem Numbered.marked {n : Mark} (h : Numbered o n b rs) (hm : m.Le (lastMark rs)) : Numbered o m b rs :=
  { h with mark := hm }

theorem Filed.marked {n : Mark} {s : System} (h : Filed (Numbered o n) (Numbering o n) b rs s)
    (hm : m.Le (lastMark rs)) : Filed (Numbered o m) (Numbering o m) b rs s :=
  ⟨h.saved, h.policy, h.framed, h.cold.marked hm, fun hopen =>
    ⟨(h.warm hopen).1, { (h.warm hopen).2 with numbered := (h.warm hopen).2.numbered.marked hm }⟩⟩

end

/-! ## Decisions over a run -/

section

variable {o : GovernorOptions} {m : Mark} {b : DurableState} {rs : List AuditRecord} {t : Step} {d : Decision}
  {domain : OversubscriptionDomainId}

/-- The record of a decision is the last one of the history. -/
theorem Step.Issues.logged (h : t.Issues domain d) (hclean : t.Clean)
    (hlog : t.before.governor.Journaling t.before.disk rs)
    (haudit : 0 < t.before.governor.options.maxAuditRecords.toNat) :
    ∃ r, t.after.governor.state.audit.getLast? = some r ∧ r.mark = d.mark := by
  obtain ⟨⟨order, wall, tick, hc⟩, hreply⟩ := h
  have hjournals : t.command.journals = true := Command.journals_eq_true.mpr ⟨_, _, _, hc⟩
  have hlast {x : Governor} {disk₁ : Disk} {rs₁ : List AuditRecord}
      (happend : Governor.Appends (t.before.governor.ticking ⟨domain, tick⟩) t.before.disk rs
        (t.before.governor.ruling order wall ⟨domain, tick⟩).record (.success, x) disk₁ rs₁) :
      x.state.audit.getLast? = some (t.before.governor.ruling order wall ⟨domain, tick⟩).record := by
    obtain ⟨g₁, disk₁, rs₁, hready, -, hx, -⟩ := happend.inv rfl
    replace hx : x = g₁.journaled (t.before.governor.ruling order wall ⟨domain, tick⟩).record := hx
    have hoptions : g₁.options = t.before.governor.options :=
      (Governor.core_congr (·.options) (fun _ => rfl) hready.core :)
    rw [hx]
    show ((g₁.state.audit ++ [_]).drop _).getLast? = _
    rw [getLast?_drop_sub (hoptions ▸ haudit), List.getLast?_concat]
  rcases System.falters_step hc (hclean hjournals) hlog with ⟨result, rs', hresult, hend⟩ | ⟨hnone, -⟩
  · have hok : result = .ok d := Reply.decided.inj (Option.some.inj (hresult.symm.trans hreply))
    show ∃ r, (t.before.step t.label).governor.state.audit.getLast? = some r ∧ _
    rw [hok] at hend
    generalize (t.before.step t.label).governor = x, (t.before.step t.label).disk = disk' at hend
    rcases hend with hdecides | ⟨-, hfalters⟩
    · cases hdecides with
      | recorded _ happend =>
          have hrecord := hlast happend
          exact ⟨_, hrecord, rfl⟩
      | saved _ happend =>
          have hrecord := hlast happend
          exact ⟨_, hrecord, rfl⟩
    · cases hfalters
  · exact absurd (hnone.symm.trans hreply) nofun

/-- A decision is beyond every mark that has been reached. -/
theorem Step.Issues.after (h : t.Issues domain d) (hids : ¬ t.ExhaustsIds)
    (hnumbering : Numbering o m b rs t.before.governor) :
    m.id < d.mark.id ∧ m.tick ≤ d.mark.tick ∧ m.epoch ≤ d.mark.epoch := by
  obtain ⟨⟨order, wall, tick, hc⟩, hreply⟩ := h
  obtain ⟨-, hd, -⟩ := Governor.ruling_of_reply hc hreply
  have hmark := hnumbering.numbered.mark
  have hmore : t.before.governor.state.decisionsIssued.toNat ≠ 2 ^ 64 - 1 := fun heq =>
    hids ⟨⟨order, wall, _, hc⟩, UInt64.toNat_inj.mp heq⟩
  refine ⟨?_, ?_, ?_⟩
  · have hid : d.id.value = t.before.governor.state.decisionsIssued + 1 := congrArg (fun d => d.id.value) hd
    have hlt := t.before.governor.state.decisionsIssued.toNat_lt
    have hissued := hnumbering.issued
    have hle := hmark.id
    show _ < d.id.value.toNat
    rw [hid, UInt64.toNat_add, UInt64.toNat_one]
    omega
  · refine (hmark.tick.trans hnumbering.tick).trans ?_
    show _ ≤ d.issuedTick.toNat
    rw [Governor.issuedTick_eq hc hreply]
    exact UInt64.le_iff_toNat_le.mp (le_max_right_u64 _ _)
  · refine (hmark.epoch.trans hnumbering.epoch).trans ?_
    show _ ≤ d.epoch.value.toNat
    rw [congrArg Decision.epoch hd]
    exact Nat.le_refl _

end

/-- The runtimes of a run from a point on, opened again or not. -/
theorem incarnation_of_run {disk : Disk} {ts vs : List Step} {a s : System} (ha : SessionRun disk ts a)
    (hopen : a.governor.isOpen = true) (hrun : Run System.step a vs s) (hopen' : s.governor.isOpen = true) :
    a.governor.state.incarnation.value ≤ s.governor.state.incarnation.value ∧
      ((∃ v ∈ vs, Step.Reopens v) → a.governor.state.incarnation.value < s.governor.state.incarnation.value) := by
  have hsince := since_of_run ha hopen
  refine ⟨(hsince.of_run ha hrun).incarnation hopen', fun ⟨v, hv, hreopens⟩ => ?_⟩
  obtain ⟨before, after, rfl⟩ := List.append_of_mem hv
  obtain ⟨hbefore, hafter⟩ := hrun.at_step
  obtain ⟨n, hn, hlater⟩ := System.since_reopened (hsince.of_run ha hbefore) hreopens
  have hstart : SessionRun disk _ (v.before.step v.label) := (ha.append hbefore).snoc v.label
  exact UInt64.lt_of_lt_of_le hn ((hlater.of_run hstart hafter).incarnation hopen')

/-- The invariant before a step of a run on an empty directory that issues a
decision, and with the mark of the decision after it. -/
theorem numbering_of_run {o : GovernorOptions} {disk : Disk} {us : List Step} {t : Step}
    {domain : OversubscriptionDomainId} {d : Decision} (hus : SessionRun disk us t.before)
    (hstate : disk .state = none) (hjournal : disk .journal = none) (ho : o.Lossless)
    (hunder : ∀ u ∈ us, Step.Under o u ∧ u.Clean) (ht : t.Under o ∧ t.Clean) (hd : t.Issues domain d) :
    ∃ b rs, Filed (Numbered o d.mark) (Numbering o d.mark) b rs t.after := by
  obtain ⟨⟨order, wall, tick, hc⟩, hreply⟩ := id hd
  obtain ⟨hopen, -, hcore⟩ := Governor.ruling_of_reply hc hreply
  rcases (upkeep_numbering ho).run founds_numbering hus hstate hjournal (fun u hu => (hunder u hu).1)
    (fun u hu => (hunder u hu).2) with hunused | ⟨b, rs, hfiled⟩
  · exact absurd hopen (by simp [hunused.isOpen])
  · obtain ⟨hlog, hwarm⟩ := hfiled.warm hopen
    obtain ⟨r, hlast, hmark⟩ := hd.logged ht.2 hlog (hwarm.options ▸ ho.audit)
    obtain ⟨b', rs', hfiled'⟩ : ∃ b' rs', Filed (Numbered o ⟨0, 0, 0⟩) (Numbering o ⟨0, 0, 0⟩) b' rs' t.after :=
      (upkeep_numbering ho).step hfiled (live_of_run hus) ht.1 ht.2
    have hopen' : t.after.governor.isOpen = true :=
      (Governor.core_congr (·.isOpen) (fun _ => rfl) hcore).trans hopen
    have hnewest : lastMark rs' = d.mark := by
      have hsame := (hfiled'.warm hopen').2.last
      rw [hlast] at hsame
      obtain ⟨older, rfl⟩ := List.getLast?_eq_some_iff.mp hsame.symm
      rw [lastMark_snoc, hmark]
    have hle : d.mark.Le (lastMark rs') := by
      rw [hnewest]
      exact ⟨Nat.le_refl _, Nat.le_refl _, Nat.le_refl _⟩
    exact ⟨b', rs', hfiled'.marked hle⟩

namespace Governor

theorem lossless_sample : sampleOptions.Lossless := ⟨by decide, by decide, by decide, by decide⟩

/-- The steps of a session of two decisions. -/
def twoDecisions (disk disk' : Disk) : List Step :=
  [⟨System.boot emptyDisk, openCall samplePolicy⟩] ++ ⟨⟨started samplePolicy, disk⟩, evaluateCall⟩ :: [] ++
    ⟨⟨decidedOnce, disk'⟩, evaluateCall⟩ :: []

theorem twoDecisions_run : ∃ disk disk' s, SessionRun emptyDisk (twoDecisions disk disk') s ∧
    Step.Issues ⟨⟨started samplePolicy, disk⟩, evaluateCall⟩ ⟨1⟩
      ((started samplePolicy).ruling .listed 0 sampleRequest).decision ∧
    Step.Issues ⟨⟨decidedOnce, disk'⟩, evaluateCall⟩ ⟨1⟩ (decidedOnce.ruling .listed 0 sampleRequest).decision := by
  obtain ⟨disk, hopen⟩ := sample_started
  have hfirst : Answers .listed 0 (started samplePolicy) sampleRequest :=
    (roomy_started sample_checks.1).answers rfl
  have hsecond : Answers .listed 0 decidedOnce sampleRequest :=
    ((roomy_started sample_checks.1).decided rfl : Roomy 99 decidedOnce).answers rfl
  obtain ⟨hissues, disk', hstep⟩ := issues_of_answers disk hfirst
  obtain ⟨hissues', -⟩ := issues_of_answers disk' hsecond
  have hrun : SessionRun emptyDisk _ _ :=
    ((Run.nil.snoc (openCall samplePolicy)).snoc evaluateCall).snoc evaluateCall
  replace hstep : System.step ⟨started samplePolicy, disk⟩ evaluateCall = ⟨decidedOnce, disk'⟩ := hstep
  rw [hopen, hstep] at hrun
  exact ⟨disk, disk', _, hrun, hissues, hissues'⟩

theorem under_twoDecisions (disk disk' : Disk) :
    ∀ u ∈ twoDecisions disk disk', Step.Under sampleOptions u ∧ u.Clean := by
  have hopen {s : System} : Step.Under sampleOptions ⟨s, openCall samplePolicy⟩ :=
    ⟨fun _ _ hc => (Command.openRuntime.inj hc).1.symm, fun ⟨⟨_, _, _, hc⟩, _⟩ => (nomatch hc)⟩
  have hevaluate {s : System} (hids : s.governor.state.decisionsIssued ≠ UInt64.ofNat u64Max) :
      Step.Under sampleOptions ⟨s, evaluateCall⟩ := ⟨fun _ _ hc => (nomatch hc), fun h => hids h.2⟩
  have hclean (s : System) {c : System.Call} (hfates : c.fates = []) : Step.Clean ⟨s, c⟩ :=
    (journals_of_fates hfates).clean
  have hids : (started samplePolicy).state.decisionsIssued ≠ UInt64.ofNat u64Max ∧
      decidedOnce.state.decisionsIssued ≠ UInt64.ofNat u64Max := by
    rw [show decidedOnce.state.decisionsIssued = 1 from rfl, show (started samplePolicy).state.decisionsIssued = 0
      from rfl]
    decide
  rw [twoDecisions, List.forall_mem_append, List.forall_mem_append, List.forall_mem_singleton,
    List.forall_mem_cons, List.forall_mem_cons]
  exact ⟨⟨⟨hopen, hclean _ rfl⟩, ⟨hevaluate hids.1, hclean _ rfl⟩, List.forall_mem_nil _⟩,
    ⟨hevaluate hids.2, hclean _ rfl⟩, List.forall_mem_nil _⟩

end Governor

end Oversub
