import Oversub.State
import Oversub.Lib.Ledger

/-!
# Oversub.Replay

What a replay makes of records whose ids rise: each is put into the table of
domains in turn, so the last record of a domain decides its runtime state,
whatever the state before the replay knew of it.
-/

namespace Oversub

/-- The number a replay orders the records by. -/
def AuditRecord.number (record : AuditRecord) : Nat := record.id.value.toNat

/-- The last record of a domain. -/
def lastRecord (domain : OversubscriptionDomainId) (records : List AuditRecord) :
    Option AuditRecord := Ledger.last (·.domain) domain records

/-- Records in the order of their ids, all above `n`. -/
abbrev Rising (n : Nat) (records : List AuditRecord) : Prop :=
  Ledger.Rising AuditRecord.number n records

namespace DomainRuntimeState

/-- The runtime state a record describes. -/
def ofRecord (record : AuditRecord) : DomainRuntimeState := (fresh record).replayed record

@[simp] theorem domain_ofRecord {record : AuditRecord} : (ofRecord record).domain = record.domain := rfl

@[simp] theorem lastDecision_ofRecord {record : AuditRecord} :
    (ofRecord record).lastDecision = record.decision := rfl

@[simp] theorem fenced_ofRecord {record : AuditRecord} : (ofRecord record).fenced = record.fenced := rfl

/-- A record leaves nothing of the runtime state before it. -/
theorem replayed_eq {d : DomainRuntimeState} {record : AuditRecord} (h : d.domain = record.domain) :
    d.replayed record = ofRecord record := by
  simp [replayed, ofRecord, fresh, h]

end DomainRuntimeState

namespace DurableState

/-- The state after a record was applied. -/
def applying (s : DurableState) (record : AuditRecord) : DurableState :=
  { s with
    domains := Table.put (·.domain) (DomainRuntimeState.ofRecord record) s.domains
    decisionsIssued := max s.decisionsIssued record.id.value
    tick := max s.tick record.tick
    epoch := if record.epoch.value ≤ s.epoch.value then s.epoch else record.epoch }

end DurableState

section

variable {r : Replay} {s : DurableState} {record : AuditRecord} {records : List AuditRecord}
  {domain : OversubscriptionDomainId} {keys : List OversubscriptionDomainId}

theorem modify_replayed (l : List DomainRuntimeState) :
    Table.modify (·.domain) record.domain (·.replayed record) l =
      Table.modify (·.domain) record.domain (fun _ => DomainRuntimeState.ofRecord record) l := by
  induction l with
  | nil => rfl
  | cons d l ih =>
      by_cases h : d.domain = record.domain
      · rw [Table.modify, Table.modify, if_pos h, if_pos h, DomainRuntimeState.replayed_eq h]
      · rw [Table.modify, Table.modify, if_neg h, if_neg h, ih]

/-- A record in order is applied, where its domain is in the table or has a
place in it. -/
theorem replayRecord_eq (hid : r.previousId.toNat < record.number)
    (hroom : Table.get (·.domain) record.domain r.state.domains = none →
      r.state.domains.length < kMaxDomainsState) :
    replayRecord r record =
      { state := r.state.applying record
        report := { r.report with
          recordsSeen := r.report.recordsSeen + 1
          recordsApplied := r.report.recordsApplied + 1 }
        previousId := record.id.value } := by
  have hnew : ¬ record.id.value ≤ r.previousId := by
    rw [UInt64.not_le, UInt64.lt_iff_toNat_lt]
    exact hid
  unfold replayRecord
  rw [if_neg hnew]
  cases hfind : Table.get (·.domain) record.domain r.state.domains with
  | some d =>
      dsimp only
      rw [DurableState.applying, Table.put, DomainRuntimeState.domain_ofRecord, hfind,
        DurableState.replayed, modify_replayed]
  | none =>
      dsimp only
      have hlast : Table.modify (·.domain) record.domain (·.replayed record)
          (r.state.domains ++ [DomainRuntimeState.fresh record]) =
            r.state.domains ++ [DomainRuntimeState.ofRecord record] := by
        have hnone := hfind
        rw [Table.get_eq_none] at hnone
        generalize r.state.domains = l at hnone ⊢
        induction l with
        | nil => simp [Table.modify, DomainRuntimeState.fresh, DomainRuntimeState.ofRecord]
        | cons d l ih =>
            rw [List.map_cons, List.mem_cons, not_or] at hnone
            rw [List.cons_append, Table.modify, if_neg (Ne.symm hnone.1), ih hnone.2, List.cons_append]
      rw [if_neg (Nat.not_le.mpr (hroom hfind)), DurableState.applying, Table.put,
        DomainRuntimeState.domain_ofRecord, hfind, DurableState.replayed]
      dsimp only
      rw [hlast]

/-! ## Whole replays -/

/-- Some domains, as many as the table may have, among them those of a state
and of the records to be replayed over it. -/
structure Houses (keys : List OversubscriptionDomainId) (s : DurableState)
    (records : List AuditRecord) : Prop where
  nodup : (s.domains.map (·.domain)).Nodup
  domains : ∀ domain ∈ s.domains.map (·.domain), domain ∈ keys
  records : ∀ record ∈ records, record.domain ∈ keys
  bound : keys.length ≤ kMaxDomainsState

theorem Houses.room (h : Houses keys s (record :: records))
    (hnone : Table.get (·.domain) record.domain s.domains = none) :
    s.domains.length < kMaxDomainsState := by
  rw [Table.get_eq_none] at hnone
  have hnodup : (record.domain :: s.domains.map (·.domain)).Nodup := List.nodup_cons.mpr ⟨hnone, h.nodup⟩
  have hsubset : record.domain :: s.domains.map (·.domain) ⊆ keys :=
    List.cons_subset.mpr ⟨h.records record List.mem_cons_self, h.domains⟩
  have hlength := (hnodup.subperm hsubset).length_le
  rw [List.length_cons, List.length_map] at hlength
  have hbound := h.bound
  omega

theorem Houses.applying (h : Houses keys s (record :: records)) :
    Houses keys (s.applying record) records where
  nodup := Table.nodup_put h.nodup
  domains := by
    intro domain hdomain
    rcases Table.mem_keys_put.mp hdomain with rfl | hold
    · exact h.records record List.mem_cons_self
    · exact h.domains domain hold
  records := fun record' hrecord' => h.records record' (List.mem_cons_of_mem _ hrecord')
  bound := h.bound

/-- **A replay in order** applies every record. -/
theorem foldl_replayRecord_eq (hrising : Rising r.previousId.toNat records)
    (h : Houses keys r.state records) :
    (records.foldl replayRecord r).state = records.foldl DurableState.applying r.state ∧
      (records.foldl replayRecord r).report = { r.report with
        recordsSeen := r.report.recordsSeen + UInt64.ofNat records.length
        recordsApplied := r.report.recordsApplied + UInt64.ofNat records.length } := by
  induction records generalizing r with
  | nil => simp
  | cons record records ih =>
      obtain ⟨hid, hrest⟩ := Ledger.rising_cons.mp hrising
      rw [List.foldl_cons, List.foldl_cons, replayRecord_eq hid h.room]
      obtain ⟨hstate, hreport⟩ := ih (r := ⟨_, _, record.id.value⟩) hrest h.applying
      refine ⟨hstate, hreport.trans ?_⟩
      simp [UInt64.add_assoc, UInt64.add_comm]

theorem rebuildFromAudit_eq (hrising : Rising 0 records) (h : Houses keys s records) :
    (rebuildFromAudit s records).1 = records.foldl DurableState.applying s :=
  (foldl_replayRecord_eq (r := { state := s }) hrising h).1

theorem domains_foldl_applying : (records.foldl DurableState.applying s).domains =
    records.foldl (fun t record => Table.put (·.domain) (DomainRuntimeState.ofRecord record) t)
      s.domains := by
  induction records generalizing s with
  | nil => rfl
  | cons record records ih => rw [List.foldl_cons, List.foldl_cons, ih, DurableState.applying]

/-- The last record of a domain decides, or the state before. -/
theorem get_foldl_applying : Table.get (·.domain) domain (records.foldl DurableState.applying s).domains =
    ((lastRecord domain records).map DomainRuntimeState.ofRecord).or
      (Table.get (·.domain) domain s.domains) := by
  rw [domains_foldl_applying]
  exact Ledger.get_foldl_put (fun _ => DomainRuntimeState.domain_ofRecord) _

/-- The decisions issued, after records in order. -/
theorem decisionsIssued_foldl_applying (hrising : Rising s.decisionsIssued.toNat records) :
    (records.foldl DurableState.applying s).decisionsIssued =
      ((records.getLast?.map fun r => r.id.value).getD s.decisionsIssued) := by
  induction records generalizing s with
  | nil => rfl
  | cons record records ih =>
      obtain ⟨hid, hrest⟩ := Ledger.rising_cons.mp hrising
      have hmax : (s.applying record).decisionsIssued = record.id.value := by
        have hle : s.decisionsIssued ≤ record.id.value :=
          UInt64.le_iff_toNat_le.mpr (Nat.le_of_lt hid)
        exact if_pos hle
      rw [List.foldl_cons, ih (by rw [hmax]; exact hrest), hmax, List.getLast?_cons]
      cases records.getLast? <;> rfl

end

end Oversub
