import Oversub.Replay
import Oversub.Runtime.Replayed

/-!
# Oversub.Runtime.Merge

What a load makes of a state file and a journal of which each may be ahead of
the other: the journal's last record of a domain takes the place of what the
state file has, whichever is newer.
-/

namespace Oversub

open Wire Crash Files

section

variable {options : StoreOptions} {disk disk₁ disk₂ : Disk} {records records' : List AuditRecord}
  {decoded state : DurableState} {domain : OversubscriptionDomainId}
  {keys : List OversubscriptionDomainId}

/-! ## The records of a journal -/

/-- A journal is read back in one way. -/
theorem Recovers.unique (h : Recovers options disk records disk₁)
    (h' : Recovers options disk records' disk₂) : records' = records := by
  cases h with
  | absent hnone =>
      cases h' with
      | absent => rfl
      | intact hsome => exact absurd (hnone.symm.trans hsome) nofun
      | rewritten hsome => exact absurd (hnone.symm.trans hsome) nofun
  | intact hsome =>
      cases h' with
      | absent hnone => exact absurd (hnone.symm.trans hsome) nofun
      | intact hsome' => rw [Option.some.inj (hsome.symm.trans hsome')]
      | rewritten hsome' => rw [Option.some.inj (hsome.symm.trans hsome')]
  | rewritten hsome =>
      cases h' with
      | absent hnone => exact absurd (hnone.symm.trans hsome) nofun
      | intact hsome' => rw [Option.some.inj (hsome.symm.trans hsome')]
      | rewritten hsome' => rw [Option.some.inj (hsome.symm.trans hsome')]

/-- The state that is loaded, from the state that was saved. -/
theorem loads_saved {payload : List UInt8} (hfile : disk .state = some (makeStateFile payload))
    (hpayload : serializeState decoded = .ok payload) (hlength : payload.length < 2 ^ 64)
    (hpolicy : (validatePolicy decoded.policy).isOk = true) (h : Loads options disk state disk₁)
    (hrecovers : Recovers options disk records disk₂) :
    state = (recoverState options decoded records).1 := by
  obtain ⟨bytes, decoded', records', hbytes, hdecoded, hrecovers', rfl⟩ := h.found
  obtain rfl := Option.some.inj (hfile.symm.trans hbytes)
  obtain ⟨-, -, -, rfl⟩ := (decodeStateFile_saved hpayload hlength hpolicy).mp hdecoded
  rw [hrecovers.unique hrecovers']

/-! ## Domains and history -/

theorem Houses.congr {s s' : DurableState} (h : Houses keys s records) (hdomains : s'.domains = s.domains) :
    Houses keys s' records :=
  ⟨hdomains ▸ h.nodup, hdomains ▸ h.domains, h.records, h.bound⟩

/-- The runtime state of a domain after a recovery. -/
theorem get_recoverState (hrising : Rising 0 records) (h : Houses keys decoded records) :
    Table.get (·.domain) domain (recoverState options decoded records).1.domains =
      ((lastRecord domain records).map DomainRuntimeState.ofRecord).or
        (Table.get (·.domain) domain decoded.domains) := by
  unfold recoverState
  by_cases hnil : records = []
  · rw [if_pos hnil, hnil]
    rfl
  · have hmerged : Houses keys { decoded with audit := mergeAudit options decoded.audit records }
        records := h.congr rfl
    rw [if_neg hnil]
    dsimp only
    rw [rebuildFromAudit_eq hrising hmerged, get_foldl_applying]

/-- The history after a recovery. -/
theorem audit_recoverState : (recoverState options decoded records).1.audit =
    if records = [] then decoded.audit else mergeAudit options decoded.audit records := by
  unfold recoverState
  by_cases hnil : records = []
  · rw [if_pos hnil, if_pos hnil]
  · rw [if_neg hnil, if_neg hnil, rebuildFromAudit, foldl_replayRecord_frame]

/-- No record newer than the journal is in the history of a recovery. -/
theorem le_of_mem_mergeAudit (hrising : Rising 0 records) {newest record : AuditRecord}
    (hnewest : records.getLast? = some newest) (h : record ∈ mergeAudit options decoded.audit records) :
    record.number ≤ newest.number := by
  rcases List.mem_append.mp (List.mem_of_mem_drop h) with hold | hnew
  · have hbefore : record.id.value < (records.head?.map fun r => r.id.value).getD 0 := by
      simpa using (List.mem_filter.mp hold).2
    cases records with
    | nil => cases hnewest
    | cons oldest rest =>
        have hle : oldest.number ≤ newest.number :=
          hrising.le_getLast hnewest List.mem_cons_self
        exact Nat.le_trans (Nat.le_of_lt (UInt64.lt_iff_toNat_lt.mp hbefore)) hle
  · exact hrising.le_getLast hnewest hnew

/-! ## The newer of both -/

/-- A recovered runtime state, of the newer of what the state file has of a
domain and the journal's last record of it. -/
structure Newest (saved : Option DomainRuntimeState) (last : Option AuditRecord)
    (recovered : Option DomainRuntimeState) : Prop where
  lastDecision : (recovered.map fun d => d.lastDecision.value) =
    max (saved.map fun d => d.lastDecision.value) (last.map fun r => r.decision.value)
  ofSaved : ∀ d, saved = some d →
    (∀ r, last = some r → r.decision.value < d.lastDecision.value) → recovered = some d
  ofJournal : ∀ r, last = some r →
    (∀ d, saved = some d → d.lastDecision.value < r.decision.value) → recovered = some (.ofRecord r)

/-- What takes the journal first is the newer exactly when the journal is not
behind. -/
theorem newest_iff {saved : Option DomainRuntimeState} {last : Option AuditRecord} :
    Newest saved last ((last.map DomainRuntimeState.ofRecord).or saved) ↔
      ∀ d r, saved = some d → last = some r → d.lastDecision.value ≤ r.decision.value := by
  cases last with
  | none =>
      refine ⟨fun _ _ _ _ h => (nomatch h), fun _ => ⟨?_, ?_, nofun⟩⟩
      · cases saved <;> rfl
      · exact fun _ hd _ => hd
  | some r =>
      cases saved with
      | none =>
          refine ⟨fun _ _ _ h => (nomatch h), fun _ => ⟨rfl, nofun, ?_⟩⟩
          intro r' hr' _
          rw [← Option.some.inj hr']
          rfl
      | some d =>
          constructor
          · intro h d' r' hd' hr'
            obtain rfl := Option.some.inj hd'
            obtain rfl := Option.some.inj hr'
            have hmax : r.decision.value = max d.lastDecision.value r.decision.value :=
              Option.some.inj h.lastDecision
            by_contra hlt
            have hleft : max d.lastDecision.value r.decision.value = d.lastDecision.value := if_neg hlt
            rw [hmax, hleft] at hlt
            exact hlt UInt64.le_rfl
          · intro h
            have hle := h d r rfl rfl
            have hright : max d.lastDecision.value r.decision.value = r.decision.value := if_pos hle
            refine ⟨congrArg some hright.symm, ?_, ?_⟩
            · intro d' hd' hnewer
              obtain rfl := Option.some.inj hd'
              exact absurd (hnewer r rfl) (UInt64.not_lt.mpr hle)
            · intro r' hr' _
              rw [← Option.some.inj hr']
              rfl

/-- A loaded history has every record that is newer than the journal. -/
def KeepsNewer (saved : List AuditRecord) (records loaded : List AuditRecord) : Prop :=
  ∀ a ∈ saved, (∀ newest, records.getLast? = some newest → newest.number < a.number) → a ∈ loaded

/-- The journal is not behind the history of the state file. -/
def Covers (records saved : List AuditRecord) : Prop :=
  ∀ newest, records.getLast? = some newest → ∀ a ∈ saved, a.number ≤ newest.number

theorem keepsNewer_iff (hrising : Rising 0 records) :
    KeepsNewer decoded.audit records (recoverState options decoded records).1.audit ↔
      Covers records decoded.audit := by
  rw [audit_recoverState]
  by_cases hnil : records = []
  · subst hnil
    exact iff_of_true (fun _ ha _ => ha) nofun
  · rw [if_neg hnil]
    constructor
    · intro h newest hnewest a ha
      by_contra hbehind
      have hmem : a ∈ mergeAudit options decoded.audit records := by
        refine h a ha fun newest' hnewest' => ?_
        rw [← Option.some.inj (hnewest.symm.trans hnewest')]
        exact Nat.not_le.mp hbehind
      exact hbehind (le_of_mem_mergeAudit hrising hnewest hmem)
    · intro h a ha hnewer
      cases hlast : records.getLast? with
      | none => exact absurd (List.getLast?_eq_none_iff.mp hlast) hnil
      | some newest =>
          have hle := h newest hlast a ha
          have hlt := hnewer newest hlast
          omega

/-- **Recovery takes the journal first**: its last record of a domain, and the
state file for the domains and the history it does not name.  That is the newer
of both exactly when the journal is behind for no domain, nor for the history. -/
theorem recovery_takes_journal {payload : List UInt8} (hfile : disk .state = some (makeStateFile payload))
    (hpayload : serializeState decoded = .ok payload) (hlength : payload.length < 2 ^ 64)
    (hpolicy : (validatePolicy decoded.policy).isOk = true) (hloads : Loads options disk state disk₁)
    (hrecovers : Recovers options disk records disk₂) (hrising : Rising 0 records)
    (hhouses : Houses keys decoded records) :
    (∀ domain, Table.get (·.domain) domain state.domains =
        ((lastRecord domain records).map DomainRuntimeState.ofRecord).or
          (Table.get (·.domain) domain decoded.domains)) ∧
      (records = [] → state.audit = decoded.audit) ∧
      (∀ newest, records.getLast? = some newest → ∀ a ∈ state.audit, a.number ≤ newest.number) ∧
      (((∀ domain, Newest (Table.get (·.domain) domain decoded.domains) (lastRecord domain records)
            (Table.get (·.domain) domain state.domains)) ∧
          KeepsNewer decoded.audit records state.audit) ↔
        (∀ domain d r, Table.get (·.domain) domain decoded.domains = some d →
          lastRecord domain records = some r → d.lastDecision.value ≤ r.decision.value) ∧
          Covers records decoded.audit) := by
  obtain rfl := loads_saved hfile hpayload hlength hpolicy hloads hrecovers
  refine ⟨fun domain => get_recoverState hrising hhouses, ?_, ?_, ?_⟩
  · intro hnil
    rw [audit_recoverState, if_pos hnil]
  · intro newest hnewest a ha
    have hne : records ≠ [] := by
      rintro rfl
      cases hnewest
    rw [audit_recoverState, if_neg hne] at ha
    exact le_of_mem_mergeAudit hrising hnewest ha
  · rw [keepsNewer_iff hrising]
    simp only [get_recoverState hrising hhouses, newest_iff]

end

namespace Governor

/-! ## A journal that is behind -/

/-- The runtime after its first decision, and after its second. -/
def decidedOnce : Governor := (started samplePolicy).decided .listed 0 sampleRequest

def decidedTwice : Governor := decidedOnce.decided .listed 0 sampleRequest

/-- The record of the first decision. -/
def firstRecord : AuditRecord := ((started samplePolicy).ruling .listed 0 sampleRequest).record

/-- The state of the second decision with a journal of the first. -/
def behindDisk : Disk :=
  withState (replaced emptyDisk .journal (frames [firstRecord])) decidedTwice.stamped.state

theorem behind_checks :
    decidedTwice.stamped.state.domains.map (·.domain) = [⟨1⟩] ∧
    ((Table.get (·.domain) ⟨1⟩ decidedTwice.stamped.state.domains).map fun d => d.lastDecision.value) =
      some 2 ∧
    firstRecord.domain = ⟨1⟩ ∧ firstRecord.id.value = 1 ∧ firstRecord.decision.value = 1 ∧
    decidedTwice.stamped.state.audit.length = 2 := by
  decide +kernel

theorem roomy_decidedTwice : Roomy 98 decidedTwice :=
  ((roomy_started sample_checks.1).decided rfl : Roomy 99 decidedOnce).decided rfl

/-- The policy and its digest stay, over a decision. -/
theorem policy_decided {g : Governor} {request : EvaluationRequest} :
    (g.decided .listed 0 request).state.policy = g.state.policy ∧
      (g.decided .listed 0 request).state.policyDigest = g.state.policyDigest ∧
      (g.decided .listed 0 request).state.schemaVersion = g.state.schemaVersion :=
  ⟨rfl, rfl, rfl⟩

theorem policy_started (policy : OversubscriptionPolicy) :
    (started policy).state.policy = initialPolicy policy ∧
      (started policy).state.policyDigest = (started policy).state.policy.digest ∧
      (started policy).state.schemaVersion = kStateSchemaVersion := ⟨rfl, rfl, rfl⟩

theorem reads_behind : Store.Reads (openedStore sampleOptions behindDisk) behindDisk [firstRecord] := by
  have hfits : SummariesFit [firstRecord] := by
    intro r hr
    rw [List.mem_singleton.mp hr]
    exact summary_ruling_le
  have hle : (recordFrame firstRecord).length ≤ 510 := length_recordFrame_le (hfits _ (by simp))
  have hreplaced : Framed (replaced emptyDisk .journal (frames [firstRecord])) [firstRecord] [] :=
    framed_replaced hfits
  have hframed : Framed behindDisk [firstRecord] [] := hreplaced.congr withState_journal
  refine ⟨hframed, ⟨?_, (by decide : 0 + 1 ≤ sampleOptions.maxJournalRecords.toNat)⟩, ?_⟩
  · intro r hr
    rw [List.mem_singleton.mp hr]
    rw [length_recordFrame] at hle
    have hmax : 510 ≤ sampleOptions.maxStateBytes.toNat := by decide
    exact Nat.le_trans (by omega) hmax
  · rw [frames_singleton]
    exact Nat.le_trans hle (by decide)

theorem policy_decidedTwice : decidedTwice.state.policy = initialPolicy samplePolicy ∧
    decidedTwice.state.policyDigest = decidedTwice.state.policy.digest ∧
    decidedTwice.state.schemaVersion = kStateSchemaVersion := by
  obtain ⟨hpolicy, hdigest, hschema⟩ := policy_started samplePolicy
  rw [decidedTwice, policy_decided.1, policy_decided.2.1, policy_decided.2.2, decidedOnce,
    policy_decided.1, policy_decided.2.1, policy_decided.2.2]
  exact ⟨hpolicy, hdigest, hschema⟩

theorem readable_behind :
    Readable sampleOptions behindDisk decidedTwice.stamped.state [firstRecord] := by
  obtain ⟨hpolicy, hdigest, hschema⟩ := policy_decidedTwice
  refine readable_saved roomy_decidedTwice.savable rfl (by decide) withState_state reads_behind ?_
    hdigest ?_
  · rw [hpolicy]
    exact initialPolicy_sample
  · obtain ⟨hdomains, -, -, -, -, haudit⟩ := behind_checks
    have hlength := congrArg List.length hdomains
    rw [List.length_map] at hlength
    refine ⟨hschema, Nat.zero_le _, ?_, Nat.zero_le _, ?_⟩
    · rw [hlength]
      decide
    · rw [haudit]
      decide

theorem rising_behind : Rising 0 [firstRecord] := by
  have hnumber : firstRecord.number = 1 := congrArg UInt64.toNat behind_checks.2.2.2.1
  exact Ledger.rising_cons.mpr ⟨by rw [hnumber]; decide, Ledger.rising_nil⟩

theorem houses_behind : Houses [⟨1⟩] decidedTwice.stamped.state [firstRecord] := by
  obtain ⟨hdomains, -, hdomain, -⟩ := behind_checks
  refine ⟨by rw [hdomains]; decide, by rw [hdomains]; exact fun _ h => h, ?_, by decide⟩
  intro r hr
  rw [List.mem_singleton.mp hr, hdomain]
  exact List.mem_singleton_self _

theorem serialize_behind :
    serializeState decidedTwice.stamped.state = .ok (writeState decidedTwice.stamped.state) :=
  serializeState_eq_ok.mpr ⟨roomy_decidedTwice.summaries, rfl⟩

/-- The recovery of that directory. -/
theorem recovery_sample :
    (∀ domain, Table.get (·.domain) domain (recoverState sampleOptions.storeOptions
          decidedTwice.stamped.state [firstRecord]).1.domains =
        ((lastRecord domain [firstRecord]).map DomainRuntimeState.ofRecord).or
          (Table.get (·.domain) domain decidedTwice.stamped.state.domains)) ∧
      ([firstRecord] = [] → (recoverState sampleOptions.storeOptions decidedTwice.stamped.state
          [firstRecord]).1.audit = decidedTwice.stamped.state.audit) ∧
      (∀ newest, [firstRecord].getLast? = some newest →
        ∀ a ∈ (recoverState sampleOptions.storeOptions decidedTwice.stamped.state
          [firstRecord]).1.audit, a.number ≤ newest.number) ∧
      (((∀ domain, Newest (Table.get (·.domain) domain decidedTwice.stamped.state.domains)
            (lastRecord domain [firstRecord])
            (Table.get (·.domain) domain (recoverState sampleOptions.storeOptions
              decidedTwice.stamped.state [firstRecord]).1.domains)) ∧
          KeepsNewer decidedTwice.stamped.state.audit [firstRecord]
            (recoverState sampleOptions.storeOptions decidedTwice.stamped.state [firstRecord]).1.audit) ↔
        (∀ domain d r, Table.get (·.domain) domain decidedTwice.stamped.state.domains = some d →
          lastRecord domain [firstRecord] = some r → d.lastDecision.value ≤ r.decision.value) ∧
          Covers [firstRecord] decidedTwice.stamped.state.audit) :=
  recovery_takes_journal withState_state serialize_behind
    (Nat.lt_of_le_of_lt readable_behind.bytes (UInt64.toNat_lt _)) readable_behind.policy
    readable_behind.loads readable_behind.journal.recovers rising_behind houses_behind

/-- A journal that is behind the state file moves a domain backward. -/
theorem recovery_moves_backward : ¬ ∀ (options : StoreOptions) (disk disk₁ disk₂ : Disk)
    (decoded state : DurableState) (records : List AuditRecord) (payload : List UInt8)
    (keys : List OversubscriptionDomainId),
    disk .state = some (makeStateFile payload) → serializeState decoded = .ok payload →
      payload.length < 2 ^ 64 → (validatePolicy decoded.policy).isOk = true →
      Loads options disk state disk₁ → Recovers options disk records disk₂ → Rising 0 records →
      Houses keys decoded records →
      (∀ domain, Newest (Table.get (·.domain) domain decoded.domains) (lastRecord domain records)
          (Table.get (·.domain) domain state.domains)) ∧
        KeepsNewer decoded.audit records state.audit := by
  intro h
  have hboth := h _ _ _ _ _ _ _ _ _ withState_state serialize_behind
    (Nat.lt_of_le_of_lt readable_behind.bytes (UInt64.toNat_lt _)) readable_behind.policy
    readable_behind.loads readable_behind.journal.recovers rising_behind houses_behind
  obtain ⟨hnewest, -⟩ := hboth
  obtain ⟨-, hlast, hdomain, -, hdecision, -⟩ := behind_checks
  obtain ⟨d, hd, htwo⟩ := Option.map_eq_some_iff.mp hlast
  have hrecord : lastRecord ⟨1⟩ [firstRecord] = some firstRecord := by
    rw [lastRecord, Ledger.last_singleton, if_pos hdomain]
  have hdomains := hnewest ⟨1⟩
  rw [get_recoverState rising_behind houses_behind, newest_iff] at hdomains
  have hle := hdomains d firstRecord hd hrecord
  rw [htwo, hdecision] at hle
  exact absurd hle (by decide)

end Governor

end Oversub
