import Oversub.Runtime.Registrations

/-!
# Oversub.Runtime.Compaction

The bound of the journal.  A journal that is full is compacted to the newest
records of the history, and that makes room exactly when the records it keeps
are fewer and shorter than the bound: a window as large as the bound leaves the
journal full.
-/

namespace Oversub

open Crash Files Trace

/-! ## What all records have in common -/

/-- Something holds of all records on the directory. -/
structure Covered (P : AuditRecord → Prop) (b : DurableState) (rs : List AuditRecord) : Prop where
  audit : ∀ r ∈ b.audit, P r
  journal : ∀ r ∈ rs, P r

/-- It holds of the history of the runtime, too. -/
structure Covering (P : AuditRecord → Prop) (b : DurableState) (rs : List AuditRecord) (g : Governor) :
    Prop where
  covered : Covered P b rs
  history : ∀ r ∈ g.state.audit, P r

section

variable {P : AuditRecord → Prop} {b : DurableState} {rs rs' : List AuditRecord} {g g' : Governor}
  {C : Step → Prop}

theorem Covered.subset (h : Covered P b rs) (hsub : rs' ⊆ rs) : Covered P b rs' :=
  ⟨h.audit, fun r hr => h.journal r (hsub hr)⟩

theorem Covering.congr (h : Covering P b rs g) (haudit : g'.state.audit = g.state.audit) :
    Covering P b rs g' := ⟨h.covered, haudit ▸ h.history⟩

theorem Covering.saved (h : Covering P b rs g) (haudit : g'.state.audit = g.state.audit) :
    Covering P g'.state rs g' :=
  ⟨⟨haudit ▸ h.history, h.covered.journal⟩, haudit ▸ h.history⟩

theorem Covered.reopened {options : GovernorOptions} {o : StoreOptions} (h : Covered P b rs)
    (hstarts : Governor.Starts options (b.reopened o rs) g) : Covering P g.state rs g := by
  have hhistory : ∀ r ∈ g.state.audit, P r := by
    intro r hr
    have haudit : g.state.audit = (recoverState o b rs).1.audit := hstarts.audit
    rw [haudit] at hr
    exact (List.mem_append.mp (audit_recoverState_subset hr)).elim (h.audit r) (h.journal r)
  exact ⟨⟨hhistory, h.journal⟩, hhistory⟩

/-- What holds of the record of every decision holds of all records. -/
theorem upkeep_covering (hrule : ∀ {t : Step} {order wall request}, C t →
    t.command = .evaluate order wall request → P (t.before.governor.ruling order wall request).record) :
    Upkeep C (Covered P) (Covering P) where
  recovered _ _ hcold := hcold.subset readable_prefix.subset
  loaded _ _ hcold hstarts _ _ := (hcold.subset readable_prefix.subset).reopened hstarts
  cold h := h.covered
  called _ _ hquiet hwarm hends _ _ _ := hwarm.congr (hends.quiet hquiet).audit
  settled _ _ hquiet hwarm hends _ _ := hwarm.saved (hends.quiet hquiet).audit
  ticking hwarm := hwarm.congr rfl
  compacted {t _ _ request _ _ _} _ _ hwarm _ _ _ := by
    have hwindow : (t.before.governor.ticking request).window ⊆
        (t.before.governor.ticking request).state.audit := List.drop_subset _ _
    have hkept : ∀ r ∈ (t.before.governor.ticking request).kept, P r := fun r hr =>
      hwarm.history r (hwindow (List.IsPrefix.subset fitting_prefix hr))
    exact ⟨⟨hwarm.covered.audit, hkept⟩, fun r hr => hwarm.history r (hwindow hr)⟩
  recorded hC hc hwarm _ _ _ _ _ := by
    have hnew := List.forall_mem_singleton.mpr (hrule hC hc)
    refine ⟨⟨hwarm.covered.audit, List.forall_mem_append.mpr ⟨hwarm.covered.journal, hnew⟩⟩, ?_⟩
    exact fun r hr => List.forall_mem_append.mpr ⟨hwarm.history, hnew⟩ r (List.drop_subset _ _ hr)
  unsaved hwarm := hwarm.congr rfl
  saved hwarm := hwarm.saved rfl

theorem founds_covering : Founds C (Covering P) := by
  intro t options policy g _ _ hstarts _ _
  have haudit : g.state.audit = [] := hstarts.audit
  have hnone : ∀ r ∈ g.state.audit, P r := by
    rw [haudit]
    exact List.forall_mem_nil _
  exact ⟨⟨hnone, List.forall_mem_nil _⟩, hnone⟩

end

/-! ## A full journal -/

/-- The records that a compaction keeps are fewer than the bound, and leave
room for another however long they are. -/
structure GovernorOptions.Spacious (o : GovernorOptions) : Prop where
  records : (min o.journalCompactionRecords o.maxJournalRecords).toNat < o.maxJournalRecords.toNat
  bytes : 510 * ((min o.journalCompactionRecords o.maxJournalRecords).toNat + 1) ≤ o.maxJournalBytes.toNat

namespace Governor

variable {g : Governor} {disk disk' : Disk} {rs rs' : List AuditRecord} {record : AuditRecord}
  {order : MapOrder} {wall : UInt64} {request : EvaluationRequest}

/-- A record of so many bytes is beyond the bound of a journal. -/
def Exceeds (g : Governor) (bytes records : UInt64) (record : AuditRecord) : Prop :=
  g.options.maxJournalBytes < bytes + UInt64.ofNat (recordFrame record).length ∨
    g.options.maxJournalRecords < records + 1

/-- The journal has no room for a record, and the records that a compaction
keeps leave none either. -/
structure Cramped (g : Governor) (record : AuditRecord) : Prop where
  full : g.Exceeds g.store.journalBytes g.store.journalRecords record
  kept : g.Exceeds (UInt64.ofNat (frames g.kept).length) (UInt64.ofNat g.kept.length) record

theorem hasRoom_iff (h : Journaling g disk rs) (hfits : record.summary.length ≤ kMaxAuditSummary) :
    g.store.HasRoom record ↔ ¬ g.Exceeds g.store.journalBytes g.store.journalRecords record := by
  rw [Exceeds, not_or, UInt64.not_lt, UInt64.not_lt]
  have hbytes : g.store.options.maxJournalBytes = g.options.maxJournalBytes := by
    rw [h.options]
    rfl
  have hrecords : g.store.options.maxJournalRecords = g.options.maxJournalRecords := by
    rw [h.options]
    rfl
  constructor
  · intro hroom
    exact ⟨hbytes ▸ hroom.bytes, hrecords ▸ hroom.records⟩
  · intro ⟨hle, hcount⟩
    exact ⟨h.journals.counts.isOpen, hfits, hbytes ▸ hle, hrecords ▸ hcount⟩

theorem hasRoom_compacting_iff (h : Journaling g disk rs) (hkept : SummariesFit g.kept)
    (hfits : record.summary.length ≤ kMaxAuditSummary) : g.compacting.store.HasRoom record ↔
      ¬ g.Exceeds (UInt64.ofNat (frames g.kept).length) (UInt64.ofNat g.kept.length) record :=
  hasRoom_iff (journaling_compacting h hkept) hfits

theorem length_frames_le {records : List AuditRecord} (h : SummariesFit records) :
    (frames records).length ≤ 510 * records.length := by
  induction records with
  | nil => simp
  | cons r records ih =>
      rw [SummariesFit, List.forall_mem_cons] at h
      have hr := length_recordFrame_le h.1
      have hrs := ih h.2
      rw [frames_cons, List.length_append, List.length_cons]
      omega

/-- Where the options are spacious, a compaction leaves room for any record. -/
theorem not_cramped (hspacious : g.options.Spacious) (hkept : SummariesFit g.kept)
    (hfits : record.summary.length ≤ kMaxAuditSummary) : ¬ g.Cramped record := by
  have hwindow : g.window.length ≤ (min g.options.journalCompactionRecords g.options.maxJournalRecords).toNat := by
    rw [window, List.length_drop]
    omega
  have hlength : g.kept.length ≤ g.window.length := List.IsPrefix.length_le fitting_prefix
  have hframes := length_frames_le hkept
  have hframe := length_recordFrame_le hfits
  have hbytes := hspacious.bytes
  have hrecords := hspacious.records
  have hmaxBytes := g.options.maxJournalBytes.toNat_lt
  have hmaxRecords := g.options.maxJournalRecords.toNat_lt
  have hone : (1 : UInt64).toNat = 1 := rfl
  intro hcramped
  rcases hcramped.kept with hover | hover
  · rw [UInt64.lt_iff_toNat_lt, UInt64.toNat_add, UInt64.toNat_ofNat', UInt64.toNat_ofNat'] at hover
    omega
  · rw [UInt64.lt_iff_toNat_lt, UInt64.toNat_add, UInt64.toNat_ofNat', hone] at hover
    omega

/-- A record that cannot be appended finds the journal cramped. -/
theorem Appends.cramped {x : Governor} (ha : Appends g disk rs record (Store.journalFull, x) disk' rs')
    (h : Journaling g disk rs) (hfits : record.summary.length ≤ kMaxAuditSummary) : g.Cramped record := by
  generalize hstatus : Store.journalFull = status at ha
  cases ha with
  | done => cases hstatus
  | unfit => cases hstatus
  | full hready hfull =>
      cases hready with
      | room hroom => exact absurd hroom hfull
      | compacted hbefore hkept =>
          rw [hasRoom_compacting_iff h hkept hfits, not_not] at hfull
          rw [hasRoom_iff h hfits, not_not] at hbefore
          exact ⟨hbefore, hfull⟩

/-- A journal that is cramped takes no record. -/
theorem Cramped.appends {r : Status × Governor} (hc : g.Cramped record) (h : Journaling g disk rs)
    (hfits : record.summary.length ≤ kMaxAuditSummary) (haudit : SummariesFit g.state.audit)
    (ha : Appends g disk rs record r disk' rs') : r.1 = Store.journalFull := by
  have hfull : ¬ g.store.HasRoom record := by
    rw [hasRoom_iff h hfits, not_not]
    exact hc.full
  cases ha with
  | full => rfl
  | unfit _ hunfit => exact absurd (fun r hr => haudit r (List.drop_subset _ _ hr)) hunfit
  | done hready hroom =>
      cases hready with
      | room hroom => exact absurd hroom hfull
      | compacted _ hkept => exact absurd hc.kept ((hasRoom_compacting_iff h hkept hfits).mp hroom)

/-- **An evaluation** reports a full journal exactly when the journal is
cramped for its record. -/
theorem Decides.journalFull_iff {result : Except Status Decision} {x : Governor}
    (hd : Decides order wall g request disk rs (result, x) disk' rs') (h : Journaling g disk rs)
    (haudit : SummariesFit g.state.audit) : result = .error Store.journalFull ↔
      g.Serves request ∧ g.Cramped (g.ruling order wall request).record := by
  have hticked : (g.ticking request).Journaling disk rs := h.congr rfl rfl rfl
  have hfits : (g.ruling order wall request).record.summary.length ≤ kMaxAuditSummary := summary_ruling_le
  have hother {status : Status} (hcode : status.code ≠ .overflow) :
      (.error status : Except Status Decision) ≠ .error Store.journalFull := fun heq =>
    hcode (Except.error.inj heq ▸ rfl)
  have hcramped (hc : g.Cramped (g.ruling order wall request).record) :
      (g.ticking request).Cramped (g.ruling order wall request).record := ⟨hc.full, hc.kept⟩
  have hdone {x : Governor} {disk₁ : Disk} {rs₁ : List AuditRecord}
      (ha : Appends (g.ticking request) disk rs (g.ruling order wall request).record (.success, x) disk₁ rs₁)
      (hc : g.Cramped (g.ruling order wall request).record) : False := by
    cases (hcramped hc).appends hticked hfits haudit ha
  cases hd with
  | refused _ hserves hcode => exact iff_of_false (hother hcode) fun hr => hserves hr.1
  | unlogged hserves ha =>
      constructor
      · intro heq
        rw [Except.error.inj heq] at ha
        have hc := ha.cramped hticked hfits
        exact ⟨hserves, hc.full, hc.kept⟩
      · intro hr
        exact congrArg Except.error ((hcramped hr.2).appends hticked hfits haudit ha)
  | recorded _ ha => exact iff_of_false nofun fun hr => hdone ha hr.2
  | saved _ ha => exact iff_of_false nofun fun hr => hdone ha hr.2
  | unsaved _ ha _ _ hcode => exact iff_of_false (hother hcode) fun hr => hdone ha hr.2

end Governor

/-! ## Runs -/

/-- The journal of a runtime in a run whose failing writes leave nothing behind;
its history can be written. -/
theorem journaling_of_run {disk : Disk} {ts : List Step} {s : System} (h : SessionRun disk ts s)
    (hstate : disk .state = none) (hjournal : disk .journal = none) (hclean : ∀ t ∈ ts, t.Clean)
    (hopen : s.governor.isOpen = true) :
    SummariesFit s.governor.state.audit ∧ ∃ rs, s.governor.Journaling s.disk rs := by
  have hupkeep : Upkeep (fun _ => True) (Covered _) (Covering _) := upkeep_covering
    (P := fun r => r.summary.length ≤ kMaxAuditSummary) fun _ _ => Governor.summary_ruling_le
  rcases hupkeep.run (@founds_covering _ fun _ => True) h hstate hjournal (fun _ _ => trivial) hclean with
    hunused | ⟨b, rs, hfiled⟩
  · rw [hunused.isOpen] at hopen
    cases hopen
  · obtain ⟨hlog, hwarm⟩ := hfiled.warm hopen
    exact ⟨hwarm.history, rs, hlog⟩

/-- **The journal bound**: in a run without failed writes to the journal an
evaluation reports that the bound was reached exactly when the journal is
cramped for its record, and never under options that are spacious. -/
theorem journal_bound_iff {disk : Disk} {us vs : List Step} {t : Step} {s : System} {order : MapOrder}
    {wall : UInt64} {request : EvaluationRequest} {result : Except Status Decision}
    (h : SessionRun disk (us ++ t :: vs) s) (hstate : disk .state = none) (hjournal : disk .journal = none)
    (hjournals : ∀ u ∈ us ++ t :: vs, u.Journals) (hc : t.command = .evaluate order wall request)
    (hreply : t.reply = some (.decided result)) :
    (result = .error Store.journalFull ↔ t.before.governor.Serves request ∧
      t.before.governor.Cramped (t.before.governor.ruling order wall request).record) ∧
      (t.before.governor.options.Spacious → result ≠ .error Store.journalFull) := by
  obtain ⟨hus, _⟩ := h.at_step
  rw [List.forall_mem_append, List.forall_mem_cons] at hjournals
  cases hopen : t.before.governor.isOpen with
  | false =>
      obtain ⟨status, hcode, hpure⟩ := @Governor.evaluate_closed t.before.governor order wall request hopen
      have hresult : result = .error status := by
        have hperform : t.reply = some (.decided (.error status)) := by
          unfold Step.reply System.perform
          rw [← Step.command, hc, Command.perform, hpure]
          rfl
        exact Reply.decided.inj (Option.some.inj (hreply.symm.trans hperform))
      have hother : result ≠ .error Store.journalFull := by
        rw [hresult]
        intro heq
        exact hcode (Except.error.inj heq ▸ rfl)
      exact ⟨iff_of_false hother fun hr => absurd hr.1.isOpen (by simp [hopen]), fun _ => hother⟩
  | true =>
      obtain ⟨haudit, rs, hlog⟩ := journaling_of_run hus hstate hjournal (fun u hu => (hjournals.1 u hu).clean) hopen
      have hjournaling : Command.journals t.label.command = true :=
        Command.journals_eq_true.mpr ⟨order, wall, request, hc⟩
      rcases System.decides_step hc (hjournals.2.1 hjournaling) hlog with
        ⟨result', rs', hresult, hdecides⟩ | ⟨hnone, _⟩
      · obtain rfl := Reply.decided.inj (Option.some.inj (hreply.symm.trans hresult))
        have hiff := hdecides.journalFull_iff hlog haudit
        refine ⟨hiff, fun hspacious hfull => ?_⟩
        have hkept : SummariesFit t.before.governor.kept := fun r hr =>
          haudit r (List.drop_subset _ _ (List.IsPrefix.subset fitting_prefix hr))
        exact Governor.not_cramped hspacious hkept Governor.summary_ruling_le (hiff.mp hfull).2
      · have hsome : (t.before.perform t.label).1 = some _ := hreply
        rw [hnone] at hsome
        cases hsome

/-! ## A window as large as the journal -/

section

variable {s : Store} {g : Governor} {record : AuditRecord} {records : List AuditRecord}
  {state : DurableState} {path : String} {name : FileName} {bytes : List UInt8} {keep : UInt64} {force : Bool}
  {order : MapOrder} {wall : UInt64} {request : EvaluationRequest}

theorem steady_writeFileAtomic : Steady (writeFileAtomic path name bytes) :=
  steady_replace.bind fun ok => by
    cases ok
    · exact steady_pure
    · exact steady_pure

theorem steady_appendFile : Steady (appendFile path name bytes) :=
  steady_append.bind fun ok => by
    cases ok
    · exact steady_pure
    · exact steady_pure

namespace Store

theorem steady_save : Steady (s.save state) := by
  unfold save
  split
  · exact steady_pure
  split
  · exact steady_pure
  split
  · exact steady_pure
  · exact steady_writeFileAtomic

theorem steady_appendAudit : Steady (s.appendAudit record) := by
  unfold appendAudit
  split
  · exact steady_pure
  split
  · exact steady_pure
  split
  · exact steady_pure
  · refine steady_appendFile.bind fun status => ?_
    split
    · exact steady_pure
    · exact steady_pure

theorem steady_compactJournal : Steady (s.compactJournal records keep) := by
  unfold compactJournal
  dsimp only
  split
  · exact steady_pure
  split
  · exact steady_pure
  · refine steady_writeFileAtomic.bind fun status => ?_
    split
    · exact steady_pure
    · exact steady_pure

end Store

namespace Governor

theorem steady_appendJournal : Steady (g.appendJournal record) := by
  have htry (g : Governor) : Steady (g.tryAppend record) :=
    Store.steady_appendAudit.bind fun _ => steady_pure
  refine (htry g).bind fun ⟨status, g₁⟩ => ?_
  dsimp only
  split
  · have hcompact : Steady g₁.compactJournal := by
      refine Store.steady_compactJournal.bind fun ⟨status, store⟩ => ?_
      dsimp only
      split
      · exact steady_pure
      · exact steady_pure
    refine hcompact.bind fun ⟨status, g₂⟩ => ?_
    dsimp only
    split
    · exact (htry g₂).bind fun _ => steady_pure
    · exact steady_pure
  · exact steady_pure

theorem steady_persistState : Steady (g.persistState force) := by
  have hsave : Steady g.saveState := Store.steady_save.bind fun _ => steady_pure
  unfold persistState
  split
  · split
    · exact hsave
    · exact steady_pure
  split
  · exact steady_pure
  split
  · exact steady_pure
  · exact hsave

/-- An evaluation returns where no operation fails. -/
theorem steady_evaluate : Steady (g.evaluate order wall request) := by
  unfold evaluate evaluateLocked
  split
  · exact steady_pure
  split
  · exact steady_pure
  split
  · exact steady_pure
  dsimp only
  split
  · exact steady_pure
  split
  · exact steady_pure
  · refine steady_appendJournal.bind fun ⟨status, g₁⟩ => ?_
    dsimp only
    split
    · exact steady_pure
    · exact steady_persistState.bind fun _ => steady_pure

end Governor

/-- So it is answered. -/
theorem System.evaluate_answered (s : System) : ∃ result s',
    s.perform ⟨.evaluate order wall request, []⟩ = (some (.decided result), s') := by
  obtain ⟨⟨result, g⟩, disk, h⟩ := @Governor.steady_evaluate s.governor order wall request s.disk
  exact ⟨result, ⟨g, disk⟩, System.perform_of_completes (Governor.completes_replying h)⟩

/-- An evaluation that finds the journal cramped reports it. -/
theorem System.evaluate_cramped {s : System} {rs : List AuditRecord} (h : s.governor.Journaling s.disk rs)
    (haudit : SummariesFit s.governor.state.audit) (hserves : s.governor.Serves request)
    (hcramped : s.governor.Cramped (s.governor.ruling order wall request).record) : ∃ s',
      s.perform ⟨.evaluate order wall request, []⟩ = (some (.decided (.error Store.journalFull)), s') := by
  obtain ⟨result, s', hperform⟩ := @System.evaluate_answered order wall request s
  have hfates : ¬ SomeFails (⟨.evaluate order wall request, []⟩ : System.Call).fates := fun ⟨_, hmem⟩ =>
    absurd hmem List.not_mem_nil
  rcases System.decides_step rfl hfates h with ⟨result', rs', hresult, hdecides⟩ | ⟨hnone, _⟩
  · rw [(hdecides.journalFull_iff h haudit).mpr ⟨hserves, hcramped⟩] at hresult
    exact ⟨_, Prod.ext hresult rfl⟩
  · rw [hperform] at hnone
    cases hnone

end

namespace Governor

/-- Options with a journal of one record. -/
def tightOptions : GovernorOptions := { sampleOptions with maxJournalRecords := 1 }

theorem accepts_tight : Accepts tightOptions :=
  ⟨by decide, by decide, by decide, by decide, by decide, by decide, by decide, by decide⟩

theorem roomy_tight {policy : OversubscriptionPolicy}
    (hlength : (writePolicy (initialPolicy policy)).length ≤ 4096) :
    Savable (({} : Governor).initialized tightOptions emptyDisk policy) ∧
      Roomy 1 (({} : Governor).initialized tightOptions emptyDisk policy).live := by
  have hroomy : Roomy 1 (({} : Governor).initialized tightOptions emptyDisk policy).live := by
    refine roomy_live rfl nofun ?_ (by decide : 0 + 1 ≤ kMaxPublishers) (by decide : 0 + 1 ≤ kMaxDomainsState)
      (by decide : 0 + 510 * 1 ≤ tightOptions.maxJournalBytes.toNat)
      (by decide : 0 + 1 ≤ tightOptions.maxJournalRecords.toNat)
      (by decide : 1 < tightOptions.saveStateEveryDecisions.toNat)
    show 124 + (writePolicy (initialPolicy policy)).length + 0 + 0 + 0 + 0 + 600 * 1 ≤ 32 * 1024 * 1024
    omega
  exact ⟨⟨hroomy.savable.isOpen, hroomy.savable.summaries, hroomy.savable.fits⟩, hroomy⟩

/-- A runtime that was opened under them, and after its first decision. -/
def tightStarted : Governor := (({} : Governor).initialized tightOptions emptyDisk samplePolicy).live

def tightDecided : Governor := tightStarted.decided .listed 0 sampleRequest

/-- The record of that decision. -/
def tightRecord : AuditRecord := (tightStarted.ruling .listed 0 sampleRequest).record

theorem tight_started : ∃ disk, (System.boot emptyDisk).step ⟨.openRuntime tightOptions samplePolicy, []⟩ =
    ⟨tightStarted, disk⟩ :=
  ⟨_, System.step_of_perform (System.perform_of_completes (completes_replying
    (completes_open_fresh rfl accepts_tight rfl initialPolicy_sample (roomy_tight sample_checks.1).1)))⟩

theorem roomy_tightStarted : Roomy 1 tightStarted := (roomy_tight sample_checks.1).2

theorem roomy_tightDecided : Roomy 0 tightDecided := roomy_tightStarted.decided rfl

theorem tight_decided (disk : Disk) : ∃ disk', System.perform ⟨tightStarted, disk⟩ evaluateCall =
    (some (.decided (.ok (tightStarted.ruling .listed 0 sampleRequest).decision)), ⟨tightDecided, disk'⟩) :=
  perform_evaluate disk (roomy_tightStarted.answers rfl)

theorem kept_tightDecided : tightDecided.kept = [tightRecord] := by
  have haudit : tightDecided.window = [tightRecord] := rfl
  have hlength : (frames [tightRecord]).length ≤ 510 := by
    rw [frames_singleton]
    exact length_recordFrame_le summary_ruling_le
  have hmax : 510 ≤ tightDecided.options.maxJournalBytes.toNat := by decide
  rw [kept, haudit]
  exact fitting_eq (by omega)

/-- Its journal is cramped: the record stays through every compaction. -/
theorem cramped_tight {record : AuditRecord} : tightDecided.Cramped record := by
  have hfull : tightDecided.options.maxJournalRecords < tightDecided.store.journalRecords + 1 :=
    (by decide : (1 : UInt64) < 0 + 1 + 1)
  have hkept : tightDecided.options.maxJournalRecords < UInt64.ofNat tightDecided.kept.length + 1 := by
    rw [kept_tightDecided]
    exact (by decide : (1 : UInt64) < UInt64.ofNat 1 + 1)
  exact ⟨.inr hfull, .inr hkept⟩

end Governor

theorem journals_of_fates {t : Step} (h : t.label.fates = []) : Step.Journals t := by
  intro _ ⟨kept, hmem⟩
  rw [h] at hmem
  exact absurd hmem List.not_mem_nil

/-- The session of one decision. -/
def tightSteps (disk : Disk) : List Step :=
  [⟨System.boot Governor.emptyDisk, ⟨.openRuntime Governor.tightOptions samplePolicy, []⟩⟩,
    ⟨⟨Governor.tightStarted, disk⟩, Governor.evaluateCall⟩]

theorem tight_session : ∃ disk disk', SessionRun Governor.emptyDisk (tightSteps disk)
      ⟨Governor.tightDecided, disk'⟩ ∧
    ∀ u ∈ tightSteps disk, Governor.Savable (Step.after u).governor := by
  obtain ⟨disk, hstarted⟩ := Governor.tight_started
  obtain ⟨disk', hdecided⟩ := Governor.tight_decided disk
  have hrun : SessionRun Governor.emptyDisk _ _ :=
    (Run.nil.snoc (⟨.openRuntime Governor.tightOptions samplePolicy, []⟩ : System.Call)).snoc
      Governor.evaluateCall
  have hsecond := System.step_of_perform hdecided
  rw [hstarted, hsecond] at hrun
  refine ⟨disk, disk', hrun, ?_⟩
  rw [tightSteps, List.forall_mem_cons, List.forall_mem_singleton, Step.after, Step.after, hstarted, hsecond]
  exact ⟨Governor.roomy_tightStarted.savable, Governor.roomy_tightDecided.savable⟩

theorem tight_journals (disk : Disk) : ∀ u ∈ tightSteps disk, Step.Journals u := by
  rw [tightSteps, List.forall_mem_cons, List.forall_mem_singleton]
  exact ⟨journals_of_fates rfl, journals_of_fates rfl⟩

/-- The second evaluation finds the journal full. -/
theorem tight_full {disk disk' : Disk}
    (h : SessionRun Governor.emptyDisk (tightSteps disk) ⟨Governor.tightDecided, disk'⟩) :
    ∃ s, System.perform ⟨Governor.tightDecided, disk'⟩ Governor.evaluateCall =
      (some (.decided (.error Store.journalFull)), s) := by
  obtain ⟨haudit, rs, hlog⟩ := journaling_of_run h rfl rfl (fun u hu => (tight_journals disk u hu).clean) rfl
  have hserves : Governor.tightDecided.Serves Governor.sampleRequest :=
    ⟨rfl, rfl, rfl, fun hnone => by
      rw [Governor.tightDecided, Governor.runtime_decided] at hnone
      cases hnone⟩
  exact System.evaluate_cramped hlog haudit hserves Governor.cramped_tight

/-- A journal bound that is accepted, with room for a record, may fill up for
good although no operation fails and every state can be saved. -/
theorem journal_stays_full : ¬ ∀ (us : List Step) (t : Step) (s : System) (order : MapOrder)
    (wall : UInt64) (request : EvaluationRequest) (result : Except Status Decision),
    SessionRun Governor.emptyDisk (us ++ [t]) s →
    (∀ u ∈ us, ∀ options policy, Step.command u = .openRuntime options policy →
      Governor.Accepts options ∧ 510 ≤ options.maxJournalBytes.toNat) →
    (∀ u ∈ us ++ [t], u.label.fates = []) →
    (∀ u ∈ us, Governor.Savable (Step.after u).governor) →
    Step.command t = .evaluate order wall request → request.domain.valid = true →
    Step.reply t = some (.decided result) → result ≠ .error Store.journalFull := by
  intro h
  obtain ⟨disk, disk', hrun, hsavable⟩ := tight_session
  obtain ⟨s, hperform⟩ := tight_full hrun
  have hoptions : ∀ u ∈ tightSteps disk, ∀ options policy, Step.command u = .openRuntime options policy →
      Governor.Accepts options ∧ 510 ≤ options.maxJournalBytes.toNat := by
    rw [tightSteps, List.forall_mem_cons, List.forall_mem_singleton]
    constructor
    · intro options policy hc
      cases hc
      exact ⟨Governor.accepts_tight, by decide⟩
    · intro options policy hc
      cases hc
  have hfates : ∀ u ∈ tightSteps disk ++ [⟨⟨Governor.tightDecided, disk'⟩, Governor.evaluateCall⟩],
      u.label.fates = [] := by
    rw [tightSteps, List.forall_mem_append, List.forall_mem_cons, List.forall_mem_singleton,
      List.forall_mem_singleton]
    exact ⟨⟨rfl, rfl⟩, rfl⟩
  exact h _ _ _ .listed 0 Governor.sampleRequest _ (hrun.snoc Governor.evaluateCall) hoptions hfates hsavable
    rfl rfl (System.reply_of_perform hperform) rfl

/-- Its window is as large as its journal. -/
theorem journal_bound_sample :
    Governor.tightDecided.Cramped (Governor.tightDecided.ruling .listed 0 Governor.sampleRequest).record ∧
      ¬ Governor.tightOptions.Spacious := by
  obtain ⟨disk, disk', hrun, _⟩ := tight_session
  obtain ⟨s, hperform⟩ := tight_full hrun
  have hjournals : ∀ u ∈ tightSteps disk ++ [⟨⟨Governor.tightDecided, disk'⟩, Governor.evaluateCall⟩],
      Step.Journals u := by
    rw [List.forall_mem_append, List.forall_mem_singleton]
    exact ⟨tight_journals disk, journals_of_fates rfl⟩
  obtain ⟨hiff, hspacious⟩ := @journal_bound_iff _ _ [] _ _ _ _ _ _ (hrun.snoc Governor.evaluateCall) rfl rfl hjournals
    rfl (System.reply_of_perform hperform)
  exact ⟨(hiff.mp rfl).2, fun h => hspacious h rfl⟩

end Oversub
