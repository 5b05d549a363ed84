import Oversub.Runtime.Compaction

/-!
# Oversub.Runtime.Atomic

An evaluation is all or nothing, as long as no write to the journal leaves a
part behind: an error leaves the decisions and the two logs as they were, up to
a compaction, and a decision is the one record both logs gain.

The exception is a decision that is in the journal when the save that is due
with it fails: the call reports an error, and everything is as if it had not.
-/

namespace Oversub

open Crash Files Trace

namespace Governor

variable {g g' x : Governor} {disk disk' : Disk} {rs rs' : List AuditRecord} {record : AuditRecord}
  {order : MapOrder} {wall : UInt64} {request : EvaluationRequest} {w : World FileName}

/-! ## All or nothing -/

/-- The history and the journal, as they are or compacted. -/
inductive Logged (g : Governor) (rs : List AuditRecord) : List AuditRecord → List AuditRecord → Prop
  | kept : Logged g rs g.state.audit rs
  | compacted : Logged g rs g.window g.kept

/-- What an evaluation leaves that changes all it is to change, or nothing. -/
inductive AllOrNothing (g g' : Governor) (disk' : Disk) (rs : List AuditRecord) :
    Except Status Decision → Prop
  | nothing {status : Status} {records : List AuditRecord} (hlogs : Logged g rs g'.state.audit records)
      (hframed : Framed disk' records []) (hdomains : g'.state.domains = g.state.domains)
      (hissued : g'.state.decisionsIssued = g.state.decisionsIssued) :
      AllOrNothing g g' disk' rs (.error status)
  | all {d : Decision} {audit records : List AuditRecord} {record : AuditRecord}
      (hlogs : Logged g rs audit records) (hid : record.decision = d.id)
      (hdigest : record.decisionDigest = d.decisionDigest)
      (haudit : g'.state.audit =
        (audit ++ [record]).drop ((audit ++ [record]).length - g.options.maxAuditRecords.toNat))
      (hframed : Framed disk' (records ++ [record]) []) : AllOrNothing g g' disk' rs (.ok d)

/-- The record of a decision goes into the journal, a save is due, and the state
does not fit into its file or cannot be written. -/
def LosesSave (order : MapOrder) (wall : UInt64) (g : Governor) (request : EvaluationRequest)
    (w : World FileName) : Prop :=
  g.Serves request ∧ ∃ status x w₁,
    (g.ticking request).appendJournal (g.ruling order wall request).record w = (some (status, x), w₁) ∧
      status.isOk = true ∧ (x.withRuling request.domain (g.ruling order wall request)).SaveDue ∧
        (¬ Savable (x.withRuling request.domain (g.ruling order wall request)) ∨ w₁.Failing)

/-! ## A save that is lost -/

/-- An evaluation reports an error about a decision it has made exactly when
the save is lost. -/
theorem meets_losesSave : Meets (g.evaluate order wall request)
    (fun r _ => LosesSave order wall g request w ↔ (∃ status, r.1 = .error status) ∧
      r.2.state.decisionsIssued = g.state.decisionsIssued + 1) (fun _ => True) w := by
  by_cases hserves : g.Serves request
  case neg =>
    obtain ⟨status, x, hx, _, hpure⟩ := @evaluate_of_not_serves g order wall request hserves
    have hissued : x.state.decisionsIssued = g.state.decisionsIssued := by
      rcases hx with rfl | rfl
      · rfl
      · rfl
    rw [hpure, meets_pure]
    refine iff_of_false (fun hloses => hserves hloses.1) fun hr => ?_
    exact succ_ne g.state.decisionsIssued (hr.2.symm.trans hissued)
  rw [evaluate_of_serves hserves]
  unfold deciding
  dsimp only
  rw [meets_bind]
  refine ((yields_appendJournal w).and meets_self).mono (fun ⟨status, x⟩ w₁ ⟨hcore, hrun⟩ => ?_)
    fun _ _ => trivial
  have hissued : x.state.decisionsIssued = g.state.decisionsIssued :=
    core_congr (·.state.decisionsIssued) (fun _ => rfl) hcore
  have hopen₁ : (x.withRuling request.domain (g.ruling order wall request)).isOpen = true :=
    (core_congr (·.isOpen) (fun _ => rfl) hcore :).trans hserves.isOpen
  have hsame {status' : Status} {x' : Governor} {w' : World FileName}
      (hrun' : (g.ticking request).appendJournal (g.ruling order wall request).record w =
        (some (status', x'), w')) : status' = status ∧ x' = x ∧ w' = w₁ := by
    have heq := hrun'.symm.trans hrun
    simp only [Prod.mk.injEq, Option.some.injEq] at heq
    exact ⟨heq.1.1, heq.1.2, heq.2⟩
  dsimp only
  split
  next hbad =>
    refine iff_of_false (fun ⟨_, _, x', w', hrun', hok, _⟩ => ?_) fun hr => ?_
    · obtain ⟨rfl, -⟩ := hsame hrun'
      simp [hok] at hbad
    · exact succ_ne g.state.decisionsIssued (hr.2.symm.trans hissued)
  next hok =>
    have hloses : LosesSave order wall g request w ↔
        (x.withRuling request.domain (g.ruling order wall request)).SaveDue ∧
          (¬ Savable (x.withRuling request.domain (g.ruling order wall request)) ∨ w₁.Failing) := by
      constructor
      · intro ⟨_, _, x', w', hrun', _, hdue, hlost⟩
        obtain ⟨-, rfl, rfl⟩ := hsame hrun'
        exact ⟨hdue, hlost⟩
      · intro ⟨hdue, hlost⟩
        exact ⟨hserves, status, x, w₁, hrun, open_of_not hok, hdue, hlost⟩
    have hsaved {d : Decision} {x' : Governor} : ¬ ((∃ status, (Except.ok d : Except Status Decision) =
        .error status) ∧ x'.state.decisionsIssued = g.state.decisionsIssued + 1) := fun ⟨⟨_, hstatus⟩, _⟩ => by
      cases hstatus
    rw [hloses, meets_bind]
    refine (meets_persistState hopen₁ rfl).mono (fun ⟨status', x'⟩ w₂ hr => ?_) fun _ _ => trivial
    rw [meets_pure]
    rcases hr with ⟨hearly, hr, _⟩ | ⟨hdue, ⟨hr, hkept⟩ | ⟨hfailing, hbad, hx, _⟩⟩
    · obtain ⟨rfl, rfl⟩ := Prod.mk.inj hr
      exact iff_of_false (fun hlost => hearly hlost.1) hsaved
    · generalize w₂.disk = disk₂ at hr
      cases hr with
      | saved hs => exact iff_of_false (fun hlost => hlost.2.elim (fun hn => hn hs) (hkept rfl)) hsaved
      | unsaved hs hbad _ =>
          dsimp only
          rw [if_neg (by simp [hbad])]
          exact iff_of_true ⟨hdue, .inl hs⟩ ⟨⟨_, rfl⟩, rfl⟩
    · replace hbad : status'.isOk = false := hbad
      replace hx : x' = (x.withRuling request.domain (g.ruling order wall request)).stamped := hx
      dsimp only
      rw [if_neg (by simp [hbad]), hx]
      exact iff_of_true ⟨hdue, .inr hfailing⟩ ⟨⟨_, rfl⟩, rfl⟩

/-! ## What an evaluation leaves -/

theorem Readies.logged (hr : Readies (g.ticking request) disk rs record x disk' rs') :
    Logged g rs x.state.audit rs' := by
  cases hr with
  | room => exact .kept
  | compacted => exact .compacted

/-- A decision that was put into the journal, and is reported. -/
theorem Appends.all {d : Decision} {disk₁ : Disk} (h : Journaling (g.ticking request) disk rs)
    (happend : Appends (g.ticking request) disk rs record (.success, x) disk₁ rs')
    (hjournal : disk' .journal = disk₁ .journal) (haudit : g'.state.audit = x.state.audit)
    (hid : record.decision = d.id) (hdigest : record.decisionDigest = d.decisionDigest) :
    AllOrNothing g g' disk' rs (.ok d) := by
  have hframed := (happend.journaling h).journals.framed.congr hjournal
  obtain ⟨g₁, disk₁, rs₁, hready, _, hx, _, hrs⟩ := happend.inv rfl
  rw [hrs] at hframed
  have hoptions : g₁.options = g.options := (core_congr (·.options) (fun _ => rfl) hready.core :)
  refine .all hready.logged hid hdigest ?_ hframed
  rw [haudit, show x = g₁.journaled record from hx, ← hoptions]
  rfl

/-- An evaluation that was cut short before its decision. -/
theorem nothing_of_core {status : Status} {records : List AuditRecord} (hcore : x.core = g.core)
    (hlogs : Logged g rs x.state.audit records) (hframed : Framed disk' records []) :
    AllOrNothing g x disk' rs (.error status) :=
  .nothing hlogs hframed (core_congr (·.state.domains) (fun _ => rfl) hcore)
    (core_congr (·.state.decisionsIssued) (fun _ => rfl) hcore)

/-- A decision that is reported as an error is neither all nor nothing. -/
theorem not_allOrNothing {status : Status}
    (hissued : g'.state.decisionsIssued = g.state.decisionsIssued + 1) :
    ¬ AllOrNothing g g' disk' rs (.error status) := by
  intro h
  cases h with
  | nothing _ _ _ hsame => exact succ_ne g.state.decisionsIssued (hissued.symm.trans hsame)

/-- An evaluation is all or nothing, or reports an error about a decision. -/
theorem Decides.atomic {result : Except Status Decision}
    (hd : Decides order wall g request disk rs (result, x) disk' rs') (h : Journaling g disk rs) :
    AllOrNothing g x disk' rs result ∨
      (∃ status, result = .error status) ∧ x.state.decisionsIssued = g.state.decisionsIssued + 1 := by
  have hticking : Journaling (g.ticking request) disk rs := h.congr rfl rfl rfl
  cases hd with
  | refused hx =>
      rcases hx with rfl | rfl
      · exact .inl (nothing_of_core rfl .kept h.journals.framed)
      · exact .inl (nothing_of_core rfl .kept h.journals.framed)
  | unlogged _ happend hbad =>
      have hframed := (happend.journaling hticking).journals.framed
      refine .inl (nothing_of_core happend.core ?_ hframed)
      rcases happend.readied hbad with hready | ⟨hx, _, hrs⟩
      · exact hready.logged
      · replace hx : x = g.ticking request := hx
        rw [hx, hrs]
        exact .kept
  | recorded _ happend => exact .inl (happend.all hticking rfl rfl rfl rfl)
  | saved _ happend => exact .inl (happend.all hticking withState_journal rfl rfl rfl)
  | unsaved => exact .inr ⟨⟨_, rfl⟩, rfl⟩

theorem Falters.atomic {result : Except Status Decision}
    (hf : Falters order wall g request disk rs (result, x) disk' rs') (h : Journaling g disk rs) :
    AllOrNothing g x disk' rs result ∨
      (∃ status, result = .error status) ∧ x.state.decisionsIssued = g.state.decisionsIssued + 1 := by
  have hticking : Journaling (g.ticking request) disk rs := h.congr rfl rfl rfl
  cases hf with
  | unlogged _ hmisses =>
      have hframed := (hmisses.journaling hticking).journals.framed
      refine .inl (nothing_of_core hmisses.core ?_ hframed)
      rcases hmisses.readied with ⟨disk₁, hready⟩ | ⟨hx, _, hrs⟩
      · exact hready.logged
      · replace hx : x = g.ticking request := hx
        rw [hx, hrs]
        exact .kept
  | unsaved => exact .inr ⟨⟨_, rfl⟩, rfl⟩

/-- **An evaluation** that answers is all or nothing exactly when it does not
lose a save. -/
theorem atomic_step {s : System} {c : System.Call} {result : Except Status Decision}
    (hc : c.command = .evaluate order wall request)
    (hclean : World.Clean (⟨s.disk, c.fates⟩ : World FileName)) (h : s.governor.Journaling s.disk rs)
    (hreply : (s.perform c).1 = some (.decided result)) :
    AllOrNothing s.governor (s.step c).governor (s.step c).disk rs result ↔
      ¬ LosesSave order wall s.governor request ⟨s.disk, c.fates⟩ := by
  have hmeets : Meets (c.command.perform s.governor) (fun r _ => ∀ result, r.1 = .decided result →
      (LosesSave order wall s.governor request ⟨s.disk, c.fates⟩ ↔ (∃ status, result = .error status) ∧
        r.2.state.decisionsIssued = s.governor.state.decisionsIssued + 1)) (fun _ => True)
      ⟨s.disk, c.fates⟩ := by
    rw [hc, Command.perform, replying, meets_bind]
    refine meets_losesSave.mono (fun r w' hr result hresult => ?_) fun _ => id
    obtain rfl := Reply.decided.inj hresult
    exact hr
  obtain ⟨x, w, hp, hstep⟩ := System.perform_eq_some hreply
  have hloses := hmeets.returned hp result rfl
  have hx : (s.step c).governor = x := by rw [hstep]
  rw [hloses, ← hx]
  have hatomic : AllOrNothing s.governor (s.step c).governor (s.step c).disk rs result ∨
      (∃ status, result = .error status) ∧
        (s.step c).governor.state.decisionsIssued = s.governor.state.decisionsIssued + 1 := by
    rcases System.falters_step hc hclean h with ⟨result', rs', hresult, hend⟩ | ⟨hnone, _⟩
    · obtain rfl := Reply.decided.inj (Option.some.inj (hreply.symm.trans hresult))
      exact hend.elim (fun hd => hd.atomic h) fun hf => hf.2.atomic h
    · rw [hnone] at hreply
      cases hreply
  constructor
  · rintro hall ⟨⟨status, hresult⟩, hissued⟩
    rw [hresult] at hall
    exact not_allOrNothing hissued hall
  · exact fun hkept => hatomic.resolve_right hkept

end Governor

/-! ## Runs -/

namespace Store

variable {s : Store} {record : AuditRecord} {disk : Disk} {fates : List Fate}

theorem returns_appendAudit (h : HasRoom s record) :
    Returns (s.appendAudit record) ⟨disk, .completes :: fates⟩ (.success, s.appending record)
      ⟨appended disk .journal (recordFrame record), fates⟩ := by
  have hframe : journalFrame record = .ok (recordFrame record) := journalFrame_eq_ok.mpr ⟨h.fits, rfl⟩
  have hroom : ¬ (s.options.maxJournalBytes < s.journalBytes + UInt64.ofNat (recordFrame record).length ∨
      s.options.maxJournalRecords < s.journalRecords + 1) := by
    rw [not_or, UInt64.not_lt, UInt64.not_lt]
    exact ⟨h.bytes, h.records⟩
  have hfile : Returns (appendFile (s.path .journal) .journal (recordFrame record))
      ⟨disk, .completes :: fates⟩ .success ⟨appended disk .journal (recordFrame record), fates⟩ := rfl
  unfold appendAudit
  rw [if_neg (by simp [h.isOpen]), hframe]
  dsimp only
  rw [if_neg hroom]
  exact hfile.bind returns_pure

end Store

namespace Governor

section

variable {g : Governor} {disk : Disk} {order : MapOrder} {wall : UInt64} {request : EvaluationRequest}

/-- A decision that is in the journal and whose save fails. -/
theorem returns_evaluate_unsaved (hserves : g.Serves request)
    (hroom : g.store.HasRoom (g.ruling order wall request).record)
    (hdue : (g.decided order wall request).SaveDue) (hs : Savable (g.decided order wall request)) :
    Returns (g.evaluate order wall request) ⟨disk, [.completes, .fails 0]⟩
      (.error (g.decided order wall request).unwritten, (g.decided order wall request).stamped)
      ⟨appended disk .journal (recordFrame (g.ruling order wall request).record), []⟩ := by
  have happend : Returns ((g.ticking request).appendJournal (g.ruling order wall request).record)
      ⟨disk, [.completes, .fails 0]⟩
      (.success, (g.ticking request).journaled (g.ruling order wall request).record)
      ⟨appended disk .journal (recordFrame (g.ruling order wall request).record), [.fails 0]⟩ := by
    have htry : Returns ((g.ticking request).tryAppend (g.ruling order wall request).record)
        ⟨disk, [.completes, .fails 0]⟩
        (.success, { g.ticking request with
          store := g.store.appending (g.ruling order wall request).record })
        ⟨appended disk .journal (recordFrame (g.ruling order wall request).record), [.fails 0]⟩ :=
      (Store.returns_appendAudit hroom).bind returns_pure
    unfold appendJournal
    exact htry.bind returns_pure
  have hpersist : Returns ((g.decided order wall request).persistState false)
      ⟨appended disk .journal (recordFrame (g.ruling order wall request).record), [.fails 0]⟩
      ((g.decided order wall request).unwritten, (g.decided order wall request).stamped)
      ⟨appended disk .journal (recordFrame (g.ruling order wall request).record), []⟩ := by
    have hopen : (g.decided order wall request).isOpen = true := hserves.isOpen
    have hdirty : (g.decided order wall request).stateDirty = true := rfl
    have hlate : ¬ (g.decided order wall request).decisionsSinceSave <
        (g.decided order wall request).options.saveStateEveryDecisions := UInt64.not_lt.mpr hdue
    unfold persistState
    rw [if_neg (by simp [hopen]), if_neg (by simp [hdirty]), if_neg (by simp [hlate])]
    exact returns_saveState hs
  rw [evaluate_of_serves hserves]
  unfold deciding
  refine happend.bind ?_
  dsimp only
  rw [if_neg (by decide)]
  exact hpersist.bind returns_pure

end

/-- Options under which every decision is saved. -/
def promptOptions : GovernorOptions := { sampleOptions with saveStateEveryDecisions := 1 }

/-- A runtime that was opened under them. -/
def promptStarted (policy : OversubscriptionPolicy) : Governor :=
  (({} : Governor).initialized promptOptions emptyDisk policy).live

theorem accepts_prompt : Accepts promptOptions :=
  ⟨by decide, by decide, by decide, by decide, by decide, by decide, by decide, by decide⟩

section

variable {policy : OversubscriptionPolicy} {order : MapOrder} {wall : UInt64} {request : EvaluationRequest}

theorem savable_prompt (hlength : (writePolicy (initialPolicy policy)).length ≤ 4096) :
    Savable (({} : Governor).initialized promptOptions emptyDisk policy) ∧
      Savable ((promptStarted policy).decided order wall request) := by
  have hsize : (promptStarted policy).size + 555 ≤ 32 * 1024 * 1024 := by
    show 124 + (writePolicy (initialPolicy policy)).length + 0 + 0 + 0 + 0 + 555 ≤ 32 * 1024 * 1024
    omega
  have hnone : SummariesFit (promptStarted policy).state.audit := nofun
  have hinitialized : Savable (promptStarted policy) := savable_of_size rfl hnone (Nat.le_of_add_right_le hsize)
  exact ⟨⟨hinitialized.isOpen, hinitialized.summaries, hinitialized.fits⟩, savable_decided rfl hnone hsize⟩

theorem hasRoom_prompt : (promptStarted policy).store.HasRoom
    ((promptStarted policy).ruling order wall request).record := by
  have hbytes : 0 + 510 ≤ promptOptions.maxJournalBytes.toNat := by decide
  have hrecords : 0 + 1 ≤ promptOptions.maxJournalRecords.toNat := by decide
  exact Store.hasRoom_of_le rfl summary_ruling_le hbytes hrecords

end

theorem step_prompt : ∃ disk, (System.boot emptyDisk).step ⟨.openRuntime promptOptions samplePolicy, []⟩ =
    ⟨promptStarted samplePolicy, disk⟩ :=
  ⟨_, System.step_of_perform (System.perform_of_completes (completes_replying
    (completes_open_fresh rfl accepts_prompt rfl initialPolicy_sample
      (@savable_prompt _ .listed 0 sampleRequest sample_checks.1).1)))⟩

/-- An evaluation whose record is appended, and whose save fails. -/
def unsavedCall : System.Call := ⟨.evaluate .listed 0 sampleRequest, [.completes, .fails 0]⟩

theorem serves_prompt : (promptStarted samplePolicy).Serves sampleRequest :=
  ⟨rfl, rfl, rfl, fun _ => by decide⟩

theorem perform_unsavedCall (disk : Disk) : ∃ disk' status,
    System.perform ⟨promptStarted samplePolicy, disk⟩ unsavedCall =
      (some (.decided (.error status)),
        ⟨((promptStarted samplePolicy).decided .listed 0 sampleRequest).stamped, disk'⟩) :=
  ⟨_, _, System.perform_of_returns (returns_replying (returns_evaluate_unsaved serves_prompt hasRoom_prompt
    (UInt64.le_refl _) (savable_prompt sample_checks.1).2))⟩

end Governor

end Oversub
