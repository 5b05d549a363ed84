import Oversub.Runtime.Room

/-!
# Oversub.Runtime.Cancel

Cancelled evaluations: nothing but the cancel flag makes an evaluation return
`Cancelled`, and all that it has touched by then is the clock.
-/

namespace Oversub

open Crash Files

/-! ## Where a cancellation comes from -/

/-- The refusal of a domain that has no place in the table. -/
def tableFull : Status := outOfRange .limitExceeded "domain runtime table is full"

/-- What the store may report: no cancellation, and nothing about the table of
domains. -/
def Status.Storing (s : Status) : Prop := s.code ≠ .cancelled ∧ s ≠ tableFull

instance (s : Status) : Decidable s.Storing := inferInstanceAs (Decidable (_ ∧ _))

theorem storing_success : Status.success.Storing := by decide

theorem storing_auditTooLong : auditTooLong.Storing := by decide

theorem storing_storeNotOpen : storeNotOpen.Storing := by decide

theorem storing_journalFull : (Status.failure .overflow .persistenceTooLarge
    "journal bound reached; compaction required").Storing := by decide

theorem storing_notOpen : Oversub.notOpen.Storing := by decide

theorem storing_ioFailure {reason : ReasonCode} {detail : String} :
    (ioFailure reason detail).Storing := by
  have hcode : StatusCode.ioError ≠ .cancelled := by decide
  refine ⟨hcode, fun htable => ?_⟩
  have hsame : StatusCode.ioError = tableFull.code := congrArg (·.code) htable
  exact absurd hsame (by decide)

theorem yields_writeFileAtomic_storing {path : String} {name : FileName} {bytes : List UInt8} :
    Yields (writeFileAtomic path name bytes) Status.Storing := by
  refine yields_true.bind fun ok _ => ?_
  split
  · exact yields_pure storing_success
  · exact yields_pure storing_ioFailure

theorem yields_appendFile_storing {path : String} {name : FileName} {bytes : List UInt8} :
    Yields (appendFile path name bytes) Status.Storing := by
  refine yields_true.bind fun ok _ => ?_
  split
  · exact yields_pure storing_success
  · exact yields_pure storing_ioFailure

namespace Store

variable {s : Store}

theorem yields_save_storing {state : DurableState} :
    Yields (s.save state) Status.Storing := by
  unfold save
  split
  · exact yields_pure (by decide)
  · cases hs : serializeState state with
    | error status =>
        rw [serializeState_error hs]
        exact yields_pure storing_auditTooLong
    | ok payload =>
        dsimp only
        split
        · exact yields_pure (by decide)
        · exact yields_writeFileAtomic_storing

theorem yields_appendAudit_storing {record : AuditRecord} :
    Yields (s.appendAudit record) fun r => r.1.Storing := by
  unfold appendAudit
  split
  · exact yields_pure storing_storeNotOpen
  · cases hframe : journalFrame record with
    | error status =>
        rw [journalFrame_error hframe]
        exact yields_pure storing_auditTooLong
    | ok frame =>
        dsimp only
        split
        · exact yields_pure storing_journalFull
        · refine yields_appendFile_storing.bind fun status hstatus => ?_
          split
          · exact yields_pure storing_success
          · exact yields_pure hstatus

theorem yields_compactJournal_storing {records : List AuditRecord} {keep : UInt64} :
    Yields (s.compactJournal records keep) fun r => r.1.Storing := by
  unfold compactJournal
  dsimp only
  split
  · exact yields_pure storing_storeNotOpen
  · split
    next status hframes =>
      rw [compactFrames_error hframes]
      exact yields_pure storing_auditTooLong
    · refine yields_writeFileAtomic_storing.bind fun status hstatus => ?_
      split
      · exact yields_pure storing_success
      · exact yields_pure hstatus

end Store

namespace Governor

section

variable {g g' : Governor} {record : AuditRecord} {order : MapOrder} {wall : UInt64}
  {request : EvaluationRequest} {cancelled : Bool}

theorem yields_tryAppend_storing : Yields (g.tryAppend record) fun r => r.1.Storing :=
  Store.yields_appendAudit_storing.bind fun _ h => yields_pure h

theorem yields_appendJournal_storing : Yields (g.appendJournal record) fun r => r.1.Storing := by
  refine yields_tryAppend_storing.bind fun ⟨status, g₁⟩ h₁ => ?_
  dsimp only at h₁ ⊢
  split
  · have hcompact : Yields g₁.compactJournal fun r => r.1.Storing := by
      refine Store.yields_compactJournal_storing.bind fun ⟨status, store⟩ h => ?_
      dsimp only at h ⊢
      split
      · exact yields_pure storing_success
      · exact yields_pure h
    refine hcompact.bind fun ⟨status, g₂⟩ h₂ => ?_
    dsimp only at h₂ ⊢
    split
    · exact yields_tryAppend_storing.bind fun _ h => yields_pure h
    · exact yields_pure h₂
  · exact yields_pure h₁

theorem yields_persistState_storing {force : Bool} :
    Yields (g.persistState force) fun r => r.1.Storing := by
  have hsave : Yields g.saveState fun r => r.1.Storing :=
    Store.yields_save_storing.bind fun _ h => yields_pure h
  unfold persistState
  split
  · split
    · exact hsave
    · exact yields_pure storing_notOpen
  · split
    · exact yields_pure storing_success
    · split
      · exact yields_pure storing_success
      · exact hsave

/-- An evaluation that returns `Cancelled` has left the governor alone, but for
its clock. -/
theorem yields_evaluateLocked_cancelled : Yields (g.evaluateLocked order wall request cancelled)
    fun r => ∀ status, r.1 = .error status → status.code = .cancelled → r.2 = g.ticking request := by
  have hother {status : Status} {x : Governor} (h : status.code ≠ .cancelled) :
      Yields (pure (Except.error status, x) : Storage (Except Status Decision × Governor))
        fun r => ∀ status, r.1 = .error status → status.code = .cancelled → r.2 = g.ticking request :=
    yields_pure fun status' hstatus hcode => absurd (Except.error.inj hstatus ▸ hcode) h
  have hok {d : Decision} {x : Governor} :
      Yields (pure (Except.ok d, x) : Storage (Except Status Decision × Governor))
        fun r => ∀ status, r.1 = .error status → status.code = .cancelled → r.2 = g.ticking request :=
    yields_pure fun _ hstatus => nomatch hstatus
  unfold evaluateLocked
  split
  · exact hother nofun
  split
  · exact hother nofun
  dsimp only
  split
  · exact yields_pure fun _ _ _ => rfl
  split
  · exact hother nofun
  · refine yields_appendJournal_storing.bind fun ⟨status, g₁⟩ h₁ => ?_
    dsimp only at h₁ ⊢
    split
    · exact hother h₁.1
    · refine yields_persistState_storing.bind fun ⟨status, g₂⟩ h₂ => ?_
      dsimp only at h₂ ⊢
      split
      · exact hok
      · exact hother h₂.1

/-! ## What a cancellation leaves -/

/-- The authoritative state of a governor is that of another. -/
structure Unmoved (g' g : Governor) : Prop where
  clock : g'.clock = g.clock
  domains : g'.state.domains = g.state.domains
  slots : g'.slots = g.slots
  publishers : g'.state.publishers = g.state.publishers
  policy : g'.state.policy = g.state.policy
  epoch : g'.state.epoch = g.state.epoch
  issued : g'.state.decisionsIssued = g.state.decisionsIssued
  audit : g'.state.audit = g.state.audit

theorem unmoved_ticking_iff : Unmoved (g.ticking request) g ↔ request.tick ≤ g.clock.tick := by
  have hclock : (g.ticking request).clock = g.clock ↔ request.tick ≤ g.clock.tick := by
    have hobserve : (g.ticking request).clock = g.clock.observe (max request.tick g.clock.tick) := rfl
    rw [hobserve, LogicalClock.observe]
    by_cases hle : request.tick ≤ g.clock.tick
    · have hmax : max request.tick g.clock.tick = g.clock.tick := if_pos hle
      rw [hmax, if_pos UInt64.le_rfl]
      exact iff_of_true rfl hle
    · have hmax : max request.tick g.clock.tick = request.tick := if_neg hle
      rw [hmax, if_neg hle]
      refine iff_of_false (fun heq => hle ?_) hle
      rw [← heq]
      exact UInt64.le_rfl
  rw [← hclock]
  exact ⟨fun h => h.clock, fun h => ⟨h, rfl, rfl, rfl, rfl, rfl, rfl, rfl⟩⟩

/-- **Cancelled work** leaves the authoritative state alone exactly when its
request was not ahead of the clock. -/
theorem cancelled_unmoved_iff {status : Status} {w w' : World FileName}
    (h : g.evaluateLocked order wall request cancelled w = (some (.error status, g'), w'))
    (hcode : status.code = .cancelled) : Unmoved g' g ↔ request.tick ≤ g.clock.tick := by
  have hleft : g' = g.ticking request :=
    (yields_evaluateLocked_cancelled w).returned h status rfl hcode
  rw [hleft]
  exact unmoved_ticking_iff

end

/-- A request ahead of the clock. -/
def aheadRequest : EvaluationRequest := ⟨⟨1⟩, 5⟩

theorem cancels_ahead : evaluateLocked .listed 0 (started samplePolicy) aheadRequest true
    ⟨emptyDisk, []⟩ = (some (.error (.failure .cancelled .decisionCancelled
      "evaluation was cancelled before its authoritative completion boundary"),
        (started samplePolicy).ticking aheadRequest), ⟨emptyDisk, []⟩) := rfl

theorem cancelled_unmoved_sample : Unmoved ((started samplePolicy).ticking aheadRequest)
    (started samplePolicy) ↔ aheadRequest.tick ≤ (started samplePolicy).clock.tick :=
  cancelled_unmoved_iff cancels_ahead rfl

/-- A cancelled request that is ahead of the clock moves it. -/
theorem cancelled_moves : ¬ ∀ (g g' : Governor) (order : MapOrder) (wall : UInt64)
    (request : EvaluationRequest) (cancelled : Bool) (status : Status) (w w' : World FileName),
    g.evaluateLocked order wall request cancelled w = (some (.error status, g'), w') →
      status.code = .cancelled → Unmoved g' g := by
  intro h
  have hunmoved := h _ _ _ _ _ _ _ _ _ cancels_ahead rfl
  have hclock : (started samplePolicy).clock.tick = 0 := rfl
  rw [unmoved_ticking_iff, hclock] at hunmoved
  exact absurd hunmoved (by decide)

end Governor

end Oversub
