import Oversub.Runtime.Session

/-!
# Oversub.Runtime.Effects

What a call can do to a governor, once for every call.  `Governor.core`
forgets what only the directory and the history are for, so the core after a
call is that of one of a few pure updates, whatever became of its writes.

`Effect` lists these updates with the calls and replies they belong to; every
invariant of the runtime is a case analysis over it.
-/

namespace Oversub

open Crash Files

/-- A reply that is neither to a publication nor to an evaluation. -/
def Reply.quiet : Reply → Bool
  | .ingested _ | .decided _ => false
  | .status _ | .revalidated _ => true

/-- A state, without what only a restart looks at. -/
def DurableState.core (s : DurableState) : DurableState :=
  { s with evidence := [], audit := [], tick := 0, revision := 0 }

namespace Governor

/-! ## The core -/

/-- The governor, without its store, its clock, its history and the stamps of
a save. -/
def core (g : Governor) : Governor :=
  { g with
    store := {}
    state := g.state.core
    clock := {}
    decisionsSinceSave := 0
    stateDirty := false }

section

variable {g g' : Governor} {force : Bool} {record : AuditRecord}

/-- What only reads the core agrees where the cores do. -/
theorem core_congr {β : Sort*} (f : Governor → β) (hf : ∀ g, f g.core = f g) (h : g'.core = g.core) :
    f g' = f g := by
  rw [← hf g', h, hf]

/-! ## Writes keep the core -/

theorem yields_saveState : Yields g.saveState fun r => r.2.core = g.core := by
  refine yields_true.bind fun status _ => yields_pure ?_
  split <;> rfl

/-- Making a governor durable changes nothing but its stamps. -/
theorem yields_persistState : Yields (g.persistState force) fun r => r.2.core = g.core := by
  unfold persistState
  split
  · split
    · exact yields_saveState
    · exact yields_pure rfl
  · split
    · exact yields_pure rfl
    · split
      · exact yields_pure rfl
      · exact yields_saveState

theorem yields_tryAppend : Yields (g.tryAppend record) fun r => r.2.core = g.core :=
  yields_true.bind fun _ _ => yields_pure rfl

theorem yields_compactJournal : Yields g.compactJournal fun r => r.2.core = g.core := by
  refine yields_true.bind fun ⟨status, store⟩ _ => ?_
  dsimp only
  split <;> exact yields_pure rfl

theorem core_withAudit : (g.withAudit record).core = g.core := rfl

theorem yields_appendJournal : Yields (g.appendJournal record) fun r => r.2.core = g.core := by
  refine yields_tryAppend.bind fun ⟨status, g₁⟩ h₁ => ?_
  dsimp only at h₁ ⊢
  split
  · refine yields_compactJournal.bind fun ⟨status, g₂⟩ h₂ => ?_
    dsimp only at h₂ ⊢
    split
    · refine yields_tryAppend.bind fun ⟨status, g₃⟩ h₃ => yields_pure ?_
      dsimp only at h₃ ⊢
      split
      · exact core_withAudit.trans (h₃.trans (h₂.trans h₁))
      · exact h₃.trans (h₂.trans h₁)
    · exact yields_pure (h₂.trans h₁)
  · refine yields_pure ?_
    dsimp only
    split
    · exact core_withAudit.trans h₁
    · exact h₁

/-! ## Publications -/

/-- The governor after `ingest_locked` has accepted a publication as new. -/
def bookkept (g : Governor) (kind : EvidenceKind) (h : SnapshotHeader) : Governor :=
  (((g.ensureSlot h.domain kind).modifyRegistration h.provenance.publisher fun r =>
    { r with lastSequence := h.provenance.sequence }).modifySlot h.domain kind fun slot =>
      { slot.cleared with state := recorded slot.state h }).marked

variable {σ : Type}

/-- The governor that holds a publication. -/
def published (K : SnapshotKind σ) (g : Governor) (copy : σ) : Governor :=
  let h := K.header copy
  let generation := (g.slotState h.domain K.kind).generation + 1
  ((g.bookkept K.kind h).ensureSlot h.domain K.kind).modifySlot h.domain K.kind
    (K.store (assigned K generation copy))

/-- The governor after the rollback of a publication that could not be
saved. -/
def unpublished (K : SnapshotKind σ) (g : Governor) (copy : σ) : Governor :=
  let h := K.header copy
  ((g.published K copy).modifySlot h.domain K.kind EvidenceSlot.cleared).restoreRollback
    (g.captureRollback h.domain K.kind h.provenance.publisher) h.domain K.kind h.provenance.publisher

/-- The bookkeeping of a slot names the evidence of a header, by its id or by
its generation. -/
def Names (state : EvidenceSlotState) (h : SnapshotHeader) : Prop :=
  (state.evidenceId.valid = true ∧ state.evidenceId = h.provenance.evidenceId) ∨
    (h.generation = state.generation ∧ state.generation ≠ 0)

/-- A publication passed the tests on itself and on its publisher. -/
structure Passes (K : SnapshotKind σ) (g : Governor) (copy : σ) : Prop where
  valid : (K.validate copy).isOk = true
  isOpen : g.isOpen = true
  epoch : (K.header copy).epoch = g.state.epoch

/-- A publication is ahead of the registration of its publisher. -/
structure Registered (g : Governor) (h : SnapshotHeader) (r : PublisherRegistration) : Prop where
  found : g.registration h.provenance.publisher = some r
  unfenced : r.fenced = false
  epoch : r.epoch.value = g.state.epoch.value
  incarnation : r.incarnation = h.provenance.incarnation
  sequence : r.lastSequence < h.provenance.sequence

/-- How the ingestion of a snapshot ends. -/
inductive Ingests (K : SnapshotKind σ) (g : Governor) (copy : σ) : IngestOutcome → Governor → Prop
  | refused {o : IngestOutcome} {g' : Governor} (ho : o.status.isOk = false)
      (hg : g'.core = g.core ∨ g'.core = (g.ensureSlot (K.header copy).domain K.kind).core) :
      Ingests K g copy o g'
  | duplicated {g' : Governor} (hp : Passes K g copy)
      (hnames : Names (g.slotState (K.header copy).domain K.kind) (K.header copy))
      (hpayload : (g.slotState (K.header copy).domain K.kind).payloadDigest =
        (K.header copy).provenance.payloadDigest)
      (hg : g'.core = (g.ensureSlot (K.header copy).domain K.kind).core) :
      Ingests K g copy
        ⟨.success, (g.slotState (K.header copy).domain K.kind).generation, true⟩ g'
  | accepted {g' : Governor} {r : PublisherRegistration} (hp : Passes K g copy)
      (hr : Registered g (K.header copy) r)
      (hnames : ¬ Names (g.slotState (K.header copy).domain K.kind) (K.header copy))
      (hnext : (g.slotState (K.header copy).domain K.kind).generation + 1 ≠ 0)
      (hg : g'.core = (g.published K copy).core) :
      Ingests K g copy
        ⟨.success, (g.slotState (K.header copy).domain K.kind).generation + 1, false⟩ g'
  | unsaved {o : IngestOutcome} {g' : Governor} (hp : Passes K g copy) (ho : o.status.isOk = false)
      (hnext : (g.slotState (K.header copy).domain K.kind).generation + 1 ≠ 0)
      (hg : g'.core = (g.unpublished K copy).core) : Ingests K g copy o g'

/-- What the tests of the slot let through: a duplicate is evidence that the
slot names. -/
theorem checkSlot_eq_ok {state : EvidenceSlotState} {r : PublisherRegistration} {h : SnapshotHeader}
    {a : Accepted} (hok : g.checkSlot state r h = .ok a) :
    (a = ⟨state.generation, true⟩ ∧ Names state h ∧
        state.payloadDigest = h.provenance.payloadDigest) ∨
      (a = ⟨state.generation + 1, false⟩ ∧ state.generation + 1 ≠ 0 ∧ ¬ Names state h) := by
  unfold checkSlot at hok
  dsimp only at hok
  split at hok
  next hid =>
    split at hok
    next hpayload => exact .inl ⟨(Except.ok.inj hok).symm, .inl hid, hpayload⟩
    · cases hok
  next hid =>
    split at hok
    · cases hok
    · split at hok
      · cases hok
      next hnext =>
        split at hok
        next hgeneration =>
          split at hok
          next hpayload => exact .inl ⟨(Except.ok.inj hok).symm, .inr hgeneration, hpayload⟩
          · cases hok
        next hgeneration =>
          have hnames : ¬ Names state h := not_or.mpr ⟨hid, hgeneration⟩
          split at hok
          · split at hok
            · exact .inr ⟨(Except.ok.inj hok).symm, hnext, hnames⟩
            · cases hok
          · split at hok
            · cases hok
            · exact .inr ⟨(Except.ok.inj hok).symm, hnext, hnames⟩

theorem checkSlot_error {state : EvidenceSlotState} {r : PublisherRegistration} {h : SnapshotHeader}
    {status : Status} (herr : g.checkSlot state r h = .error status) : status.isOk = false := by
  unfold checkSlot at herr
  dsimp only at herr
  repeat' split at herr
  all_goals cases herr
  all_goals rfl

/-- What the tests of the publisher let through. -/
theorem checkPublisher_eq_ok {h : SnapshotHeader} {r : PublisherRegistration}
    (hok : g.checkPublisher h = .ok r) : g.isOpen = true ∧ h.epoch = g.state.epoch := by
  unfold checkPublisher at hok
  split at hok
  · cases hok
  next hopen =>
    split at hok
    · cases hok
    split at hok
    · cases hok
    split at hok
    · cases hok
    next hepoch =>
      exact ⟨by simpa using hopen, congrArg FabricEpoch.mk (not_not.mp hepoch)⟩

theorem checkPublisher_error {h : SnapshotHeader} {status : Status}
    (herr : g.checkPublisher h = .error status) : status.isOk = false := by
  unfold checkPublisher at herr
  repeat' split at herr
  all_goals cases herr
  all_goals rfl

variable {domain : OversubscriptionDomainId} {kind : EvidenceKind}

theorem ensureSlot_eq : g.ensureSlot domain kind =
    { g with slots := (g.ensureSlot domain kind).slots } := by
  unfold ensureSlot
  split <;> rfl

/-- The tests of the slot look at the options alone. -/
theorem checkSlot_ensureSlot {state : EvidenceSlotState} {r : PublisherRegistration}
    {h : SnapshotHeader} :
    (g.ensureSlot domain kind).checkSlot state r h = g.checkSlot state r h := by
  rw [ensureSlot_eq]
  rfl

theorem ingestLocked_eq {h : SnapshotHeader} :
    g.ingestLocked kind h =
      match g.checkPublisher h with
      | .error status => (.error status, g)
      | .ok r =>
          match g.checkSlot (g.slotState h.domain kind) r h with
          | .error status => (.error status, g.ensureSlot h.domain kind)
          | .ok a =>
              (.ok a, if a.duplicate then g.ensureSlot h.domain kind else g.bookkept kind h) := by
  unfold ingestLocked
  cases g.checkPublisher h with
  | error status => rfl
  | ok r =>
      dsimp only
      rw [checkSlot_ensureSlot]
      cases g.checkSlot (g.slotState h.domain kind) r h with
      | error status => rfl
      | ok a =>
          dsimp only
          split <;> rfl

theorem core_ensureSlot : (g.ensureSlot domain kind).core = g.core.ensureSlot domain kind := by
  unfold ensureSlot
  have hfind : g.core.findSlot domain kind = g.findSlot domain kind := rfl
  rw [hfind]
  cases g.findSlot domain kind with
  | none => rfl
  | some slot => rfl

/-- A rollback looks at the core alone. -/
theorem core_restoreRollback {rollback : IngestRollback} {publisher : PublisherId} :
    (g.restoreRollback rollback domain kind publisher).core =
      g.core.restoreRollback rollback domain kind publisher := by
  have hmodify : ∀ (x : Governor) (f : EvidenceSlot → EvidenceSlot),
      (x.modifySlot domain kind f).core = x.core.modifySlot domain kind f := fun _ _ => rfl
  have hregister : ∀ (x : Governor) (f : PublisherRegistration → PublisherRegistration),
      (x.modifyRegistration publisher f).core = x.core.modifyRegistration publisher f :=
    fun _ _ => rfl
  obtain ⟨slot, sequence⟩ := rollback
  unfold restoreRollback
  cases slot <;> cases sequence <;> simp only [hmodify, hregister, core_ensureSlot]

/-! ## Decisions -/

theorem evaluationAt_congr {order : MapOrder} {tick : UInt64} (h : g'.core = g.core) :
    g'.evaluationAt order domain tick = g.evaluationAt order domain tick :=
  core_congr (fun g => g.evaluationAt order domain tick) (fun _ => rfl) h

/-- A ruling looks at the core alone. -/
theorem rule_congr {order : MapOrder} {tick wall : UInt64} (h : g'.core = g.core) :
    g'.rule order domain tick wall = g.rule order domain tick wall :=
  core_congr (fun g => g.rule order domain tick wall) (fun _ => rfl) h

theorem core_withRuling {r : Ruling} (h : g'.core = g.core) :
    (g'.withRuling domain r).core = (g.withRuling domain r).core :=
  core_congr (fun g => (g.withRuling domain r).core) (fun _ => rfl) h

/-- How an evaluation ends. -/
inductive Evaluates (order : MapOrder) (wall : UInt64) (g : Governor) (request : EvaluationRequest) :
    Except Status Decision → Governor → Prop
  | refused {status : Status} {g' : Governor} (hg : g'.core = g.core) :
      Evaluates order wall g request (.error status) g'
  | recorded {tick : UInt64} {result : Except Status Decision} {g' : Governor}
      (hopen : g.isOpen = true) (hdomain : request.domain.valid = true)
      (htick : tick = max request.tick g.clock.tick)
      (hr : ∀ d, result = .ok d → d = (g.rule order request.domain tick wall).decision)
      (hg : g'.core = (g.withRuling request.domain (g.rule order request.domain tick wall)).core) :
      Evaluates order wall g request result g'

/-! ## Opening -/

/-- A runtime that has just been opened. -/
structure Pristine (g : Governor) : Prop where
  isOpen : g.isOpen = true
  policy : (validatePolicy g.state.policy).isOk = true
  index : g.index = .rebuild g.state.policy
  slots : ∀ slot ∈ g.slots, slot.hasContent = false
  since : g.decisionsSinceSave = 0

/-- How an attempt to open a runtime ends. -/
inductive Opens (g : Governor) : Governor → Prop
  | live {g' : Governor} (hclosed : g.isOpen = false) (hg : Pristine g') : Opens g g'
  | refused (hopen : g.isOpen = true) : Opens g g
  | failed {g' : Governor} (hclosed : g.isOpen = false) (hg : g'.isOpen = false)
      (hslots : g'.slots = g.slots ∨ ∀ slot ∈ g'.slots, slot.hasContent = false) : Opens g g'

/-! ## Calls -/

/-- The call that publishes a snapshot. -/
inductive Publication : {σ : Type} → SnapshotKind σ → σ → Command → Prop
  | capacity (s : CapacitySnapshot) : Publication capacityKind s (.ingestCapacity s)
  | reservations (s : ReservationSnapshot) : Publication reservationKind s (.ingestReservations s)
  | admissions (s : AdmissionSnapshot) : Publication admissionKind s (.ingestAdmissions s)

/-- The governor, with another table of publishers. -/
def withPublishers (g : Governor) (publishers : List PublisherRegistration) : Governor :=
  { g with state := { g.state with publishers } }

/-- What a call does to a governor: the reply and the governor after it. -/
inductive Effect (g : Governor) : Command → Reply → Governor → Prop
  | kept {c : Command} {reply : Reply} {g' : Governor} (hquiet : reply.quiet = true)
      (hg : g'.core = g.core) : Effect g c reply g'
  | opened {options : GovernorOptions} {policy : OversubscriptionPolicy} {status : Status}
      {g' : Governor} (h : Opens g g') : Effect g (.openRuntime options policy) (.status status) g'
  | stopped {c : Command} {status : Status} {isOpen : Bool} {g' : Governor}
      (hopen : isOpen = true → g.isOpen = true)
      (hg : g'.core = { g with accepting := false, shuttingDown := true, isOpen }.core) :
      Effect g c (.status status) g'
  | installed {policy : OversubscriptionPolicy} {tick : UInt64} {status : Status} {g' : Governor}
      (hnext : nextPolicyGeneration g.state.policy ≠ 0)
      (hpolicy : (validatePolicy (stampedPolicy g.state.policy policy)).isOk = true)
      (hg : g'.core = (g.withPolicy (stampedPolicy g.state.policy policy)).core) :
      Effect g (.installPolicy policy tick) (.status status) g'
  | advanced {next : FabricEpoch} {status : Status} {g' : Governor}
      (hnext : g.state.epoch.value < next.value) (hg : g'.core = (g.withEpoch next).core) :
      Effect g (.advanceEpoch next) (.status status) g'
  | registered {c : Command} {publishers : List PublisherRegistration} {status : Status}
      {g' : Governor} (hc : ∀ p i e t, c ≠ .adoptIncarnation p i e t)
      (hg : g'.core = (g.withPublishers publishers).core) :
      Effect g c (.status status) g'
  | adopted {publisher : PublisherId} {incarnation : IncarnationId} {epoch : FabricEpoch}
      {tick : UInt64} {publishers : List PublisherRegistration} {status : Status} {g' : Governor}
      (hg : g'.core = ((g.withPublishers publishers).flagPublisher publisher).core) :
      Effect g (.adoptIncarnation publisher incarnation epoch tick) (.status status) g'
  | ingested {σ : Type} {K : SnapshotKind σ} {snapshot : σ} {c : Command} {o : IngestOutcome}
      {g' : Governor} (hc : Publication K snapshot c) (h : Ingests K g (digested K snapshot) o g') :
      Effect g c (.ingested o) g'
  | evaluated {order : MapOrder} {wall : UInt64} {request : EvaluationRequest}
      {result : Except Status Decision} {g' : Governor}
      (h : Evaluates order wall g request result g') :
      Effect g (.evaluate order wall request) (.decided result) g'

/-- A status with a governor whose core is kept. -/
theorem Effect.status {c : Command} {status : Status} (h : g'.core = g.core) :
    Effect g c (.status status) g' := .kept rfl h

theorem core_observing {tick : UInt64} : (g.observing tick).core = g.core := by
  unfold observing
  split <;> rfl

theorem core_withPublishers {publishers : List PublisherRegistration} (h : g'.core = g.core) :
    (g'.withPublishers publishers).core = (g.withPublishers publishers).core :=
  core_congr (fun g => (g.withPublishers publishers).core) (fun _ => rfl) h

/-- The core of a governor whose registrations alone differ from those of
another. -/
theorem core_eq_withPublishers {x : Governor} (h : g'.core = g.core)
    (hx : x.core = (g'.withPublishers x.state.publishers).core) :
    x.core = (g.withPublishers x.state.publishers).core :=
  hx.trans (core_withPublishers h)

theorem core_flagPublisher {publisher : PublisherId} (h : g'.core = g.core) :
    (g'.flagPublisher publisher).core = (g.flagPublisher publisher).core :=
  core_congr (fun g => (g.flagPublisher publisher).core) (fun _ => rfl) h

/-- A publication that was answered was ingested. -/
theorem Effect.ingests {K : SnapshotKind σ} {snapshot : σ} {c : Command} {o : IngestOutcome}
    (hc : Publication K snapshot c) (h : Effect g c (.ingested o) g') :
    Ingests K g (digested K snapshot) o g' := by
  cases hc with
  | capacity =>
      cases h with
      | kept hquiet => cases hquiet
      | ingested hc h =>
          cases hc
          exact h
  | reservations =>
      cases h with
      | kept hquiet => cases hquiet
      | ingested hc h =>
          cases hc
          exact h
  | admissions =>
      cases h with
      | kept hquiet => cases hquiet
      | ingested hc h =>
          cases hc
          exact h

/-- An evaluation that was answered was carried out. -/
theorem Effect.evaluates {order : MapOrder} {wall : UInt64} {request : EvaluationRequest}
    {result : Except Status Decision}
    (h : Effect g (.evaluate order wall request) (.decided result) g') :
    Evaluates order wall g request result g' := by
  cases h with
  | kept hquiet => cases hquiet
  | evaluated h => exact h

end

end Governor

end Oversub
