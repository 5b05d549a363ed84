import Oversub.Runtime.Stamps

/-!
# Oversub.Runtime.Calls

Every call has one of the effects of `Effect`, also on the directory: of the
state file it leaves either the old one or the one of the governor it ends
with, and only an evaluation touches the journal.  The same holds where the
process crashes, of a governor it would have ended with.
-/

namespace Oversub

open Crash Files

theorem Command.journals_eq_true {c : Command} :
    c.journals = true ↔ ∃ order wall request, c = .evaluate order wall request := by
  cases c with
  | evaluate order wall request => exact ⟨fun _ => ⟨order, wall, request, rfl⟩, fun _ => rfl⟩
  | _ => exact ⟨nofun, fun ⟨_, _, _, h⟩ => by cases h⟩

/-- The calls that open a runtime. -/
def Command.opens : Command → Bool
  | .openRuntime .. => true
  | _ => false

theorem Command.opens_eq_true {c : Command} :
    c.opens = true ↔ ∃ options policy, c = .openRuntime options policy := by
  cases c with
  | openRuntime options policy => exact ⟨fun _ => ⟨options, policy, rfl⟩, fun _ => rfl⟩
  | _ => exact ⟨nofun, fun ⟨_, _, h⟩ => by cases h⟩

namespace Governor

variable {g g' : Governor} {disk disk' : Disk} {force : Bool} {record : AuditRecord} {σ : Type}

/-! ## Effects of calls -/

/-- The directory after a call that ends with the governor `x`. -/
structure Leaves (g : Governor) (c : Command) (x : Governor) (disk disk' : Disk) : Prop where
  journal : c.journals = false → disk' .journal = disk .journal
  state : disk' .state = disk .state ∨ (g.isOpen = true ∧ Saved x disk')

/-- The program of a call has one of its effects, also on the directory. -/
def Does {α : Type} (g : Governor) (c : Command) (reply : α → Reply) (p : Storage (α × Governor)) :
    Prop :=
  ∀ w, Meets p
    (fun r w' => Effect g c (reply r.1) r.2 ∧ Leaves g c r.2 w.disk w'.disk)
    (fun w' => ∃ answer x, Effect g c answer x ∧ Leaves g c x w.disk w'.disk) w

/-- What a call does and leaves, in full. -/
structure Ends (g : Governor) (c : Command) (disk : Disk) (answer : Reply) (x : Governor)
    (disk' : Disk) : Prop where
  effect : Effect g c answer x
  registers : Registers g c answer x.state.publishers
  quiet : c.journals = false → Quiet g x
  journal : c.journals = false → disk' .journal = disk .journal
  state : disk' .state = disk .state ∨ g.isOpen = true ∧ Stamped x disk'
  since : c.journals = false → x.decisionsSinceSave = g.decisionsSinceSave ∨
    x.decisionsSinceSave = 0 ∧ Stamped x disk'

/-- A call that reports success has saved what it changed. -/
def Settles (g : Governor) (answer : Reply) (x : Governor) (disk' : Disk) : Prop :=
  answer.isOk = true → Stamped x disk' ∨ SameBooks g x

/-- The program of a call ends in one of these ways. -/
def Obeys {α : Type} (g : Governor) (c : Command) (reply : α → Reply) (p : Storage (α × Governor)) :
    Prop :=
  ∀ w, Meets p
    (fun r w' => Ends g c w.disk (reply r.1) r.2 w'.disk ∧ Settles g (reply r.1) r.2 w'.disk)
    (fun w' => ∃ answer x, Ends g c w.disk answer x w'.disk) w

section

variable {α : Type} {c : Command} {reply : α → Reply} {answer : Reply}

theorem Ends.leaves (h : Ends g c disk answer g' disk') : Leaves g c g' disk disk' :=
  ⟨h.journal, h.state.imp_right fun ⟨hopen, hstamped⟩ => ⟨hopen, g'.state, rfl, hstamped.saved⟩⟩

theorem Obeys.does {p : Storage (α × Governor)} (h : Obeys g c reply p) : Does g c reply p := fun w =>
  (h w).mono (fun _ _ ⟨hends, _⟩ => ⟨hends.effect, hends.leaves⟩)
    fun _ ⟨answer, x, hends⟩ => ⟨answer, x, hends.effect, hends.leaves⟩

/-- A call that writes nothing. -/
theorem obeys_pure {a : α} (h : Effect g c (reply a) g') (hquiet : Quiet g g')
    (hbooks : SameBooks g g') (hsince : g'.decisionsSinceSave = g.decisionsSinceSave) :
    Obeys g c reply (pure (a, g')) := fun _ =>
  ⟨⟨h, hbooks.publishers ▸ .same, fun _ => hquiet, fun _ => rfl, .inl rfl, fun _ => .inl hsince⟩,
    fun _ => .inr hbooks⟩

theorem obeys_refused {a : α} (h : Effect g c (reply a) g) : Obeys g c reply (pure (a, g)) :=
  obeys_pure h quiet_refl (sameBooks_of_core rfl) rfl

theorem since_observing {tick : UInt64} :
    (g.observing tick).decisionsSinceSave = g.decisionsSinceSave := by
  unfold observing
  split <;> rfl

theorem obeys_observed {status : Status} {tick : UInt64} :
    Obeys g c .status (pure (status, g.observing tick)) :=
  obeys_pure (.status core_observing) quiet_observing (sameBooks_of_core core_observing) since_observing

/-- A save of a governor, as the end of a call. -/
theorem Restamped.ends {x : Governor} (hx : Restamped x g') (hquiet : Quiet g g')
    (h : Effect g c answer x) (hregisters : Registers g c answer g'.state.publishers)
    (hopen : g.isOpen = true) (hjournal : disk' .journal = disk .journal)
    (hstate : disk' .state = disk .state ∨ Stamped x disk')
    (hsince : x.decisionsSinceSave = g'.decisionsSinceSave ∨
      x.decisionsSinceSave = 0 ∧ Stamped x disk')
    (hbefore : g'.decisionsSinceSave = g.decisionsSinceSave) : Ends g c disk answer x disk' where
  effect := h
  registers := by
    have hpublishers : x.state.publishers = g'.state.publishers :=
      core_congr (·.state.publishers) (fun _ => rfl) hx.core
    rw [hpublishers]
    exact hregisters
  quiet _ := by
    have hisOpen : x.isOpen = g'.isOpen := core_congr (·.isOpen) (fun _ => rfl) hx.core
    refine ⟨fun hxopen => hx.store.trans (hquiet.store (hisOpen ▸ hxopen)),
      hx.audit.trans hquiet.audit, ?_⟩
    rw [hx.clock]
    exact hquiet.clock
  journal _ := hjournal
  state := hstate.imp_right fun hstamped => ⟨hopen, hstamped⟩
  since _ := hsince.imp_left fun h => h.trans hbefore

/-- A change that is made durable at once. -/
theorem obeys_persistState (hopen : g.isOpen = true) (hquiet : Quiet g g')
    (h : ∀ (status : Status) (x : Governor), x.core = g'.core → Effect g c (.status status) x)
    (hregisters : ∀ status, Registers g c (.status status) g'.state.publishers)
    (hbefore : g'.decisionsSinceSave = g.decisionsSinceSave) :
    Obeys g c .status (g'.persistState true) := by
  intro w
  refine meets_persisted.mono (fun r w' hr => ⟨?_, fun hok => ?_⟩) fun w' hs => ?_
  · exact hr.restamped.ends hquiet (h r.1 r.2 hr.restamped.core) (hregisters r.1) hopen hr.journal hr.state
      hr.since hbefore
  · exact .inl (hr.stamped rfl hok).1
  · rcases hs.state with hsame | ⟨x, hx, hsince, hstamped⟩
    · exact ⟨.status .success, g', restamped_refl.ends hquiet (h _ _ rfl) (hregisters _) hopen
        hs.journal (.inl hsame) (.inl rfl) hbefore⟩
    · exact ⟨.status .success, x, hx.ends hquiet (h _ _ hx.core) (hregisters _) hopen hs.journal
        (.inr hstamped) (.inl hsince) hbefore⟩

theorem obeys_replying {p : Storage (α × Governor)} (h : Obeys g c reply p) :
    Obeys g c id (replying reply p) := by
  intro w
  unfold replying
  rw [meets_bind]
  exact h w

/-! ## Lifecycle and configuration -/

theorem registration_observing {publisher : PublisherId} {tick : UInt64} :
    (g.observing tick).registration publisher = g.registration publisher :=
  core_congr (fun g => g.registration publisher) (fun _ => rfl) core_observing

theorem publishers_observing {tick : UInt64} :
    (g.observing tick).state.publishers = g.state.publishers :=
  core_congr (·.state.publishers) (fun _ => rfl) core_observing

theorem obeys_shutdown : Obeys g .shutdown .status g.shutdown := by
  have hquiet : Quiet g { g with accepting := false, shuttingDown := true } := ⟨fun _ => rfl, rfl, UInt64.le_refl _⟩
  unfold shutdown
  dsimp only
  split
  · exact obeys_pure (.stopped id rfl) hquiet ⟨rfl, rfl, rfl, rfl, fun _ _ => rfl⟩ rfl
  next hopen =>
    exact obeys_persistState (open_of_not hopen) hquiet (fun _ _ hx => .stopped id hx) (fun _ => .same)
      rfl

/-- A governor that stopped, with its store closed if it was open. -/
theorem Ends.closed {status : Status} {x : Governor} (hends : Ends g .shutdown disk (.status status) x disk')
    (hx : x.core = { g with accepting := false, shuttingDown := true }.core) :
    Ends g .close disk (.status status)
      (if x.isOpen then { x.closeStore with isOpen := false } else x) disk' := by
  have hregisters : Registers g .close (.status status) x.state.publishers := by
    have hsame : x.state.publishers = g.state.publishers :=
      (core_congr (·.state.publishers) (fun _ => rfl) hx :)
    rw [hsame]
    exact .same
  have hquiet := hends.quiet rfl
  split
  · refine ⟨.stopped (fun h => absurd h Bool.false_ne_true) ?_, hregisters, fun _ => ?_,
      fun _ => hends.journal rfl, ?_, fun _ => ?_⟩
    · exact congrArg (fun g : Governor => { g with isOpen := false }) hx
    · exact ⟨nofun, hquiet.audit, hquiet.clock⟩
    · exact hends.state.imp_right fun ⟨hopen, hs⟩ => ⟨hopen, hs.saved, hs.evidence, hs.tick⟩
    · exact (hends.since rfl).imp_right fun ⟨hsince, hs⟩ => ⟨hsince, hs.saved, hs.evidence, hs.tick⟩
  · exact ⟨.stopped id hx, hregisters, fun _ => hquiet, fun _ => hends.journal rfl, hends.state,
      fun _ => hends.since rfl⟩

theorem settles_closed {status : Status} {x : Governor} (h : Settles g (.status status) x disk') :
    Settles g (.status status) (if x.isOpen then { x.closeStore with isOpen := false } else x) disk' := by
  intro hok
  split
  · refine (h hok).imp ?_ ?_
    · exact fun hs => ⟨hs.saved, hs.evidence, hs.tick⟩
    · exact fun hb => ⟨hb.incarnation, hb.epoch, hb.policy, hb.publishers, hb.slots⟩
  · exact h hok

theorem obeys_close : Obeys g .close .status g.close := by
  have hquiet : Quiet g { g with accepting := false, shuttingDown := true } :=
    ⟨fun _ => rfl, rfl, UInt64.le_refl _⟩
  have hsame : SameBooks g { g with accepting := false, shuttingDown := true } :=
    ⟨rfl, rfl, rfl, rfl, fun _ _ => rfl⟩
  unfold close shutdown
  dsimp only
  split
  next hclosed =>
    intro w
    have hends : Ends g .shutdown w.disk (.status .success)
        { g with accepting := false, shuttingDown := true } w.disk :=
      ⟨.stopped id rfl, .same, fun _ => hquiet, fun _ => rfl, .inl rfl, fun _ => .inl rfl⟩
    have hsettles : Settles g (.status .success) { g with accepting := false, shuttingDown := true }
        w.disk := fun _ => .inr hsame
    exact ⟨hends.closed rfl, settles_closed hsettles⟩
  next hopen =>
    have hends {x : Governor} {status : Status} {disk disk' : Disk}
        (hx : Restamped x { g with accepting := false, shuttingDown := true })
        (hjournal : disk' .journal = disk .journal)
        (hstate : disk' .state = disk .state ∨ Stamped x disk')
        (hsince : x.decisionsSinceSave = g.decisionsSinceSave ∨
          x.decisionsSinceSave = 0 ∧ Stamped x disk') : Ends g .shutdown disk (.status status) x disk' :=
      hx.ends hquiet (.stopped id hx.core) .same (open_of_not hopen) hjournal hstate hsince rfl
    intro w
    rw [meets_bind]
    refine meets_persisted.mono (fun r w' hr => ?_) fun w' hs => ?_
    · refine ⟨(hends hr.restamped hr.journal hr.state hr.since).closed hr.restamped.core, ?_⟩
      exact settles_closed fun hok => .inl (hr.stamped rfl hok).1
    · rcases hs.state with hkept | ⟨x, hx, hsince, hstamped⟩
      · exact ⟨.status .success, _, (hends restamped_refl hs.journal (.inl hkept) (.inl rfl)).closed rfl⟩
      · exact ⟨.status .success, _,
          (hends hx hs.journal (.inr hstamped) (.inl hsince)).closed hx.core⟩

theorem obeys_installPolicy {policy : OversubscriptionPolicy} {tick : UInt64} :
    Obeys g (.installPolicy policy tick) .status (g.installPolicy policy tick) := by
  have hobserving : Quiet g (g.observing tick) := quiet_observing
  have hpolicy : (g.observing tick).state.policy = g.state.policy :=
    core_congr (·.state.policy) (fun _ => rfl) core_observing
  unfold installPolicy
  dsimp only
  rw [hpolicy]
  split
  · exact obeys_refused (.status rfl)
  next hopen =>
    split
    · exact obeys_refused (.status rfl)
    split
    · exact obeys_observed
    next hnext =>
      split
      · exact obeys_observed
      · split
        · exact obeys_observed
        next hvalid =>
          have hquiet : Quiet g ((g.observing tick).withPolicy (stampedPolicy g.state.policy policy)) :=
            hobserving.congr rfl rfl rfl rfl
          have hpublishers : ((g.observing tick).withPolicy
              (stampedPolicy g.state.policy policy)).state.publishers = g.state.publishers :=
            publishers_observing
          refine obeys_persistState (open_of_not hopen) hquiet (fun _ _ hx =>
            .installed hnext (open_of_not hvalid) (hx.trans ?_)) (fun _ => hpublishers ▸ .same)
            since_observing
          exact core_congr (fun g => (g.withPolicy _).core) (fun _ => rfl) core_observing

theorem obeys_advanceEpoch {next : FabricEpoch} :
    Obeys g (.advanceEpoch next) .status (g.advanceEpoch next) := by
  unfold advanceEpoch
  split
  · exact obeys_refused (.status rfl)
  next hopen =>
    split
    · exact obeys_refused (.status rfl)
    next hnext =>
      rw [not_or, UInt64.not_le] at hnext
      have hquiet : Quiet g (g.withEpoch next) := ⟨fun _ => rfl, rfl, UInt64.le_refl _⟩
      exact obeys_persistState (open_of_not hopen) hquiet (fun _ _ hx => .advanced hnext.2 hx)
        (fun _ => .outdated) rfl

theorem obeys_advanceTick {delta : UInt64} :
    Obeys g (.advanceTick delta) .status (g.advanceTick delta) := by
  unfold advanceTick
  split
  · exact obeys_refused (.status rfl)
  split
  · exact obeys_refused (.status rfl)
  next clock hclock =>
    exact obeys_pure (.status rfl) ⟨fun _ => rfl, rfl, LogicalClock.le_of_advance hclock⟩
      ⟨rfl, rfl, rfl, rfl, fun _ _ => rfl⟩ rfl

theorem obeys_save : Obeys g .save .status g.save := by
  unfold save
  split
  · exact obeys_refused (.status rfl)
  next hopen =>
    exact obeys_persistState (open_of_not hopen) quiet_refl (fun _ _ hx => .status hx) (fun _ => .same)
      rfl

/-! ## Publishers -/

theorem obeys_registerPublisher {publisher : PublisherId} {incarnation : IncarnationId}
    {epoch : FabricEpoch} {tick : UInt64} :
    Obeys g (.registerPublisher publisher incarnation epoch tick) .status
      (g.registerPublisher publisher incarnation epoch tick) := by
  have hobserving : Quiet g (g.observing tick) := quiet_observing
  unfold registerPublisher
  dsimp only
  rw [registration_observing]
  split
  · exact obeys_refused (.status rfl)
  next hopen =>
    split
    · exact obeys_refused (.status rfl)
    next haccepting =>
    split
    · exact obeys_refused (.status rfl)
    split
    · exact obeys_refused (.status rfl)
    next hepoch =>
      have hcurrent : epoch.value = g.state.epoch.value := not_not.mp (not_or.mp hepoch).2
      split
      next hold =>
        split
        next hincarnation =>
          split
          next hfenced =>
            refine obeys_persistState (open_of_not hopen) (hobserving.congr rfl rfl rfl rfl) (fun _ _ hx =>
              .registered nofun (hx.trans (core_eq_withPublishers core_observing rfl))) (fun _ => ?_)
              since_observing
            have hreadmitted : ((g.observing tick).modifyRegistration publisher
                ((g.observing tick).admittedAs incarnation epoch)).marked.state.publishers =
                Table.modify (·.publisher) publisher
                  (readmitting incarnation epoch (g.observing tick).clock.tick) g.state.publishers :=
              congrArg (Table.modify _ _ _) publishers_observing
            rw [hreadmitted]
            exact .readmitted hold (open_of_not haccepting) (.inl ⟨rfl, hincarnation, hfenced⟩) hcurrent
          · exact obeys_observed
        · exact obeys_observed
      next hnew =>
        split
        · exact obeys_observed
        · refine obeys_persistState (open_of_not hopen) (hobserving.congr rfl rfl rfl rfl) (fun _ _ hx =>
            .registered nofun (hx.trans (core_eq_withPublishers core_observing rfl))) (fun _ => ?_)
            since_observing
          dsimp only [marked]
          rw [publishers_observing]
          exact .added hnew hcurrent

/-! A registration under a new incarnation: the store, the history and the
clock are as they were. -/

theorem Quiet.adopted {x : Governor} {publisher : PublisherId}
    {f : PublisherRegistration → PublisherRegistration} (h : Quiet g x) :
    Quiet g ((x.modifyRegistration publisher f).flagPublisher publisher).marked :=
  h.congr rfl rfl rfl rfl

theorem core_adopted {x : Governor} {publisher : PublisherId} {publishers : List PublisherRegistration}
    (h : x.core = g.core) : ((x.withPublishers publishers).flagPublisher publisher).marked.core =
      ((g.withPublishers publishers).flagPublisher publisher).core :=
  core_flagPublisher (core_withPublishers h)

theorem since_adopted {x : Governor} {publisher : PublisherId}
    {f : PublisherRegistration → PublisherRegistration} :
    ((x.modifyRegistration publisher f).flagPublisher publisher).marked.decisionsSinceSave =
      x.decisionsSinceSave := rfl

theorem obeys_adoptIncarnation {publisher : PublisherId} {incarnation : IncarnationId}
    {epoch : FabricEpoch} {tick : UInt64} :
    Obeys g (.adoptIncarnation publisher incarnation epoch tick) .status
      (g.adoptIncarnation publisher incarnation epoch tick) := by
  have hobserving : Quiet g (g.observing tick) := quiet_observing
  unfold adoptIncarnation
  dsimp only
  split
  · exact obeys_refused (.status rfl)
  next hopen =>
    split
    · exact obeys_refused (.status rfl)
    next haccepting =>
    split
    · exact obeys_refused (.status rfl)
    split
    · exact obeys_refused (.status rfl)
    next hepoch =>
      split
      · exact obeys_observed
      next hold =>
        split
        · exact obeys_observed
        next hout =>
          have hcore {status : Status} {x : Governor}
              (hx : x.core = (((g.observing tick).modifyRegistration publisher
                ((g.observing tick).admittedAs incarnation epoch)).flagPublisher publisher).marked.core) :
              Effect g (.adoptIncarnation publisher incarnation epoch tick) (.status status) x :=
            .adopted (hx.trans (core_adopted core_observing))
          refine obeys_persistState (open_of_not hopen) hobserving.adopted (fun _ _ hx => hcore hx) (fun _ => ?_)
            (since_adopted.trans since_observing)
          have hreadmitted : (((g.observing tick).modifyRegistration publisher
              ((g.observing tick).admittedAs incarnation epoch)).flagPublisher
                publisher).marked.state.publishers =
              Table.modify (·.publisher) publisher
                (readmitting incarnation epoch (g.observing tick).clock.tick) g.state.publishers :=
            congrArg (Table.modify _ _ _) publishers_observing
          rw [hreadmitted]
          rw [registration_observing] at hold
          exact .readmitted hold (open_of_not haccepting) (.inr ⟨rfl, hout⟩) (not_not.mp hepoch)

theorem obeys_fencePublisher {publisher : PublisherId} {reason : Code ReasonCode} :
    Obeys g (.fencePublisher publisher reason) .status (g.fencePublisher publisher reason) := by
  unfold fencePublisher
  split
  · exact obeys_refused (.status rfl)
  next hopen =>
    split
    · exact obeys_refused (.status rfl)
    · exact obeys_persistState (open_of_not hopen) ⟨fun _ => rfl, rfl, UInt64.le_refl _⟩
        (fun _ _ hx => .registered nofun hx) (fun _ => .fenced) rfl

/-! ## Publications -/

theorem ensureSlot_state {domain : OversubscriptionDomainId} {kind : EvidenceKind} :
    (g.ensureSlot domain kind).state = g.state := by
  unfold ensureSlot
  split <;> rfl

/-- What only the slots and the publishers of a governor differ from. -/
theorem quiet_of_eq {slots : List EvidenceSlot} {publishers : List PublisherRegistration} {dirty : Bool}
    (h : g' = { g with slots, state := { g.state with publishers }, stateDirty := dirty }) : Quiet g g' := by
  rw [h]
  exact ⟨fun _ => rfl, rfl, UInt64.le_refl _⟩

theorem published_frame {K : SnapshotKind σ} {copy : σ} : g.published K copy =
    { g with
      slots := (g.published K copy).slots
      state := { g.state with publishers := (g.published K copy).state.publishers }
      stateDirty := true } := by
  rw [published, bookkept, ensureSlot_eq, ensureSlot_eq (g := g)]
  rfl

theorem restoreRollback_frame {rollback : IngestRollback} {domain : OversubscriptionDomainId}
    {kind : EvidenceKind} {publisher : PublisherId} :
    g.restoreRollback rollback domain kind publisher =
      { g with
        slots := (g.restoreRollback rollback domain kind publisher).slots
        state := { g.state with
          publishers := (g.restoreRollback rollback domain kind publisher).state.publishers } } := by
  obtain ⟨slot, sequence⟩ := rollback
  unfold restoreRollback
  rw [ensureSlot_eq]
  cases slot <;> cases sequence <;> rfl

/-- A rollback is no more than a change of slots and publishers. -/
theorem quiet_restored {x : Governor} {rollback : IngestRollback} {domain : OversubscriptionDomainId}
    {kind : EvidenceKind} {publisher : PublisherId} {f : EvidenceSlot → EvidenceSlot}
    (hx : Restamped x g) :
    Quiet g ((x.modifySlot domain kind f).restoreRollback rollback domain kind publisher) := by
  rw [restoreRollback_frame]
  exact ⟨fun _ => hx.store, hx.audit, by rw [← hx.clock]; exact UInt64.le_refl _⟩

theorem publishers_published {K : SnapshotKind σ} {copy : σ} : (g.published K copy).state.publishers =
    Table.modify (·.publisher) (K.header copy).provenance.publisher
      (fun r => { r with lastSequence := (K.header copy).provenance.sequence }) g.state.publishers := by
  have hstate : (g.published K copy).state =
      ((g.bookkept K.kind (K.header copy)).ensureSlot (K.header copy).domain K.kind).state := rfl
  have hbookkept : (g.bookkept K.kind (K.header copy)).state.publishers =
      Table.modify (·.publisher) (K.header copy).provenance.publisher
        (fun r => { r with lastSequence := (K.header copy).provenance.sequence })
        (g.ensureSlot (K.header copy).domain K.kind).state.publishers := rfl
  rw [hstate, ensureSlot_state, hbookkept, ensureSlot_state]

theorem publishers_restoreRollback {rollback : IngestRollback} {domain : OversubscriptionDomainId}
    {kind : EvidenceKind} {publisher : PublisherId} :
    (g.restoreRollback rollback domain kind publisher).state.publishers =
      match rollback.sequence with
      | none => g.state.publishers
      | some lastSequence =>
          Table.modify (·.publisher) publisher (fun r => { r with lastSequence }) g.state.publishers := by
  have hmodify {state : EvidenceSlotState} : ((g.ensureSlot domain kind).modifySlot domain kind
      fun slot => { slot with state }).state = g.state := ensureSlot_state
  obtain ⟨slot, sequence⟩ := rollback
  unfold restoreRollback
  cases slot with
  | none => cases sequence <;> rfl
  | some state =>
      cases sequence with
      | none => exact congrArg (·.publishers) hmodify
      | some lastSequence => exact congrArg (fun s : DurableState => Table.modify _ _ _ s.publishers) hmodify

/-- A rollback takes the sequence back. -/
theorem publishers_unpublished {K : SnapshotKind σ} {copy : σ} :
    (g.unpublished K copy).state.publishers = g.state.publishers := by
  have hcleared : ((g.published K copy).modifySlot (K.header copy).domain K.kind
      EvidenceSlot.cleared).state.publishers = (g.published K copy).state.publishers := rfl
  have hsequence : (g.captureRollback (K.header copy).domain K.kind
      (K.header copy).provenance.publisher).sequence =
        (g.registration (K.header copy).provenance.publisher).map (·.lastSequence) := rfl
  rw [unpublished, publishers_restoreRollback, hsequence, hcleared, publishers_published]
  cases hold : g.registration (K.header copy).provenance.publisher with
  | none => exact Table.modify_of_get_none hold
  | some r =>
      dsimp only [Option.map_some]
      rw [Table.modify_modify]
      · exact Table.modify_of_get hold rfl
      · exact fun _ h => h

/-- What the tests of the publisher let through: a registration that is not
fenced, of this epoch and incarnation. -/
theorem checkPublisher_registered {h : SnapshotHeader} {r : PublisherRegistration}
    (hok : g.checkPublisher h = .ok r) : g.registration h.provenance.publisher = some r ∧
      r.fenced = false ∧ r.epoch.value = g.state.epoch.value ∧ r.incarnation = h.provenance.incarnation := by
  unfold checkPublisher at hok
  split at hok
  · cases hok
  split at hok
  · cases hok
  split at hok
  · cases hok
  split at hok
  · cases hok
  split at hok
  · cases hok
  next hold =>
    split at hok
    · cases hok
    next hfenced =>
      split at hok
      · cases hok
      next hepoch =>
        split at hok
        · cases hok
        next hincarnation =>
          split at hok
          · cases hok
          · obtain rfl := Except.ok.inj hok
            exact ⟨hold, by simpa using hfenced, not_not.mp hepoch, not_not.mp hincarnation⟩

/-- A new publication is ahead of the last sequence. -/
theorem checkSlot_sequence {state : EvidenceSlotState} {r : PublisherRegistration} {h : SnapshotHeader}
    {n : UInt64} (hok : g.checkSlot state r h = .ok ⟨n, false⟩) :
    r.lastSequence < h.provenance.sequence := by
  unfold checkSlot at hok
  dsimp only at hok
  split at hok
  · split at hok
    · cases hok
    · cases hok
  · split at hok
    · cases hok
    next hsequence => exact UInt64.not_le.mp hsequence

/-- **Ingestion**, case by case. -/
theorem obeys_ingest {K : SnapshotKind σ} {snapshot : σ} (hc : Publication K snapshot c) :
    Obeys g c .ingested (ingest K g snapshot) := by
  have hensured {a : IngestOutcome} (h : SnapshotHeader)
      (heffect : Effect g c (.ingested a) (g.ensureSlot h.domain K.kind)) :
      Obeys g c .ingested (pure (a, g.ensureSlot h.domain K.kind)) := by
    have hbooks : SameBooks g (g.ensureSlot h.domain K.kind) := by
      refine ⟨?_, ?_, ?_, ?_, fun domain kind => slotState_ensureSlot⟩
      · rw [ensureSlot_state]
      · rw [ensureSlot_state]
      · rw [ensureSlot_state]
      · rw [ensureSlot_state]
    have hquiet : Quiet g (g.ensureSlot h.domain K.kind) := by
      rw [ensureSlot_eq]
      exact ⟨fun _ => rfl, rfl, UInt64.le_refl _⟩
    exact obeys_pure heffect hquiet hbooks (by rw [ensureSlot_eq])
  unfold ingest
  dsimp only
  rw [ingestLocked_eq]
  split
  next hv => exact obeys_refused (.ingested hc (.refused (by simpa using hv) (.inl rfl)))
  next hv =>
    cases hp : g.checkPublisher (K.header (digested K snapshot)) with
    | error status =>
        exact obeys_refused (.ingested hc (.refused (checkPublisher_error hp) (.inl rfl)))
    | ok r =>
        dsimp only
        cases hs : g.checkSlot (g.slotState (K.header (digested K snapshot)).domain K.kind) r
          (K.header (digested K snapshot)) with
        | error status =>
            exact hensured _ (.ingested hc (.refused (checkSlot_error hs) (.inr rfl)))
        | ok a =>
            obtain ⟨hopen, hepoch⟩ := checkPublisher_eq_ok hp
            have hpass : Passes K g (digested K snapshot) := ⟨open_of_not hv, hopen, hepoch⟩
            rcases checkSlot_eq_ok hs with ⟨rfl, hnames, hpayload⟩ | ⟨rfl, hnext, hnames⟩
            · exact hensured _ (.ingested hc (.duplicated hpass hnames hpayload rfl))
            · obtain ⟨hold, hunfenced, hregistered, hincarnation⟩ := checkPublisher_registered hp
              have hr : Registered g (K.header (digested K snapshot)) r :=
                ⟨hold, hunfenced, hregistered, hincarnation, checkSlot_sequence hs⟩
              have hregisters (reply : Reply) : Registers g c reply
                  (g.published K (digested K snapshot)).state.publishers := by
                rw [publishers_published]
                exact .sequenced hc hr
              have hquiet : Quiet g (g.published K (digested K snapshot)) := quiet_of_eq published_frame
              have hpublishedOpen : (g.published K (digested K snapshot)).isOpen = true := by
                rw [published_frame]
                exact hopen
              have hbefore : (g.published K (digested K snapshot)).decisionsSinceSave =
                  g.decisionsSinceSave := by rw [published_frame]
              intro w
              dsimp only
              rw [if_neg Bool.false_ne_true, if_neg Bool.false_ne_true, meets_bind]
              refine meets_persisted.mono (fun ⟨status, g'⟩ w' hsave => ?_) fun w' hs => ?_
              · dsimp only
                split
                next hok =>
                  exact ⟨hsave.restamped.ends hquiet
                    (.ingested hc (.accepted hpass hr hnames hnext hsave.restamped.core)) (hregisters _)
                    hopen hsave.journal hsave.state hsave.since hbefore,
                    fun _ => .inl (hsave.stamped rfl hok).1⟩
                next ho =>
                  replace ho : status.isOk = false := by simpa using ho
                  let h := K.header (digested K snapshot)
                  have hcleared : (g'.modifySlot h.domain K.kind EvidenceSlot.cleared).core =
                      ((g.published K (digested K snapshot)).modifySlot h.domain K.kind
                        EvidenceSlot.cleared).core :=
                    congrArg (fun x : Governor => x.modifySlot _ _ _) hsave.restamped.core
                  have hcore : ((g'.modifySlot h.domain K.kind EvidenceSlot.cleared).restoreRollback
                      (g.captureRollback h.domain K.kind h.provenance.publisher) h.domain K.kind
                        h.provenance.publisher).core = (g.unpublished K (digested K snapshot)).core := by
                    rw [core_restoreRollback, unpublished, core_restoreRollback, hcleared]
                  have hpublishers := core_congr (·.state.publishers) (fun _ => rfl) hcore
                  rw [publishers_unpublished] at hpublishers
                  refine ⟨⟨.ingested hc (.unsaved hpass ho hnext hcore), hpublishers ▸ .same, fun _ => ?_,
                    fun _ => hsave.journal, .inl (hsave.unsaved ho).1, fun _ => .inl ?_⟩,
                    fun hok => absurd hok (by simp [Reply.isOk, ho])⟩
                  · exact hquiet.trans (quiet_restored hsave.restamped) hpublishedOpen
                  · rw [restoreRollback_frame]
                    exact (hsave.unsaved ho).2.trans hbefore
              · rcases hs.state with hkept | ⟨x, hx, hsince, hstamped⟩
                · exact ⟨_, _, restamped_refl.ends hquiet (.ingested hc (.accepted hpass hr hnames hnext rfl))
                    (hregisters _) hopen hs.journal (.inl hkept) (.inl rfl) hbefore⟩
                · exact ⟨_, _, hx.ends hquiet (.ingested hc (.accepted hpass hr hnames hnext hx.core))
                    (hregisters _) hopen hs.journal (.inr hstamped) (.inl hsince) hbefore⟩

/-! ## Decisions -/

theorem spares_tryAppend : Spares .state (g.tryAppend record) :=
  Store.spares_appendAudit.bind fun _ => spares_pure

theorem spares_appendJournal : Spares .state (g.appendJournal record) := by
  refine spares_tryAppend.bind fun ⟨status, g₁⟩ => ?_
  dsimp only
  split
  · have hcompact : Spares .state g₁.compactJournal := by
      refine Store.spares_compactJournal.bind fun ⟨status, store⟩ => ?_
      dsimp only
      split <;> exact spares_pure
    refine hcompact.bind fun ⟨status, g₂⟩ => ?_
    dsimp only
    split
    · exact spares_tryAppend.bind fun _ => spares_pure
    · exact spares_pure
  · exact spares_pure

/-- **Evaluation**, case by case. -/
theorem obeys_evaluate {order : MapOrder} {wall : UInt64} {request : EvaluationRequest} :
    Obeys g (.evaluate order wall request) .decided (g.evaluate order wall request) := by
  have hkept {result : Except Status Decision} {x : Governor} {disk disk' : Disk}
      (h : Evaluates order wall g request result x) (hcore : SameBooks g x)
      (hdisk : disk' .state = disk .state ∨ g.isOpen = true ∧ Stamped x disk') :
      Ends g (.evaluate order wall request) disk (.decided result) x disk' ∧
        Settles g (.decided result) x disk' :=
    ⟨⟨.evaluated h, hcore.publishers ▸ .same, nofun, nofun, hdisk, nofun⟩, fun _ => .inr hcore⟩
  have hrefused {status : Status} {x : Governor} (hx : x.core = g.core) :
      Obeys g (.evaluate order wall request) .decided (pure (.error status, x)) := fun _ =>
    hkept (.refused hx) (sameBooks_of_core hx) (.inl rfl)
  unfold evaluate evaluateLocked
  split
  · exact hrefused rfl
  split
  · exact hrefused rfl
  next hopen =>
    split
    · exact hrefused rfl
    next hdomain =>
      dsimp only
      split
      · exact hrefused rfl
      · split
        · exact hrefused rfl
        · intro w
          rw [meets_bind]
          refine ((yields_appendJournal w).and (spares_appendJournal w)).mono
            (fun ⟨status, g₁⟩ w₁ ⟨hcore, hstate⟩ => ?_)
            fun w₁ h => ⟨.decided (.error notOpen), g, (hkept (.refused rfl) (sameBooks_of_core rfl)
              (.inl h.2)).1⟩
          replace hcore : g₁.core = g.core := hcore
          dsimp only
          split
          · exact hkept (.refused hcore) (sameBooks_of_core hcore) (.inl hstate)
          · have hrecorded {status : Status} {x : Governor} {disk' : Disk}
                (hx : x.core = (g₁.withRuling request.domain
                  (g.rule order request.domain (max request.tick g.clock.tick) wall)).core)
                (hdisk : disk' .state = w₁.disk .state ∨ Stamped x disk') :
                Ends g (.evaluate order wall request) w.disk (.decided (if status.isOk then
                    .ok (g.rule order request.domain (max request.tick g.clock.tick) wall).decision
                  else .error status)) x disk' ∧
                Settles g (.decided (if status.isOk then
                    .ok (g.rule order request.domain (max request.tick g.clock.tick) wall).decision
                  else .error status)) x disk' := by
              replace hx := hx.trans (core_withRuling hcore)
              refine hkept (.recorded (open_of_not hopen) (open_of_not hdomain) rfl ?_ hx) ?_ ?_
              · intro d hd
                split at hd
                · exact (Except.ok.inj hd).symm
                · cases hd
              · have hbooks : SameBooks (g.withRuling request.domain (g.rule order request.domain
                    (max request.tick g.clock.tick) wall)) x := sameBooks_of_core hx
                exact ⟨hbooks.incarnation, hbooks.epoch, hbooks.policy, hbooks.publishers, hbooks.slots⟩
              · exact hdisk.imp (fun h => h.trans hstate) fun h => ⟨open_of_not hopen, h⟩
            rw [meets_bind]
            refine meets_persisted.mono (fun r w₂ hr => ?_) fun w₂ hs => ?_
            · exact hrecorded hr.restamped.core hr.state
            · rcases hs.state with hsame | ⟨x, hx, _, hstamped⟩
              · exact ⟨_, _, (@hrecorded .success _ _ rfl (.inl hsame)).1⟩
              · exact ⟨_, _, (@hrecorded .success _ _ hx.core (.inr hstamped)).1⟩

end

/-! ## All calls -/

/-- **What every call does**, but for those that open a runtime. -/
theorem obeys_perform (c : Command) (hc : c.opens = false) : Obeys g c id (c.perform g) := by
  cases c with
  | openRuntime => cases hc
  | close => exact obeys_replying obeys_close
  | shutdown => exact obeys_replying obeys_shutdown
  | installPolicy => exact obeys_replying obeys_installPolicy
  | advanceEpoch => exact obeys_replying obeys_advanceEpoch
  | advanceTick => exact obeys_replying obeys_advanceTick
  | save => exact obeys_replying obeys_save
  | registerPublisher => exact obeys_replying obeys_registerPublisher
  | adoptIncarnation => exact obeys_replying obeys_adoptIncarnation
  | fencePublisher => exact obeys_replying obeys_fencePublisher
  | ingestCapacity snapshot => exact obeys_replying (obeys_ingest (.capacity snapshot))
  | ingestReservations snapshot => exact obeys_replying (obeys_ingest (.reservations snapshot))
  | ingestAdmissions snapshot => exact obeys_replying (obeys_ingest (.admissions snapshot))
  | evaluate => exact obeys_replying obeys_evaluate
  | revalidate => exact obeys_refused (.kept rfl rfl)
  | crash => exact fun w => ⟨.status .success, g, .status rfl, .same, fun _ => quiet_refl, fun _ => rfl, .inl rfl,
      fun _ => .inl rfl⟩

/-- What it does to the core and to the directory. -/
theorem does_perform (c : Command) (hc : c.opens = false) : Does g c id (c.perform g) :=
  (obeys_perform c hc).does

theorem perform_effect (c : Command) : Yields (c.perform g) fun r => Effect g c r.1 r.2 := by
  cases hc : c.opens with
  | false => exact fun w => (does_perform c hc w).mono (fun _ _ h => h.1) fun _ _ => trivial
  | true =>
      cases c with
      | openRuntime options policy =>
          intro w
          rw [Command.perform, replying, meets_bind]
          exact meets_open.mono (fun _ _ h => .opened h.opens) fun _ _ => trivial
      | _ => cases hc

end Governor

namespace System

/-- A call that returned, and what it returned with. -/
theorem perform_eq_some {s : System} {c : Call} {reply : Reply} (h : (s.perform c).1 = some reply) :
    ∃ governor w, c.command.perform s.governor ⟨s.disk, c.fates⟩ = (some (reply, governor), w) ∧
      s.step c = ⟨governor, w.disk⟩ := by
  unfold step
  unfold perform at h ⊢
  generalize c.command.perform s.governor ⟨s.disk, c.fates⟩ = r at h ⊢
  obtain ⟨o, w⟩ := r
  cases o with
  | none => cases h
  | some r =>
      obtain rfl := Option.some.inj h
      exact ⟨r.2, w, rfl, rfl⟩

/-- A call that crashed. -/
theorem perform_eq_none {s : System} {c : Call} (h : (s.perform c).1 = none) :
    ∃ w, c.command.perform s.governor ⟨s.disk, c.fates⟩ = (none, w) ∧ s.step c = boot w.disk := by
  unfold step
  unfold perform at h ⊢
  generalize c.command.perform s.governor ⟨s.disk, c.fates⟩ = r at h ⊢
  obtain ⟨o, w⟩ := r
  cases o with
  | none => exact ⟨w, rfl, rfl⟩
  | some r => cases h

theorem effect_of_reply {s : System} {c : Call} {reply : Reply} (h : (s.perform c).1 = some reply) :
    Governor.Effect s.governor c.command reply (s.step c).governor := by
  obtain ⟨governor, w, hp, hs⟩ := perform_eq_some h
  rw [hs]
  exact (Governor.perform_effect c.command _).returned hp

/-- A call either returns, and has its effect, or leaves a process that has
just started. -/
theorem perform_cases (s : System) (c : Call) :
    (∃ reply, (s.perform c).1 = some reply ∧
        Governor.Effect s.governor c.command reply (s.step c).governor) ∨
      (s.perform c).1 = none ∧ (s.step c).governor = {} := by
  cases hreply : (s.perform c).1 with
  | some reply => exact .inl ⟨reply, rfl, effect_of_reply hreply⟩
  | none =>
      obtain ⟨w, _, hs⟩ := perform_eq_none hreply
      exact .inr ⟨rfl, by rw [hs]; rfl⟩

/-- **A call**: how it ends, returned or crashed. -/
theorem step_ends (s : System) (c : Call) (hc : c.command.opens = false) :
    ∃ reply x, Governor.Ends s.governor c.command s.disk reply x (s.step c).disk ∧
      ((s.perform c).1 = some reply ∧ Governor.Settles s.governor reply x (s.step c).disk ∧
          (s.step c).governor = x ∨
        (s.perform c).1 = none ∧ (s.step c).governor = {}) := by
  have hobeys := Governor.obeys_perform (g := s.governor) c.command hc ⟨s.disk, c.fates⟩
  cases hreply : (s.perform c).1 with
  | some reply =>
      obtain ⟨governor, w, hp, hs⟩ := perform_eq_some hreply
      obtain ⟨hends, hsettles⟩ := hobeys.returned hp
      rw [hs]
      exact ⟨reply, governor, hends, .inl ⟨rfl, hsettles, rfl⟩⟩
  | none =>
      obtain ⟨w, hp, hs⟩ := perform_eq_none hreply
      obtain ⟨answer, x, hends⟩ := hobeys.crashed hp
      rw [hs]
      exact ⟨answer, x, hends, .inr ⟨rfl, rfl⟩⟩

/-- What a call leaves behind, also on the directory. -/
theorem step_cases (s : System) (c : Call) (hc : c.command.opens = false) :
    ∃ reply x, Governor.Effect s.governor c.command reply x ∧
      Governor.Leaves s.governor c.command x s.disk (s.step c).disk ∧
      ((s.perform c).1 = some reply ∧ (s.step c).governor = x ∨
        (s.perform c).1 = none ∧ (s.step c).governor = {}) := by
  obtain ⟨reply, x, hends, hend⟩ := s.step_ends c hc
  exact ⟨reply, x, hends.effect, hends.leaves, hend.imp_left fun ⟨hreply, _, hx⟩ => ⟨hreply, hx⟩⟩

/-- What an attempt to open a runtime leaves behind. -/
theorem open_cases {s : System} {c : Call} {options : GovernorOptions} {policy : OversubscriptionPolicy}
    (hc : c.command = .openRuntime options policy) :
    ∃ x, Governor.Boots s.governor options policy s.disk x (s.step c).disk ∧
      ((s.step c).governor = x ∨ (s.perform c).1 = none ∧ (s.step c).governor = {}) := by
  have hmeets : Meets (c.command.perform s.governor)
      (fun r w' => Governor.Boots s.governor options policy s.disk r.2 w'.disk)
      (fun w' => ∃ x, Governor.Boots s.governor options policy s.disk x w'.disk)
      ⟨s.disk, c.fates⟩ := by
    rw [hc, Command.perform, replying, meets_bind]
    exact Governor.meets_open
  cases hreply : (s.perform c).1 with
  | some reply =>
      obtain ⟨governor, w, hp, hs⟩ := perform_eq_some hreply
      rw [hs]
      exact ⟨governor, hmeets.returned hp, .inl rfl⟩
  | none =>
      obtain ⟨w, hp, hs⟩ := perform_eq_none hreply
      obtain ⟨x, hx⟩ := hmeets.crashed hp
      rw [hs]
      exact ⟨x, hx, .inr ⟨rfl, rfl⟩⟩

end System

end Oversub
